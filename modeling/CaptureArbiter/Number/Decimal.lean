/-!
# Decimal notation of integers

Integers are written with ASCII digits, no leading zero and a minus sign when negative. The digit
list of a number is also read back here; which texts are accepted as numbers is the matter of
`Number.IntegerText`.
-/

namespace CaptureArbiter.Decimal

def digitChar (n : Nat) : Char := Char.ofNat (48 + n)

/-- The decimal digits of `n`, the most significant first. -/
def natChars (n : Nat) : List Char :=
  if n < 10 then [digitChar n] else natChars (n / 10) ++ [digitChar (n % 10)]

def intChars : Int → List Char
  | .ofNat n => natChars n
  | .negSucc n => '-' :: natChars (n + 1)

def ofNat (n : Nat) : String := String.ofList (natChars n)

def ofInt (n : Int) : String := String.ofList (intChars n)

/-- The value of a digit list in the given base, the most significant digit first. -/
def digitsValue (base : Nat) (ds : List Nat) : Nat := ds.foldl (fun v d => base * v + d) 0

theorem digitsValue_append (base : Nat) (ds es : List Nat) :
    digitsValue base (ds ++ es) = es.foldl (fun v d => base * v + d) (digitsValue base ds) := by
  simp [digitsValue]

theorem natChars_ne_nil (n : Nat) : natChars n ≠ [] := by
  unfold natChars
  split <;> simp

end CaptureArbiter.Decimal
