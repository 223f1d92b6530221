/-!
# Classes of characters

Blanks and decimal digits by the Unicode 14 character database, the form in which larger classes are
stored, and what trimming does. A class is stored as the lengths of its alternating runs of code
points, which start at 0 with a run outside the class.
-/

namespace CaptureArbiter.Text

namespace Runs

/-- Walks the runs; `inside` says whether the next run belongs to the class. -/
def locate : Bool → List Nat → Nat → Bool
  | _, [], _ => false
  | inside, n :: rest, code => if code < n then inside else locate (!inside) rest (code - n)

def contains (runs : List Nat) (code : Nat) : Bool := locate false runs code

end Runs

/-- The code points of the digit zero, in order. Each script or style that has decimal digits has
its ten digits in a row. -/
def zeroDigits : List Nat :=
  [48, 1632, 1776, 1984, 2406, 2534, 2662, 2790, 2918, 3046,
    3174, 3302, 3430, 3558, 3664, 3792, 3872, 4160, 4240, 6112,
    6160, 6470, 6608, 6784, 6800, 6992, 7088, 7232, 7248, 42528,
    43216, 43264, 43472, 43504, 43600, 44016, 65296, 66720, 68912, 69734,
    69872, 69942, 70096, 70384, 70736, 70864, 71248, 71360, 71472, 71904,
    72016, 72784, 73040, 73120, 92768, 92864, 93008, 120782, 120792, 120802,
    120812, 120822, 123200, 123632, 125264, 130032]

/-- The value of a decimal digit of any script. -/
def decimalDigit? (c : Char) : Option Nat :=
  (zeroDigits.find? fun z => z ≤ c.toNat && c.toNat < z + 10).map (c.toNat - ·)

/-- A blank is any character of the bidirectional classes of separators or of the category of space
separators. -/
def isBlank (c : Char) : Bool :=
  let n := c.toNat
  (9 ≤ n && n ≤ 13) || (28 ≤ n && n ≤ 32) || n == 0x85 || n == 0xA0 || n == 0x1680 ||
    (0x2000 ≤ n && n ≤ 0x200A) || n == 0x2028 || n == 0x2029 || n == 0x202F || n == 0x205F ||
    n == 0x3000

def dropTrailing (p : Char → Bool) (cs : List Char) : List Char :=
  (cs.reverse.dropWhile p).reverse

def trimWhere (p : Char → Bool) (cs : List Char) : List Char :=
  dropTrailing p (cs.dropWhile p)

def trim (s : String) : String := String.ofList (trimWhere isBlank s.toList)

def dropTrailingSlashes (s : String) : String :=
  String.ofList (dropTrailing (· == '/') s.toList)

theorem trim_empty : trim "" = "" := by
  simp [trim, trimWhere, dropTrailing]

end CaptureArbiter.Text
