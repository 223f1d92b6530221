/-!
# Binary floating-point numbers of 64 bits

A number is not-a-number, an infinity, or plus or minus `mantissa · 2 ^ exponent`. The only way to a
finite number is rounding an exact ratio to the nearest number, ties to the even mantissa, so every
operation below is exact arithmetic followed by that rounding.
-/

namespace CaptureArbiter

/-- A number of the 64-bit binary format. Zero has mantissa and exponent 0. -/
inductive Binary64 where
  | nan
  | infinite (negative : Bool)
  | finite (negative : Bool) (mantissa : Nat) (exponent : Int)
  deriving DecidableEq, Repr

namespace Binary64

def zero (negative : Bool) : Binary64 := .finite negative 0 0

/-- The least exponent of a finite number. -/
def minExponent : Int := -1074

/-- The greatest exponent of a finite number with a 53-bit mantissa. -/
def maxExponent : Int := 971

/-- The quotient of `num` by `den · 2 ^ e`, rounded down, and the remainder with its divisor. -/
def scaledDiv (num den : Nat) (e : Int) : Nat × Nat × Nat :=
  let n := num * Nat.pow 2 (-e).toNat
  let d := den * Nat.pow 2 e.toNat
  (n / d, n % d, d)

/-- The exponent at which `num / den` has a mantissa of 53 bits, or the least one. -/
def exponentFor (num den : Nat) : Int :=
  let e : Int := (Nat.log2 num : Int) - Nat.log2 den - 52
  let e := if (scaledDiv num den e).1 < Nat.pow 2 52 then e - 1 else e
  if e < minExponent then minExponent else e

/-- The number nearest to plus or minus `num / den`. -/
def ofRatio (negative : Bool) (num den : Nat) : Binary64 :=
  if num == 0 then zero negative
  else
    let e := exponentFor num den
    let (q, r, d) := scaledDiv num den e
    let m := if 2 * r > d || (2 * r == d && q % 2 == 1) then q + 1 else q
    let (m, e) := if m == Nat.pow 2 53 then (Nat.pow 2 52, e + 1) else (m, e)
    if m == 0 then zero negative
    else if e > maxExponent then .infinite negative
    else .finite negative m e

def ofInt (n : Int) : Binary64 := ofRatio (n < 0) n.natAbs 1

/-- The number nearest to plus or minus `digits · 10 ^ exponent`. Exponents far outside the range of
finite numbers are settled without computing the power. -/
def ofDecimal (negative : Bool) (digits : Nat) (exponent : Int) : Binary64 :=
  let size : Int := (Nat.log2 digits : Int) / 3 + 1
  if digits == 0 then zero negative
  else if exponent > 400 then .infinite negative
  else if exponent + size < -400 then zero negative
  else
    ofRatio negative (digits * Nat.pow 10 exponent.toNat) (Nat.pow 10 (-exponent).toNat)

def neg : Binary64 → Binary64
  | .nan => .nan
  | .infinite s => .infinite (!s)
  | .finite s m e => .finite (!s) m e

def signed (negative : Bool) (mantissa : Nat) : Int := if negative then -mantissa else mantissa

/-- The sum of two numbers. A sum of zero is minus zero only if both numbers are. -/
def add : Binary64 → Binary64 → Binary64
  | .finite s m e, .finite t n f =>
    let low := min e f
    let left := signed s (m * Nat.pow 2 (e - low).toNat)
    let right := signed t (n * Nat.pow 2 (f - low).toNat)
    let sum := left + right
    if sum == 0 then zero (s && t && m == 0)
    else ofRatio (sum < 0) (sum.natAbs * Nat.pow 2 low.toNat) (Nat.pow 2 (-low).toNat)
  | .nan, _ => .nan
  | _, .nan => .nan
  | .infinite s, .infinite t => if s == t then .infinite s else .nan
  | .infinite s, _ => .infinite s
  | _, .infinite t => .infinite t

/-- The product of a number and a positive integer that is not too large. -/
def mulNat : Binary64 → Nat → Binary64
  | .finite s m e, k =>
    match ofInt k with
    | .finite _ n f =>
      if m == 0 then zero s
      else ofRatio s (m * n * Nat.pow 2 (e + f).toNat) (Nat.pow 2 (-(e + f)).toNat)
    | _ => if m == 0 then .nan else .infinite s
  | .nan, _ => .nan
  | .infinite s, _ => .infinite s

def isNonzero : Binary64 → Bool
  | .finite _ m _ => m != 0
  | _ => true

def truncate? : Binary64 → Option Int
  | .finite s m e =>
    let magnitude : Nat := m * Nat.pow 2 e.toNat / Nat.pow 2 (-e).toNat
    some (if s then -(magnitude : Int) else magnitude)
  | _ => none

def exactInt? (x : Binary64) : Option Int :=
  match x with
  | .finite _ m e => if m % Nat.pow 2 (-e).toNat == 0 then x.truncate? else none
  | _ => none

/-- Numeric equality: zeros of both signs are equal, and not-a-number equals nothing. -/
def equals : Binary64 → Binary64 → Bool
  | .nan, _ => false
  | _, .nan => false
  | .finite s m e, .finite t n f => m == n && e == f && (s == t || m == 0)
  | .infinite s, .infinite t => s == t
  | _, _ => false

end Binary64

end CaptureArbiter
