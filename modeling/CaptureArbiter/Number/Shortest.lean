import CaptureArbiter.Number.Binary64
import CaptureArbiter.Number.Decimal

/-!
# The shortest decimal of a binary number

Among the decimals that round to a given 64-bit number the shortest is written, and of several with
that many digits the nearest. For each digit count the two neighbours of the number on that decimal
grid are tested in exact arithmetic; the first grid with a neighbour inside the rounding interval
wins, and seventeen digits always suffice.
-/

namespace CaptureArbiter.Shortest

/-- A positive number together with the ends of the interval of reals that round to it, all over one
denominator. The ends belong to the interval iff `closed`. -/
structure Interval where
  value : Nat
  low : Nat
  high : Nat
  den : Nat
  closed : Bool

/-- The interval of `mantissa · 2 ^ exponent`. Below a power of two the neighbour is half as far. -/
def Interval.of (mantissa : Nat) (exponent : Int) : Interval :=
  let up := Nat.pow 2 exponent.toNat
  let narrow := mantissa == Nat.pow 2 52 && exponent > Binary64.minExponent
  { value := 4 * mantissa * up
    low := (4 * mantissa - (if narrow then 1 else 2)) * up
    high := (4 * mantissa + 2) * up
    den := 4 * Nat.pow 2 (-exponent).toNat
    closed := mantissa % 2 == 0 }

def Interval.holds (i : Interval) (num den : Nat) : Bool :=
  let x := num * i.den
  let lo := i.low * den
  let hi := i.high * den
  if i.closed then lo ≤ x && x ≤ hi else lo < x && x < hi

/-- The exponent `p` with `10 ^ (p - 1) ≤ num / den < 10 ^ p`, found by counting up from `p`. -/
def magnitude (num den : Nat) : Nat → Int → Int
  | 0, p => p
  | fuel + 1, p =>
    if num * Nat.pow 10 (-p).toNat < den * Nat.pow 10 p.toNat then p
    else magnitude num den fuel (p + 1)

/-- The multiple of `10 ^ scale` nearest to the interval's value among its two neighbours that lie
in the interval, as the multiplier. -/
def gridPoint? (i : Interval) (scale : Int) : Option Nat :=
  let up := Nat.pow 10 scale.toNat
  let down := Nat.pow 10 (-scale).toNat
  let n := i.value * down
  let d := i.den * up
  let k := n / d
  let below := i.holds (k * up) down && k != 0
  let above := i.holds ((k + 1) * up) down
  let upper := 2 * (n % d) > d || (2 * (n % d) == d && k % 2 == 1)
  if below && above then some (if upper then k + 1 else k)
  else if below then some k
  else if above then some (k + 1)
  else none

/-- Tries grids of more and more digits. -/
def search (i : Interval) (p : Int) : Nat → Nat → Nat × Int
  | 0, count => (i.value / i.den, p - count)
  | fuel + 1, count =>
    match gridPoint? i (p - count) with
    | some k => (k, p - count)
    | none => search i p fuel (count + 1)

/-- Digits and decimal exponent of the shortest decimal of a positive number. -/
def decimal (mantissa : Nat) (exponent : Int) : Nat × Int :=
  let i := Interval.of mantissa exponent
  let start : Int := ((Nat.log2 mantissa : Int) + exponent) * 3 / 10 - 2
  search i (magnitude i.value i.den 400 start) 17 1

/-- Removes trailing zeros from the digits, least significant first. -/
def dropZeros (cs : List Char) : List Char := cs.dropWhile (· == '0')

/-- How a decimal is laid out as text. -/
structure Layout where
  /-- The least position of the decimal point that is written without an exponent. -/
  leastPoint : Int
  /-- The greatest such position. -/
  greatestPoint : Int
  /-- The least number of digits of a written exponent. -/
  exponentDigits : Nat

/-- Floating-point values are written positionally from `0.0001` up to sixteen digits before the
point, always with a fraction; outside, with a signed exponent of at least two digits. -/
def Layout.standard : Layout := ⟨-3, 16, 2⟩

/-- Lays out digits with the decimal point after the first `point` of them. -/
def Layout.positional (digits : List Char) (point : Int) : List Char :=
  if point ≤ 0 then '0' :: '.' :: (List.replicate (-point).toNat '0' ++ digits)
  else
    let whole := digits.take point.toNat
    let zeros := List.replicate (point.toNat - digits.length) '0'
    let fraction := digits.drop point.toNat
    whole ++ zeros ++ '.' :: (if fraction.isEmpty then ['0'] else fraction)

def Layout.scientific (layout : Layout) (digits : List Char) (point : Int) : List Char :=
  let e := point - 1
  let shown := Decimal.natChars e.natAbs
  let padded := List.replicate (layout.exponentDigits - shown.length) '0' ++ shown
  let mantissa := match digits with
    | [] => ['0']
    | [d] => [d]
    | d :: rest => d :: '.' :: rest
  mantissa ++ 'e' :: (if e < 0 then '-' else '+') :: padded

def text (layout : Layout) : Binary64 → String
  | .nan => "nan"
  | .infinite negative => if negative then "-inf" else "inf"
  | .finite negative m e =>
    let sign := if negative then ['-'] else []
    if m == 0 then String.ofList (sign ++ ['0', '.', '0'])
    else
      let (k, scale) := decimal m e
      let all := Decimal.natChars k
      let point : Int := all.length + scale
      let digits := (dropZeros all.reverse).reverse
      String.ofList <| sign ++
        (if layout.leastPoint ≤ point && point ≤ layout.greatestPoint
          then Layout.positional digits point
          else layout.scientific digits point)

end CaptureArbiter.Shortest
