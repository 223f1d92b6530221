import CaptureArbiter.Number.Binary64
import CaptureArbiter.Number.IntegerText

/-!
# Texts that are read as floating-point numbers

A number text may have blanks around it, a sign, single underscores between digits, a decimal point
with digits on at least one side, and an exponent. Infinity and not-a-number are written out, in any
case of letters. The value is the number nearest to the decimal.
-/

namespace CaptureArbiter.FloatText

open IntegerText

/-- Removes underscores, provided that each stands between two digits. -/
def dropUnderscores (previous : Bool) : List Char → Option (List Char)
  | [] => some []
  | '_' :: c :: cs =>
    if previous && c.isDigit then (dropUnderscores true cs).map (c :: ·) else none
  | c :: cs => if c == '_' then none else (dropUnderscores c.isDigit cs).map (c :: ·)

def readExponent : List Char → Option Int
  | [] => some 0
  | c :: cs =>
    if c.toLower == 'e' then
      let (minus, digits) := splitSign cs
      if digits.isEmpty || !digits.all Char.isDigit then none
      else
        let n : Int := Decimal.digitsValue 10 (digits.map digitValue)
        some (if minus then -n else n)
    else none

def readUnsigned (negative : Bool) (cs : List Char) : Option Binary64 :=
  let whole := cs.takeWhile Char.isDigit
  let afterWhole := cs.dropWhile Char.isDigit
  let afterPoint := match afterWhole with
    | '.' :: rest => rest
    | _ => []
  let pointed := afterWhole.head? == some '.'
  let fraction := if pointed then afterPoint.takeWhile Char.isDigit else []
  let rest := if pointed then afterPoint.dropWhile Char.isDigit else afterWhole
  let digits := whole ++ fraction
  if digits.isEmpty then none
  else (readExponent rest).map fun e =>
    Binary64.ofDecimal negative (Decimal.digitsValue 10 (digits.map digitValue))
      (e - fraction.length)

def read? (s : String) : Option Binary64 :=
  let trimmed := Text.trimWhere isPadding (s.toList.map foldScript)
  (dropUnderscores false trimmed).bind fun cs =>
    let (negative, body) := splitSign cs
    let word := String.ofList (body.map Char.toLower)
    if word == "inf" || word == "infinity" then some (.infinite negative)
    else if word == "nan" then some .nan
    else readUnsigned negative body

end CaptureArbiter.FloatText
