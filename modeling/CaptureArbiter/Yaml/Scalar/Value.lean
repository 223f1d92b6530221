import CaptureArbiter.Text.LetterCase
import CaptureArbiter.Value.Reading
import CaptureArbiter.Yaml.Scalar

/-!
# The values of tagged scalars

How the text of a scalar is read once its tag is known. A tag that was written by hand may not fit
its text; then the text is refused.
-/

namespace CaptureArbiter.Yaml.Scalar

def fails {α : Type} (f : Failure) : Except Fault α := .error (.failure f)

def lift {α : Type} (r : Except Failure α) : Except Fault α := r.mapError .failure

def withoutLows (text : String) : List Char := text.toList.filter (· != '_')

/-- The sign of a number and what follows it; there has to be something. -/
def signAndBody (cs : List Char) : Except Fault (Bool × List Char) :=
  match cs with
  | [] => fails .noFirstCharacter
  | '-' :: body => .ok (true, body)
  | '+' :: body => .ok (false, body)
  | body => .ok (false, body)

def withSign (minus : Bool) (n : Int) : Int := if minus then -n else n

def integerIn (base : Nat) (cs : List Char) : Except Fault Int :=
  lift (Value.readInteger base (String.ofList cs))

def magnitude (body : List Char) : Except Fault Int :=
  match body with
  | [] => fails .noFirstCharacter
  | ['0'] => .ok 0
  | '0' :: 'b' :: ds => integerIn 2 ds
  | '0' :: 'x' :: ds => integerIn 16 ds
  | '0' :: _ => integerIn 8 body
  | _ => do
    if body.contains ':' then
      let parts ← (Text.splitAt ':' body).mapM (integerIn 10)
      return parts.foldl (fun n d => 60 * n + d) 0
    else integerIn 10 body

def integerValue (text : String) : Except Fault Value := do
  let (minus, body) ← signAndBody (withoutLows text)
  return .int (withSign minus (← magnitude body))

def fraction (cs : List Char) : Except Fault Binary64 :=
  let text := String.ofList cs
  match FloatText.read? text with
  | some x => .ok x
  | none => fails (.notFloat text)

/-- The sum of digits of base sixty, the least first, from a power of sixty on. -/
def sumSixtieths (sum : Binary64) (power : Nat) : List Binary64 → Except Fault Binary64
  | [] => .ok sum
  | d :: ds =>
    match Binary64.ofInt power with
    | .infinite _ => fails .hugeFactor
    | _ => sumSixtieths (sum.add (d.mulNat power)) (power * 60) ds

def floatValue (text : String) : Except Fault Value := do
  let lowered := (Text.lower (String.ofList (withoutLows text))).toList
  let (minus, body) ← signAndBody lowered
  let x ←
    if body == ".inf".toList then pure (.infinite false)
    else if body == ".nan".toList then pure .nan
    else if body.contains ':' then do
      let parts ← (Text.splitAt ':' body).mapM fraction
      sumSixtieths (.zero false) 1 parts.reverse
    else fraction body
  return .float (if minus then x.neg else x)

/-- The value of a truth word in any case of letters. -/
def truthValue (text : String) : Except Fault Value :=
  let word := Text.lower text
  match truthWords.lookup word with
  | some b => .ok (.bool b)
  | none => fails (.noSuchTruth word)

def digitsNumber (cs : List Char) : Nat :=
  Decimal.digitsValue 10 (cs.map IntegerText.digitValue)

def checkedDate (p : StampParts) : Except Fault Date :=
  let d : Date := ⟨digitsNumber p.year, digitsNumber p.month, digitsNumber p.day⟩
  if d.year == 0 then fails (.badCalendarPart "year 0 is out of range")
  else if d.month == 0 || 12 < d.month then fails (.badCalendarPart "month must be in 1..12")
  else if d.day == 0 || Date.daysInMonth d.year d.month < d.day then
    fails (.badCalendarPart "day is out of range for month")
  else .ok d

/-- The offset from universal time in minutes, which is less than a day. -/
def checkedOffset (p : StampParts) : Except Fault (Option Int) :=
  match p.offset with
  | some (minus, hours, minutes) =>
    let n := withSign minus (60 * digitsNumber hours + digitsNumber minutes : Nat)
    if 1440 ≤ n.natAbs then fails (.offsetTooLarge (Stamp.spanLiteral n)) else .ok (some n)
  | none => .ok (if p.isUniversal then some 0 else none)

/-- The microseconds of a fraction, of which six digits count. -/
def micros (cs : List Char) : Nat :=
  digitsNumber ((cs ++ List.replicate 6 '0').take 6)

def stampValue (text : String) : Except Fault Value :=
  match readParts? (dropLineFeed text.toList) with
  | none => fails .notStamp
  | some p =>
    match p.time with
    | none => do return .stamp (.date (← checkedDate p))
    | some (hour, minute, second) => do
      let offset ← checkedOffset p
      let date ← checkedDate p
      let h := digitsNumber hour
      let m := digitsNumber minute
      let s := digitsNumber second
      if 23 < h then fails (.badCalendarPart "hour must be in 0..23")
      else if 59 < m then fails (.badCalendarPart "minute must be in 0..59")
      else if 59 < s then fails (.badCalendarPart "second must be in 0..59")
      else return .stamp (.moment date h m s (micros p.fraction) offset)

def digit64? (c : Char) : Option Nat :=
  let n := c.toNat
  if 65 ≤ n && n ≤ 90 then some (n - 65)
  else if 97 ≤ n && n ≤ 122 then some (n - 71)
  else if 48 ≤ n && n ≤ 57 then some (n + 4)
  else if c == '+' then some 62
  else if c == '/' then some 63
  else none

/-- Reads digits of base 64, four of which make three bytes; other characters are skipped. `place`
counts the digits of the present four, `left` is what the last digit left over, and `pads` counts
the equal signs since the last digit. -/
def bytesFrom (place left pads : Nat) : List Char → Except Fault (List UInt8)
  | [] => if place == 0 then .ok [] else .error .malformed
  | c :: cs =>
    if c == '=' then
      if 2 ≤ place && 4 ≤ place + pads + 1 then .ok []
      else bytesFrom place left (if 2 ≤ place then pads + 1 else pads) cs
    else match digit64? c with
      | none => bytesFrom place left pads cs
      | some d => do
        if place == 0 then bytesFrom 1 d 0 cs
        else if place == 1 then
          return (left * 4 + d / 16).toUInt8 :: (← bytesFrom 2 (d % 16) 0 cs)
        else if place == 2 then
          return (left * 16 + d / 4).toUInt8 :: (← bytesFrom 3 (d % 4) 0 cs)
        else return (left * 64 + d).toUInt8 :: (← bytesFrom 0 0 0 cs)

def bytesValue (text : String) : Except Fault Value :=
  if text.toList.all (·.toNat < 128) then do
    return .bytes (← bytesFrom 0 0 0 text.toList)
  else .error .malformed

def valueOf (name text : String) : Except Fault Value :=
  if name == "str" then .ok (.text text)
  else if name == "null" then .ok .null
  else if name == "bool" then truthValue text
  else if name == "int" then integerValue text
  else if name == "float" then floatValue text
  else if name == "timestamp" then stampValue text
  else if name == "binary" then bytesValue text
  else .error .malformed

end CaptureArbiter.Yaml.Scalar
