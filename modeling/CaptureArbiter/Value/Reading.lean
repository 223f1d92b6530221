import CaptureArbiter.Failure

/-!
# Reading plain data

What a value gives when a text, an integer or a member of an enumeration is asked for, and how the
asking fails. Writing a value fails only if it holds an integer of more than 4300 digits.
-/

namespace CaptureArbiter

namespace Value

/-- The display text of a value that can be written. -/
def toText (v : Value) : Except Failure String :=
  if v.isWritable then .ok v.display else .error .integerTooLong

/-- The display text of a value, empty for a value that counts as false. -/
def toTextOrEmpty (v : Value) : Except Failure String :=
  if v.isTruthy then v.toText else .ok ""

/-- The failure for a value, provided that the value can be written into its message. -/
def checked (v : Value) (failure : Failure) : Failure :=
  if v.isWritable then failure else .integerTooLong

/-- The integer that was read, or the failure. -/
def orFailure (malformed : Failure) : Except IntegerText.Fault Int → Except Failure Int
  | .ok n => .ok n
  | .error .malformed => .error malformed
  | .error (.tooLong digits) => .error (.integerTextTooLong digits)

def readInteger (base : Nat) (s : String) : Except Failure Int :=
  orFailure (.notInteger base s) (IntegerText.read base s)

/-- Bytes are read as a text of ASCII characters; other bytes are part of no number. -/
def readIntegerBytes (data : List UInt8) : Except Failure Int :=
  let cs := data.map fun b => if b.toNat < 128 then Char.ofNat b.toNat else '?'
  orFailure (.notIntegerBytes data) (IntegerText.readChars 10 cs)

/-- The integer that a value gives: texts and bytes are read, fractions dropped, truth values are 0
and 1. -/
def toInt : Value → Except Failure Int
  | .bool b => .ok (if b then 1 else 0)
  | .int n => .ok n
  | .float .nan => .error .nanToInteger
  | .float x =>
    match x.truncate? with
    | some n => .ok n
    | none => .error .infinityToInteger
  | .text s => readInteger 10 s
  | .bytes data => readIntegerBytes data
  | v => .error (.noIntegerFrom v.className)

/-- The member of an enumeration whose exact name the value is. -/
def toMember {α : Type} [Named α] (v : Value) : Except Failure α :=
  let member : Option α := match v with
    | .text s => Named.ofName? s
    | _ => none
  match member with
  | some a => .ok a
  | none => .error (v.checked (.notMember (Named.title α) v))

theorem toText_text (s : String) : toText (.text s) = .ok s := rfl

end Value

/-- What a caller gives for a result: plain data, or a member of an enumeration, by the names of
both. A member of an enumeration of texts is its text as well. -/
inductive Given where
  | plain (v : Value)
  | textMember (enumeration name text : String)
  | member (enumeration name : String) (value : Value)

namespace Given

instance : Coe Value Given := ⟨.plain⟩

def ofOutcome (o : Outcome) : Given := .textMember (Named.title Outcome) o.name o.name

instance : Coe Outcome Given := ⟨.ofOutcome⟩

def memberLiteral (enumeration name : String) (value : Value) : String :=
  String.join ["<", enumeration, ".", name, ": ", value.literal, ">"]

/-- The outcome that is given: by itself, or by a text that is its name. -/
def toOutcome : Given → Except Failure Outcome
  | .plain v => v.toMember
  | .textMember enumeration name text =>
    match Named.ofName? text with
    | some o => .ok o
    | none => .error
      (.foreignMember (memberLiteral enumeration name (.text text)) (Named.title Outcome))
  | .member enumeration name v => .error
    (v.checked (.foreignMember (memberLiteral enumeration name v) (Named.title Outcome)))

/-- The value of a member, as a log shows it. Plain data is no member and has no value. -/
def valueText : Given → Except Failure String
  | .plain v => .error (.noAttribute v.className "value")
  | .textMember _ _ text => .ok text
  | .member _ _ v => .ok v.display

theorem toOutcome_ofOutcome (o : Outcome) : (ofOutcome o).toOutcome = .ok o := by
  simp [toOutcome, ofOutcome, Outcome.ofName?_name]

theorem valueText_ofOutcome (o : Outcome) : (ofOutcome o).valueText = .ok o.name := rfl

end Given

end CaptureArbiter
