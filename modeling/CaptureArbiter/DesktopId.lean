import CaptureArbiter.Text.Split
import CaptureArbiter.Value.Reading

/-!
# Ids of desktop sources

A screen or a window is named by a text `type:id` or `type:id:window`. Any other text gives no
source. A written id always has all three parts.
-/

namespace CaptureArbiter

/-- A thing on the desktop that can be captured, or none. -/
inductive DesktopId where
  | none
  | screen (id window : Int)
  | window (id window : Int)
  deriving DecidableEq, Repr

namespace DesktopId

def fullDesktop : DesktopId := .screen (-1) 0

def isNone : DesktopId → Bool
  | .none => true
  | _ => false

def typeName : DesktopId → String
  | .none => "none"
  | .screen .. => "screen"
  | .window .. => "window"

def sourceId : DesktopId → Int
  | .none => 0
  | .screen id _ => id
  | .window id _ => id

def windowId : DesktopId → Int
  | .none => 0
  | .screen _ w => w
  | .window _ w => w

/-- The written id; empty for no source. -/
def toText : DesktopId → String
  | .none => ""
  | d => ":".intercalate [d.typeName, Decimal.ofInt d.sourceId, Decimal.ofInt d.windowId]

/-- An optional minus sign followed by ASCII digits. -/
def isSignedNumber (cs : List Char) : Bool :=
  let digits := match cs with
    | '-' :: rest => rest
    | rest => rest
  !digits.isEmpty && digits.all Char.isDigit

def ofTypeName? (word : List Char) : Option (Int → Int → DesktopId) :=
  if word == "screen".toList then some .screen
  else if word == "window".toList then some .window
  else Option.none

def readNumbers (make : Int → Int → DesktopId) : List (List Char) → Except Failure DesktopId
  | [id] =>
    if isSignedNumber id then do
      return make (← Value.readInteger 10 (String.ofList id)) 0
    else .ok .none
  | [id, w] =>
    if isSignedNumber id && isSignedNumber w then do
      let number ← Value.readInteger 10 (String.ofList id)
      return make number (← Value.readInteger 10 (String.ofList w))
    else .ok .none
  | _ => .ok .none

/-- The source that a text names. It fails only for a number of more than 4300 digits. -/
def parse (s : String) : Except Failure DesktopId :=
  match Text.splitAt ':' s.toList with
  | [] => .ok .none
  | word :: numbers =>
    match ofTypeName? word with
    | some make => readNumbers make numbers
    | Option.none => .ok .none

/-- The source that a plain value names; values that count as false name none. -/
def ofValue (v : Value) : Except Failure DesktopId := do parse (← v.toTextOrEmpty)

theorem toText_none : toText .none = "" := rfl

end DesktopId

end CaptureArbiter
