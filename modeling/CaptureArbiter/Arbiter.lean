import CaptureArbiter.Consent
import CaptureArbiter.Custody
import CaptureArbiter.Frames
import CaptureArbiter.Screen
import CaptureArbiter.Selection

/-!
# Arbiters

An arbiter has custody of one request's callback. It grants screen requests at once, abandons the
requests of frames that are gone, offers what remains to the consent authority, and decides what the
authority does not claim. Whoever releases an arbiter that still has custody resolves its request
with the failure due to shutdown.
-/

namespace CaptureArbiter

inductive Phase where
  | pending
  | delegatedToScreen
  | offered
  | delegatedToConsent
  | deciding
  | resolved
  | abandonedNoFrame
  deriving DecidableEq, Repr

def Phase.name : Phase → String
  | .pending => "PENDING"
  | .delegatedToScreen => "DELEGATED_TO_SCREEN_RESOLVER"
  | .offered => "OFFERED_TO_CONSENT"
  | .delegatedToConsent => "DELEGATED_TO_CONSENT"
  | .deciding => "DECIDING"
  | .resolved => "RESOLVED"
  | .abandonedNoFrame => "ABANDONED_NO_FRAME"

/-- What arbiters consult, and the desk where their callbacks lie. -/
structure Office where
  catalog : Catalog := {}
  frames : Frames := {}
  consent : Consent := .decline
  desk : Desk := {}

/-- One request and the custody of its callback. -/
structure Arbiter where
  request : Request
  phase : Phase := .pending
  held : Option Nat

/-- An arbiter at work in an office. -/
structure Hearing where
  office : Office
  arbiter : Arbiter

namespace Office

def onDesk {α : Type} (a : Act Desk α) : Act Office α :=
  a.zoom desk fun d o => { o with desk := d }

end Office

namespace Hearing

def custody (h : Hearing) : Custody := ⟨h.arbiter.held, h.office.desk⟩

def onCustody {α : Type} (a : Act Custody α) : Act Hearing α :=
  a.zoom custody fun c h =>
    { office := { h.office with desk := c.desk }, arbiter := { h.arbiter with held := c.held } }

def onDesk {α : Type} (a : Act Desk α) : Act Hearing α := onCustody (Custody.onDesk a)

def enter (phase : Phase) : Act Hearing Unit :=
  .modify fun h => { h with arbiter := { h.arbiter with phase } }

def deviceText (d : Device) : String := if d.id == "" then d.kind.name else d.id

def resolvedNote (r : Request) (devices : List Device) (result : String) : Note :=
  ⟨.arbiter, .info, String.join ["Capture request ", Consent.frameText r, " resolved ", result,
    " devices=", (Value.list (devices.map fun d => .text (deviceText d))).literal]⟩

def screenNote (devices : List Device) : Note :=
  ⟨.arbiter, .debug, String.join ["Screen capture request -> ", Decimal.ofNat devices.length,
    " device(s)"]⟩

def goneNote (r : Request) : Note :=
  ⟨.arbiter, .warning,
    String.join ["Frame ", Consent.frameText r, " is gone, abandoning capture request"]⟩

def claimedNote (frame : Frame) : Note :=
  ⟨.arbiter, .debug, "Consent authority claimed request from " ++
    (frame.url.orElse (.text "<no url>")).display⟩

/-- Lets go of the callback and runs it with what is given for a result. Only the run makes an
outcome of it: what has a value but is no outcome uses the callback up in vain. -/
def resolve (devices : List Device) (result : Given) : Act Hearing Unit := do
  let h ← Act.get
  let shown ← Act.ofExcept result.valueText
  onDesk (Desk.note [resolvedNote h.arbiter.request devices shown])
  onCustody (Custody.fire devices result)
  enter .resolved

def accept : Act Hearing Unit := do
  let h ← Act.get
  let r := h.arbiter.request
  onDesk (Desk.note (Selection.notes h.office.catalog r r.wantsMicrophone r.wantsCamera))
  let devices ← Act.ofExcept
    (Selection.choose h.office.catalog r r.wantsMicrophone r.wantsCamera)
  resolve devices Outcome.ok

def deny (result : Given) : Act Hearing Unit := resolve [] result

/-- A denial by a caller that makes an outcome of a value first. -/
def denyNamed (code : Value) : Act Hearing Unit := do
  let o : Outcome ← Act.ofExcept code.toMember
  deny o

/-- Releases the callback; tells whether the failure due to shutdown was delivered. -/
def close : Act Hearing Bool := onCustody Custody.close

def runScreen : Act Hearing Unit := do
  enter .delegatedToScreen
  let r := (← Act.get).arbiter.request
  onDesk (Desk.note (Screen.notes r))
  let devices ← Act.ofExcept (Screen.grant r)
  onDesk (Desk.note [screenNote devices])
  resolve devices (Screen.outcome devices)

/-- The branch of a run in which the frame is gone. The callback stays in custody. -/
def abandon : Act Hearing Unit := do
  onDesk (Desk.note [goneNote (← Act.get).arbiter.request])
  enter .abandonedNoFrame

/-- What the arbiter does with a request that the authority has not claimed. -/
def decide : Act Hearing Unit := do
  enter .deciding
  if (← Act.get).office.catalog.hasAny then accept else deny Outcome.noHardware

def runOffered (frame : Frame) : Act Hearing Unit := do
  enter .offered
  let callback ← onCustody Custody.peek
  let h ← Act.get
  let claim ← onDesk (h.office.consent.offer h.arbiter.request callback)
  if claim.isTruthy then
    let _ ← onCustody Custody.handOff
    enter .delegatedToConsent
    onDesk (Desk.note [claimedNote frame])
  else decide

/-- Runs the arbiter, which it allows once, and gives the phase that it reached. -/
def run : Act Hearing Phase := do
  let h ← Act.get
  let r := h.arbiter.request
  if h.arbiter.phase != .pending then Act.fail (.alreadyRan h.arbiter.phase.name)
  else if r.isScreenCapture then runScreen
  else match h.office.frames.find? r.processId r.frameId with
    | none => abandon
    | some frame => runOffered frame
  return (← Act.get).arbiter.phase

/-- Runs the arbiter and releases it afterwards, also after a failure. A failure of the release
takes the place of an earlier one. -/
def scopedRun : Act Hearing Phase := do
  let outcome ← Act.attempt run
  let _ ← close
  Act.ofExcept outcome

end Hearing

end CaptureArbiter
