import CaptureArbiter.Desk

/-!
# Custody of a callback

A holder owns one callback until it lets go of it, once: by running it, by handing it over, or on
closing, which delivers the failure due to shutdown.
-/

namespace CaptureArbiter

/-- A holder's callback, and the desk where it lies. -/
structure Custody where
  held : Option Nat
  desk : Desk

namespace Custody

def onDesk {α : Type} (a : Act Desk α) : Act Custody α :=
  a.zoom desk fun d c => { c with desk := d }

def peek : Act Custody Nat := do
  match (← Act.get).held with
  | some id => pure id
  | none => Act.fail .callbackGone

/-- Lets go of the callback without running it; the receiver has to run it. -/
def handOff : Act Custody Nat := do
  let id ← peek
  Act.modify fun c => { c with held := none }
  return id

def fire (devices : List Device) (result : Given) : Act Custody Unit := do
  let id ← handOff
  onDesk (Desk.runCallback id devices result)

def closingNote (label : String) : Note :=
  ⟨.callback, .warning, String.join ["Resolving pending request ", shownOr "<unnamed>" label,
    " with ", Outcome.failedDueToShutdown.name]⟩

/-- Delivers the failure due to shutdown if the callback is still held, and tells whether it was. -/
def close : Act Custody Bool := do
  let c ← Act.get
  match c.held with
  | none => return false
  | some id =>
    onDesk (Desk.note [closingNote (c.desk.labelOf id)])
    fire [] (.ofOutcome .failedDueToShutdown)
    return true

end Custody

end CaptureArbiter
