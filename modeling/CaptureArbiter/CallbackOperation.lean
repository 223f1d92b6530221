import CaptureArbiter.Custody
import CaptureArbiter.Operation

/-!
# Operations on a callback and its holder

A callback can be run directly and through its holder. The holder owns the callback itself or, when
it wraps the sink, a callback of its own over the same sink.
-/

namespace CaptureArbiter

inductive CallbackOperation where
  | run (devices : List Device) (result : Given)
  | fire (devices : List Device) (result : Given)
  | display
  | peek
  | handOff
  | close
  | drop

/-- A callback and the custody of its holder, until the holder is destroyed. -/
structure CallbackSession where
  callback : Nat
  custody : Custody
  isDropped : Bool := false

namespace CallbackSession

/-- A new callback over a sink, and a holder of it or of another callback over the same sink. -/
def start (label : String) (sink : Sink) (wraps : Bool) : CallbackSession :=
  let direct : Callback := { label, sink }
  if wraps then
    { callback := 0, custody := ⟨some 1, { callbacks := [direct, { sink }] }⟩ }
  else { callback := 0, custody := ⟨some 0, { callbacks := [direct] }⟩ }

/-- Runs an action of the holder; `name` is what was asked of it. -/
def onHolder {α : Type} (name : String) (a : Act Custody α) : Act CallbackSession α := fun s =>
  if s.isDropped then (.error (.noAttribute "NoneType" name), s)
  else
    let (r, c) := a.run s.custody
    (r, { s with custody := c })

def perform : CallbackOperation → Act CallbackSession Reply
  | .run devices result => do
    let id := (← Act.get).callback
    (Custody.onDesk (Desk.runCallback id devices result)).zoom custody
      fun c s => { s with custody := c }
    return .nothing
  | .fire devices result => do
    onHolder "fire" (Custody.fire devices result)
    return .nothing
  | .display => do
    let s ← Act.get
    return .text ((s.custody.desk.callbacks[s.callback]?.map Callback.display).getD "")
  | .peek => do
    let id ← onHolder "peek" Custody.peek
    return .flag (id == (← Act.get).callback)
  | .handOff => do
    let id ← onHolder "hand_off" Custody.handOff
    return .flag (id == (← Act.get).callback)
  | .close => do return .flag (← onHolder "close" Custody.close)
  | .drop => do
    let _ ← Act.attempt (onHolder "close" Custody.close)
    Act.modify fun s => { s with isDropped := true }
    return .nothing

def hasRun (s : CallbackSession) : Bool := s.custody.desk.isUsed s.callback

/-- Does the holder still have its callback? Nobody can tell once the holder is destroyed. -/
def isHeld (s : CallbackSession) : Option Bool :=
  if s.isDropped then none else some s.custody.held.isSome

def after (s : CallbackSession) : List CallbackOperation → CallbackSession
  | [] => s
  | op :: ops => ((perform op).run s).2.after ops

end CallbackSession

end CaptureArbiter
