import CaptureArbiter.Act
import CaptureArbiter.Note
import CaptureArbiter.Value.Reading

/-!
# Callbacks and deliveries

The desk keeps every callback that was made, what their sinks have received, the callbacks that were
parked for later, the counters of a service and the log. A callback is used up by its first run;
what a sink does on a delivery is part of its description: it accepts, fails, or runs another
callback.
-/

namespace CaptureArbiter

/-- What the receiver of a delivery does after it has taken the delivery. -/
inductive Sink where
  | accept
  | fail (failure : Failure)
  | rerun (callback : Nat)

/-- The number that a service gave to a request, and the request's origin. -/
structure Ticket where
  number : Nat
  origin : String
  deriving DecidableEq, Repr

/-- A callback that delivers once. One with a ticket settles the service's counters first. -/
structure Callback where
  label : String := ""
  ticket : Option Ticket := none
  sink : Sink := .accept
  used : Bool := false

structure Delivery where
  callback : Nat
  ticket : Option Nat
  devices : List Device
  outcome : Outcome
  deriving DecidableEq, Repr

structure Tally where
  total : Nat := 0
  pending : Int := 0
  abandoned : Nat := 0
  ok : Nat := 0
  noHardware : Nat := 0
  permissionDenied : Nat := 0
  failedDueToShutdown : Nat := 0
  deriving DecidableEq, Repr

/-- Callbacks and all that comes of them. -/
structure Desk where
  callbacks : List Callback := []
  deliveries : List Delivery := []
  parked : List Nat := []
  tally : Tally := {}
  log : List Note := []

namespace Tally

def count (t : Tally) : Outcome → Nat
  | .ok => t.ok
  | .noHardware => t.noHardware
  | .permissionDenied => t.permissionDenied
  | .failedDueToShutdown => t.failedDueToShutdown

def opened (t : Tally) : Tally := { t with total := t.total + 1, pending := t.pending + 1 }

def settled (t : Tally) (o : Outcome) : Tally :=
  let t := { t with pending := t.pending - 1 }
  match o with
  | .ok => { t with ok := t.ok + 1 }
  | .noHardware => { t with noHardware := t.noHardware + 1 }
  | .permissionDenied => { t with permissionDenied := t.permissionDenied + 1 }
  | .failedDueToShutdown => { t with failedDueToShutdown := t.failedDueToShutdown + 1 }

theorem count_settled (t : Tally) (o o' : Outcome) :
    (t.settled o).count o' = t.count o' + if o = o' then 1 else 0 := by
  cases o <;> cases o' <;> simp [settled, count]

end Tally

/-- How a log shows a callback or origin without a text of its own. -/
def shownOr (other s : String) : String := if s == "" then other else s

namespace Callback

def display (c : Callback) : String :=
  String.join ["ResolutionCallback(", shownOr "<address>" c.label, ", ",
    if c.used then "run" else "pending", ")"]

end Callback

def paddedNumber (n : Nat) : String :=
  let digits := Decimal.natChars n
  String.ofList (List.replicate (5 - digits.length) ' ' ++ digits)

def settledNote (t : Ticket) (devices : List Device) (o : Outcome) : Note :=
  ⟨.service, .info, String.join ["[", paddedNumber t.number, "] ", o.name, " origin=",
    shownOr "-" t.origin, " devices=", Decimal.ofNat devices.length]⟩

namespace Desk

def noted (d : Desk) (notes : List Note) : Desk := { d with log := d.log ++ notes }

def note (notes : List Note) : Act Desk Unit := .modify (·.noted notes)

def add (c : Callback) : Act Desk Nat := fun d =>
  (.ok d.callbacks.length, { d with callbacks := d.callbacks ++ [c] })

def markUsed (d : Desk) (id : Nat) : Desk :=
  { d with callbacks := d.callbacks.modify id fun c => { c with used := true } }

/-- Hands a delivery to the sink, settling the service's counters if the callback has a ticket. -/
def delivered (d : Desk) (id : Nat) (ticket : Option Ticket) (devices : List Device)
    (o : Outcome) : Desk :=
  let delivery : Delivery := ⟨id, ticket.map (·.number), devices, o⟩
  let d := match ticket with
    | none => d
    | some t => { d.noted [settledNote t devices o] with tally := d.tally.settled o }
  { d with deliveries := d.deliveries ++ [delivery] }

/-- Runs a callback. The callback is used up before the result is read, so a run with a bad result
delivers nothing for ever. A sink that runs another callback uses that one up, too, so `depth`
bounds how far this can go. -/
def runWithin : Nat → Nat → List Device → Given → Act Desk Unit
  | 0, _, _, _ => pure ()
  | depth + 1, id, devices, result => do
    match (← Act.get).callbacks[id]? with
    | none => pure ()
    | some c =>
      if c.used then Act.fail (.callbackUsed c.label)
      else do
        Act.modify (·.markUsed id)
        let o ← Act.ofExcept result.toOutcome
        Act.modify (·.delivered id c.ticket devices o)
        match c.sink with
        | .accept => pure ()
        | .fail e => Act.fail e
        | .rerun other => runWithin depth other devices o

def runCallback (id : Nat) (devices : List Device) (result : Given) : Act Desk Unit := fun d =>
  (runWithin (d.callbacks.length + 1) id devices result).run d

def park (id : Nat) : Act Desk Unit := .modify fun d => { d with parked := d.parked ++ [id] }

/-- The parked callback at a position; negative positions count from the end. -/
def parkedAt? (d : Desk) (index : Int) : Option Nat :=
  if 0 ≤ index then d.parked[index.toNat]?
  else if -index ≤ d.parked.length then d.parked[d.parked.length - index.natAbs]?
  else none

def runParked (index : Int) (devices : List Device) (result : Given) : Act Desk Unit := do
  match (← Act.get).parkedAt? index with
  | none => Act.fail .noParkedCallback
  | some id => runCallback id devices result

def isUsed (d : Desk) (id : Nat) : Bool := (d.callbacks[id]?.map (·.used)).getD false

def labelOf (d : Desk) (id : Nat) : String := (d.callbacks[id]?.map (·.label)).getD ""

end Desk

end CaptureArbiter
