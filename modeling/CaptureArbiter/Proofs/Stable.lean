import CaptureArbiter.Operation
import CaptureArbiter.Proofs.Keeps
import CaptureArbiter.Proofs.Received

/-!
# Invariants of the desk

Whatever becomes of callbacks, the desk changes in few ways: notes and parked callbacks change, an
unused callback is used up in vain, or it is used up by a delivery. `Desk.Steady` says that an
invariant survives these, and `Desk.Stable` that it survives new callbacks and other counters, too.
The results that callbacks are run with may be restricted.
-/

namespace CaptureArbiter

/-- An invariant of the desk that no run of a callback breaks, provided that callbacks are run only
with results that satisfy `V`. Outcomes are such results. -/
structure Desk.Steady (V : Given → Prop) (P : Desk → Prop) : Prop where
  named : ∀ o, V (.ofOutcome o)
  noted : ∀ {d} notes, P d → P (d.noted notes)
  parked : ∀ {d : Desk} ids, P d → P { d with parked := ids }
  wasted : ∀ {d : Desk} {id c v e}, d.callbacks[id]? = some c → c.used = false → V v →
    v.toOutcome = .error e → P d → P (d.markUsed id)
  settled : ∀ {d : Desk} {id c} devices o, d.callbacks[id]? = some c → c.used = false → P d →
    P (d.settle id c devices o)

/-- An invariant of the desk that nothing breaks. -/
structure Desk.Stable (V : Given → Prop) (P : Desk → Prop) : Prop extends Desk.Steady V P where
  tallied : ∀ {d : Desk} t, P d → P { d with tally := t }
  added : ∀ {d : Desk} {c : Callback}, c.used = false → P d →
    P { d with callbacks := d.callbacks ++ [c] }

/-- The results that a play runs the callback with satisfy `V`. -/
def Play.Says (V : Given → Prop) : Play → Prop
  | .run _ result | .attempt _ result => V result
  | .park | .fail _ => True

/-- The results that an authority's scripts run callbacks with satisfy `V`. -/
def Consent.Says (V : Given → Prop) : Consent → Prop
  | .handler (some script) | .scripted script _ => ∀ play ∈ script, play.Says V
  | .decline | .policy _ | .handler none => True

/-- The results that an operation makes callbacks run with satisfy `V`. -/
def Operation.Says (V : Given → Prop) : Operation → Prop
  | .runParked _ _ result | .denyWith result => V result
  | .setHandler (some script) => ∀ play ∈ script, play.Says V
  | _ => True

theorem Play.says_true (play : Play) : play.Says fun _ => True := by
  cases play <;> trivial

theorem Consent.says_true (c : Consent) : c.Says fun _ => True := by
  unfold Consent.Says
  split
  · exact fun play _ => play.says_true
  · exact fun play _ => play.says_true
  all_goals trivial

theorem Operation.says_true (op : Operation) : op.Says fun _ => True := by
  unfold Operation.Says
  split
  · trivial
  · trivial
  · exact fun play _ => play.says_true
  · trivial

open Act

variable {V : Given → Prop} {P : Desk → Prop}

namespace Desk.Steady

variable (hP : Desk.Steady V P)
include hP

theorem keeps_note (notes : List Note) : Keeps P (Desk.note notes) :=
  .modify fun _ h => hP.noted notes h

theorem keeps_runWithin (depth id : Nat) (devices : List Device) (result : Given)
    (hv : V result) : Keeps P (Desk.runWithin depth id devices result) := by
  -- on the depth: only a sink that runs another callback goes deeper
  induction depth generalizing id result with
  | zero => exact .pure ()
  | succ depth ih =>
    intro d hd
    rw [Desk.run_runWithin]
    cases hc : d.callbacks[id]? with
    | none => exact hd
    | some c =>
      cases hu : c.used with
      | true =>
        simp only [hu, if_true]
        exact hd
      | false =>
        simp only [hu, Bool.false_eq_true, if_false]
        cases hr : result.toOutcome with
        | error e => exact hP.wasted hc hu hv hr hd
        | ok o =>
          have hs := hP.settled devices o hc hu hd
          cases hk : c.sink with
          | accept => exact hs
          | fail e => exact hs
          | rerun other => exact ih other (.ofOutcome o) (hP.named o) _ hs

theorem keeps_runCallback (id : Nat) (devices : List Device) {result : Given} (hv : V result) :
    Keeps P (Desk.runCallback id devices result) :=
  fun d hd => hP.keeps_runWithin _ id devices result hv d hd

theorem keeps_runParked (index : Int) (devices : List Device) {result : Given} (hv : V result) :
    Keeps P (Desk.runParked index devices result) := by
  refine .bind_get fun d _ => ?_
  cases d.parkedAt? index with
  | none => exact .fail _
  | some id => exact hP.keeps_runCallback id devices hv

theorem keeps_perform (id : Nat) {play : Play} (hs : play.Says V) : Keeps P (play.perform id) := by
  cases play with
  | park => exact .modify fun d hd => hP.parked _ hd
  | run devices result => exact hP.keeps_runCallback id devices hs
  | attempt devices result =>
    exact .bind (.attempt (hP.keeps_runCallback id devices hs)) fun _ => .pure ()
  | fail e => exact .fail e

theorem keeps_script (id : Nat) {script : List Play} (hs : ∀ play ∈ script, play.Says V) :
    Keeps P (Act.each (Play.perform id) script) :=
  .each fun play hplay => hP.keeps_perform id (hs play hplay)

theorem keeps_offer {c : Consent} (hs : c.Says V) (r : Request) (id : Nat) :
    Keeps P (c.offer r id) := by
  match c, hs with
  | .decline, _ => exact .pure _
  | .policy blocked, _ =>
    refine .ite ?_ (.pure _)
    refine .bind (hP.keeps_note _) fun _ => ?_
    exact .bind (hP.keeps_runCallback id [] (hP.named _)) fun _ => .pure _
  | .handler none, _ => exact .pure _
  | .handler (some script), hs =>
    refine .bind (hP.keeps_note _) fun _ => .bind (.attempt (hP.keeps_script id hs)) fun r => ?_
    cases r with
    | ok _ => exact .pure _
    | error _ => exact .bind (hP.keeps_note _) fun _ => .pure _
  | .scripted script claim, hs => exact .bind (hP.keeps_script id hs) fun _ => .pure claim

omit hP in
theorem keeps_onDesk {α : Type} {a : Act Desk α} (ha : Keeps P a) :
    Keeps (fun c : Custody => P c.desk) (Custody.onDesk a) :=
  .zoom (fun _ h => h) (fun _ _ _ h => h) ha

omit hP in
theorem keeps_peek : Keeps (fun c : Custody => P c.desk) Custody.peek := by
  refine .bind_get fun c _ => ?_
  cases c.held with
  | none => exact .fail _
  | some id => exact .pure id

omit hP in
theorem keeps_handOff : Keeps (fun c : Custody => P c.desk) Custody.handOff :=
  .bind keeps_peek fun id => .bind (.modify fun _ h => h) fun _ => .pure id

theorem keeps_fire (devices : List Device) {result : Given} (hv : V result) :
    Keeps (fun c : Custody => P c.desk) (Custody.fire devices result) :=
  .bind keeps_handOff fun id => keeps_onDesk (hP.keeps_runCallback id devices hv)

theorem keeps_close : Keeps (fun c : Custody => P c.desk) Custody.close := by
  refine .bind_get fun c _ => ?_
  cases c.held with
  | none => exact .pure false
  | some id =>
    refine .bind (keeps_onDesk (hP.keeps_note _)) fun _ => ?_
    exact .bind (hP.keeps_fire [] (hP.named _)) fun _ => .pure true

end Desk.Steady

end CaptureArbiter
