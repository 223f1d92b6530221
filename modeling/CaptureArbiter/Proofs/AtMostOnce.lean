import CaptureArbiter.Proofs.History

/-!
# Delivery at most once

A callback is used up before its sink receives anything, so no sink receives a second delivery: not
from an arbiter, a release or a parked callback, and not from an authority that runs a callback and
then declines the request or fails.
-/

namespace CaptureArbiter

/-- Every sink has received at most one delivery, and none while its callback is unused. -/
def Desk.DeliversOnce (d : Desk) : Prop :=
  ∀ id, (d.received id).length ≤ if d.isUsed id then 1 else 0

namespace Desk.DeliversOnce

variable {d : Desk} {id : Nat} {c : Callback}

theorem received_of_unused (h : d.DeliversOnce) (hu : d.isUsed id = false) :
    d.received id = [] := by
  have hid := h id
  simp only [hu, Bool.false_eq_true, if_false] at hid
  exact List.eq_nil_of_length_eq_zero (by omega)

theorem length_received_le (h : d.DeliversOnce) (id : Nat) : (d.received id).length ≤ 1 := by
  have hid := h id
  split at hid <;> omega

theorem markUsed (h : d.DeliversOnce) (hc : d.callbacks[id]? = some c) (hu : c.used = false) :
    (d.markUsed id).DeliversOnce := by
  intro j
  change (d.received j).length ≤ _
  by_cases hj : id = j
  · subst hj
    rw [h.received_of_unused ((isUsed_eq hc).trans hu)]
    simp only [List.length_nil, Nat.zero_le]
  · rw [isUsed_markUsed_of_ne d hj]
    exact h j

theorem settle (h : d.DeliversOnce) (hc : d.callbacks[id]? = some c) (hu : c.used = false)
    (devices : List Device) (o : Outcome) : (d.settle id c devices o).DeliversOnce := by
  intro j
  by_cases hj : id = j
  · subst hj
    rw [received_settle_self, isUsed_settle_self c devices o (lt_of_callback hc),
      h.received_of_unused ((isUsed_eq hc).trans hu)]
    simp only [List.nil_append, List.length_singleton, if_true, Nat.le_refl]
  · rw [received_settle_of_ne d c devices o hj, isUsed_settle_of_ne d c devices o hj]
    exact h j

theorem stable : Desk.Stable (fun _ => True) Desk.DeliversOnce where
  named _ := trivial
  noted _ h := h
  parked _ h := h
  tallied _ h := h
  added hc h := fun id => by
    rw [isUsed_append hc]
    exact h id
  wasted hc hu _ _ h := h.markUsed hc hu
  settled devices o hc hu h := h.settle hc hu devices o

end Desk.DeliversOnce

theorem Session.deliversOnce_arbitration (o : Office) (r : Request) (label : String)
    (sink : Sink) : (Session.arbitration o r label sink).office.desk.DeliversOnce :=
  fun _ => Nat.zero_le _

/-- Whatever is asked of a session that begins with an arbiter, and whatever its authority does, no
sink receives more than one delivery; in particular the sink of the request, whose callback has the
number 0. -/
theorem received_at_most_once (o : Office) (r : Request) (label : String) (sink : Sink)
    (ops : List Operation) (id : Nat) :
    (((Session.arbitration o r label sink).after ops).office.desk.received id).length ≤ 1 := by
  have hstart := Session.deliversOnce_arbitration o r label sink
  have hafter := Desk.DeliversOnce.stable.after hstart ops
  exact hafter.length_received_le id

end CaptureArbiter
