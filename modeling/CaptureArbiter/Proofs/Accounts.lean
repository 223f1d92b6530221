import CaptureArbiter.Proofs.Hearing
import CaptureArbiter.Proofs.History

/-!
# No callback is lost

An arbiter accounts for its callback: it holds the callback, or the callback has been used, or the
authority has claimed it. Everything that the arbiter is asked to do keeps this, also when it fails
on the way, and whatever else happens in the office leaves the arbiter alone.
-/

namespace CaptureArbiter

open Act

/-- The callback is on the desk, and it has been used if `used` says so. -/
def Desk.Recalls (id : Nat) (used : Bool) (d : Desk) : Prop :=
  id < d.callbacks.length ∧ (used = true → d.isUsed id = true)

namespace Desk

variable {id : Nat} {used : Bool} {d : Desk}

theorem Recalls.markUsed (h : d.Recalls id used) (j : Nat) : (d.markUsed j).Recalls id used := by
  refine ⟨by rw [length_markUsed]; exact h.1, fun hu => ?_⟩
  by_cases hj : j = id
  · rw [hj]
    exact isUsed_markUsed_self h.1
  · rw [isUsed_markUsed_of_ne d hj]
    exact h.2 hu

theorem Recalls.settle (h : d.Recalls id used) (j : Nat) (c : Callback) (devices : List Device)
    (o : Outcome) : (d.settle j c devices o).Recalls id used := by
  have hm := h.markUsed j
  have hc := callbacks_settle d j c devices o
  exact ⟨by rw [hc]; exact hm.1, fun hu => (isUsed_congr hc id).trans (hm.2 hu)⟩

theorem Recalls.stable : Desk.Stable (fun _ => True) (Recalls id used) where
  named _ := trivial
  noted _ h := h
  parked _ h := h
  tallied _ h := h
  added hc h :=
    ⟨by rw [List.length_append]; exact Nat.lt_of_lt_of_le h.1 (Nat.le_add_right ..),
      fun hu => (isUsed_append hc id).trans (h.2 hu)⟩
  wasted _ _ _ _ h := h.markUsed _
  settled devices o _ _ h := h.settle _ _ devices o

/-- The callback is used, and its sink has received nothing but this. -/
structure Spent (id : Nat) (xs : List Delivery) (d : Desk) : Prop where
  used : d.isUsed id = true
  received : d.received id = xs

theorem Spent.ne_of_unused {xs : List Delivery} (h : d.Spent id xs) {j : Nat} {c : Callback}
    (hc : d.callbacks[j]? = some c) (hu : c.used = false) : j ≠ id := by
  rintro rfl
  have hunused := (isUsed_eq hc).trans hu
  rw [h.used] at hunused
  cases hunused

theorem Spent.stable (id : Nat) (xs : List Delivery) :
    Desk.Stable (fun _ => True) (Spent id xs) where
  named _ := trivial
  noted _ h := ⟨h.used, h.received⟩
  parked _ h := ⟨h.used, h.received⟩
  tallied _ h := ⟨h.used, h.received⟩
  added hc h := ⟨(isUsed_append hc id).trans h.used, h.received⟩
  wasted hc hu _ _ h :=
    ⟨(isUsed_markUsed_of_ne _ (h.ne_of_unused hc hu)).trans h.used, h.received⟩
  settled devices o hc hu h :=
    have hne := h.ne_of_unused hc hu
    ⟨(isUsed_settle_of_ne _ _ devices o hne).trans h.used,
      (received_settle_of_ne _ _ devices o hne).trans h.received⟩

theorem recalls_self (h : id < d.callbacks.length) : d.Recalls id (d.isUsed id) := ⟨h, fun hu => hu⟩

theorem isUsed_runCallback (h : id < d.callbacks.length) (devices : List Device) (result : Given) :
    ((runCallback id devices result).run d).2.isUsed id = true := by
  have hc : d.callbacks[id]? = some d.callbacks[id] := List.getElem?_eq_getElem h
  rw [run_runCallback, hc]
  cases hu : d.callbacks[id].used with
  | true =>
    simp only [hu, if_true]
    exact (isUsed_eq hc).trans hu
  | false =>
    simp only [hu, Bool.false_eq_true, if_false]
    cases result.toOutcome with
    | error e => exact isUsed_markUsed_self h
    | ok o =>
      have hs := isUsed_settle_self d.callbacks[id] devices o h
      cases d.callbacks[id].sink with
      | accept => exact hs
      | fail e => exact hs
      | rerun other =>
        have hr : (d.settle id d.callbacks[id] devices o).Recalls id true :=
          ⟨by rw [callbacks_settle, length_markUsed]; exact h, fun _ => hs⟩
        exact (Recalls.stable.keeps_runCallback other devices trivial _ hr).2 rfl

end Desk

/-- The arbiter accounts for a callback on the desk. -/
structure Hearing.Accounts (id : Nat) (h : Hearing) : Prop where
  known : id < h.office.desk.callbacks.length
  only : ∀ j, h.arbiter.held = some j → j = id
  claimed : h.arbiter.phase = .delegatedToConsent → h.arbiter.held = none
  kept : h.arbiter.held = none →
    h.office.desk.isUsed id = true ∨ h.arbiter.phase = .delegatedToConsent

namespace Hearing.Accounts

variable {id : Nat} {h : Hearing}

theorem withOffice (ha : h.Accounts id) {o : Office}
    (ho : o.desk.Recalls id (h.office.desk.isUsed id)) : Accounts id ⟨o, h.arbiter⟩ where
  known := ho.1
  only := ha.only
  claimed := ha.claimed
  kept hn := (ha.kept hn).imp ho.2 fun hp => hp

theorem withDesk (ha : h.Accounts id) {d : Desk} (hd : d.Recalls id (h.office.desk.isUsed id)) :
    (h.withDesk d).Accounts id :=
  ha.withOffice hd

theorem noted (ha : h.Accounts id) (notes : List Note) : (h.noted notes).Accounts id :=
  ha.withDesk (Desk.recalls_self ha.known)

theorem released (h : Hearing) {d : Desk} (hd : d.Recalls id true) :
    (h.released d).Accounts id where
  known := hd.1
  only j hj := by cases hj
  claimed _ := rfl
  kept _ := .inl (hd.2 rfl)

theorem entered (ha : h.Accounts id) (hh : h.arbiter.phase ≠ .delegatedToConsent) {phase : Phase}
    (hp : phase ≠ .delegatedToConsent) : (h.entered phase).Accounts id where
  known := ha.known
  only := ha.only
  claimed hc := absurd hc hp
  kept hn := .inl ((ha.kept hn).resolve_right hh)

theorem recalls_run (ha : h.Accounts id) (devices : List Device) (result : Given) :
    ((Desk.runCallback id devices result).run h.office.desk).2.Recalls id true :=
  ⟨(Desk.Recalls.stable.keeps_runCallback id devices trivial _
    (Desk.recalls_self ha.known)).1, fun _ => Desk.isUsed_runCallback ha.known devices result⟩

theorem resolve (ha : h.Accounts id) (devices : List Device) (result : Given) :
    ((Hearing.resolve devices result).run h).2.Accounts id := by
  cases hs : result.valueText with
  | error e =>
    rw [run_resolve_error hs]
    exact ha
  | ok shown =>
    have hn := ha.noted [resolvedNote h.arbiter.request devices shown]
    rw [run_resolve hs]
    cases hh : h.arbiter.held with
    | none => exact hn
    | some j =>
      have hj := ha.only j hh
      subst hj
      have hd := hn.recalls_run devices result
      simp only
      cases hr : (Desk.runCallback j devices result).run
          (h.noted [resolvedNote h.arbiter.request devices shown]).office.desk with
      | mk r d =>
        rw [hr] at hd
        have hrel := released h hd
        cases r with
        | error e => exact hrel
        | ok x =>
          -- the callback is used now, so the phase before does not matter
          exact
            { known := hrel.known, only := hrel.only, claimed := fun _ => rfl
              kept := fun _ => .inl (hd.2 rfl) }

theorem accept (ha : h.Accounts id) : (Hearing.accept.run h).2.Accounts id := by
  have hc : h.consulted.Accounts id := ha.noted _
  cases hd : h.selected with
  | ok devices =>
    rw [run_accept_ok hd]
    exact hc.resolve devices Outcome.ok
  | error e =>
    rw [run_accept_error hd]
    exact hc

theorem denyNamed (ha : h.Accounts id) (code : Value) :
    ((Hearing.denyNamed code).run h).2.Accounts id := by
  cases hr : (code.toMember : Except Failure Outcome) with
  | ok o =>
    rw [run_denyNamed_ok h hr]
    exact ha.resolve [] o
  | error e =>
    rw [run_denyNamed_error h hr]
    exact ha

theorem close (ha : h.Accounts id) : (Hearing.close.run h).2.Accounts id := by
  rw [run_close]
  cases hh : h.arbiter.held with
  | none => exact ha
  | some j =>
    have hj := ha.only j hh
    subst hj
    exact released h ((ha.noted _).recalls_run [] _)

theorem runScreen (ha : h.Accounts id) (hp : h.arbiter.phase ≠ .delegatedToConsent) :
    (Hearing.runScreen.run h).2.Accounts id := by
  have he : (h.entered .delegatedToScreen).Accounts id := ha.entered hp (by simp)
  have hs : h.screened.Accounts id := he.noted _
  cases hd : Screen.grant h.arbiter.request with
  | ok devices =>
    rw [run_runScreen_ok hd]
    exact (hs.noted _).resolve devices _
  | error e =>
    rw [run_runScreen_error hd]
    exact hs

theorem abandon (ha : h.Accounts id) (hp : h.arbiter.phase ≠ .delegatedToConsent) :
    (Hearing.abandon.run h).2.Accounts id :=
  (ha.noted _).entered hp (by simp)

theorem decide (ha : h.Accounts id) (hp : h.arbiter.phase ≠ .delegatedToConsent) :
    (Hearing.decide.run h).2.Accounts id := by
  have he : (h.entered .deciding).Accounts id := ha.entered hp (by simp)
  rw [run_decide]
  split
  · exact he.accept
  · exact he.resolve [] Outcome.noHardware

theorem runOffered (ha : h.Accounts id) (hp : h.arbiter.phase ≠ .delegatedToConsent)
    (frame : Frame) : ((Hearing.runOffered frame).run h).2.Accounts id := by
  rw [run_runOffered]
  cases hh : h.arbiter.held with
  | none => exact ha.entered hp (by simp)
  | some j =>
    have hj := ha.only j hh
    subst hj
    have hd : ((h.office.consent.offer h.arbiter.request j).run h.office.desk).2.Recalls j
        (h.office.desk.isUsed j) :=
      Desk.Recalls.stable.keeps_offer (Consent.says_true _) _ j _
        (Desk.recalls_self ha.known)
    simp only
    cases hr : (h.office.consent.offer h.arbiter.request j).run h.office.desk with
    | mk r d =>
      rw [hr] at hd
      have ho : ((h.withDesk d).entered .offered).Accounts j :=
        (ha.withDesk hd).entered hp (by simp)
      cases r with
      | error e => exact ho
      | ok claim =>
        simp only
        split
        · exact
            { known := hd.1, only := fun _ hn => (nomatch hn), claimed := fun _ => rfl
              kept := fun _ => .inr rfl }
        · exact ho.decide (by simp [Hearing.entered])

theorem branch (ha : h.Accounts id) : (h.branch.run h).2.Accounts id := by
  unfold Hearing.branch
  simp only [run_ite]
  by_cases hp : (h.arbiter.phase != .pending) = true
  · simp only [if_pos hp]
    exact ha
  · -- an arbiter that has not run has lost its callback to nobody
    have hpending : h.arbiter.phase = .pending := by simpa using hp
    have hphase : h.arbiter.phase ≠ .delegatedToConsent := by rw [hpending]; decide
    simp only [if_neg hp]
    split
    · exact ha.runScreen hphase
    · split
      · exact ha.abandon hphase
      · exact ha.runOffered hphase _

theorem run (ha : h.Accounts id) : (Hearing.run.run h).2.Accounts id := by
  have hb := ha.branch
  rw [run_run]
  cases hr : h.branch.run h with
  | mk r h' =>
    rw [hr] at hb
    cases r <;> exact hb

theorem scopedRun (ha : h.Accounts id) : (Hearing.scopedRun.run h).2.Accounts id := by
  have hc := ha.run.close
  rw [run_scopedRun]
  cases hr : Hearing.close.run (Hearing.run.run h).2 with
  | mk r h' =>
    rw [hr] at hc
    cases r <;> exact hc

theorem isUsed_close (ha : h.Accounts id) (hp : h.arbiter.phase ≠ .delegatedToConsent) :
    (Hearing.close.run h).2.office.desk.isUsed id = true := by
  rw [run_close]
  cases hh : h.arbiter.held with
  | none => exact (ha.kept hh).resolve_right hp
  | some j =>
    have hj := ha.only j hh
    subst hj
    exact ((ha.noted _).recalls_run [] _).2 rfl

end Hearing.Accounts

theorem Hearing.arbiter_close (h : Hearing) :
    (Hearing.close.run h).2.arbiter = { h.arbiter with held := none } := by
  obtain ⟨office, request, phase, held⟩ := h
  rw [run_close]
  cases held <;> rfl

end CaptureArbiter
