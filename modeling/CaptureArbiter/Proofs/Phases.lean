import CaptureArbiter.Proofs.AtMostOnce
import CaptureArbiter.Proofs.Release
import Mathlib.Logic.Relation

/-!
# Phases of an arbiter

All that is asked of an arbiter comes down to five moves: the office works, a run enters its next
phase, the authority takes the callback over, a run of the callback fails or releases it, and a run
of it resolves the request. What holds of the phases is shown for one move, and so for all.
-/

namespace CaptureArbiter

open Act

/-- No callback and no delivery has been taken from the desk. -/
structure Desk.Grows (d e : Desk) : Prop where
  known : d.callbacks.length ≤ e.callbacks.length
  delivered : d.deliveries <+: e.deliveries

namespace Desk

variable {id : Nat} {d e : Desk}

theorem Grows.refl (d : Desk) : d.Grows d := ⟨Nat.le_refl _, List.prefix_refl _⟩

theorem Grows.stable (d : Desk) : Desk.Stable (fun _ => True) d.Grows where
  named _ := trivial
  noted _ h := ⟨h.known, h.delivered⟩
  parked _ h := ⟨h.known, h.delivered⟩
  tallied _ h := ⟨h.known, h.delivered⟩
  wasted _ _ _ _ h := by
    refine ⟨?_, h.delivered⟩
    rw [length_markUsed]
    exact h.known
  settled devices o _ _ h := by
    refine ⟨?_, ?_⟩
    · rw [callbacks_settle, length_markUsed]
      exact h.known
    · rw [deliveries_settle]
      exact h.delivered.trans (List.prefix_append ..)
  added _ h := by
    refine ⟨?_, h.delivered⟩
    rw [List.length_append]
    exact Nat.le_trans h.known (Nat.le_add_right ..)

theorem grows_run (id : Nat) (devices : List Device) (result : Given) (d : Desk) :
    d.Grows ((runCallback id devices result).run d).2 :=
  (Grows.stable d).keeps_runCallback id devices trivial d (.refl d)

theorem Grows.received (h : d.Grows e) (hd : d.received id ≠ []) : e.received id ≠ [] := by
  intro he
  have hprefix : d.received id <+: e.received id := h.delivered.filter _
  rw [he] at hprefix
  exact hd (List.prefix_nil.mp hprefix)

theorem received_of_run_ok {devices : List Device} {result : Given}
    (hk : id < d.callbacks.length) (hr : (runCallback id devices result).run d = (.ok (), e)) :
    e.received id ≠ [] := by
  rw [run_runCallback, List.getElem?_eq_getElem hk] at hr
  generalize d.callbacks[id] = c at hr
  cases hu : c.used with
  | true =>
    simp only [hu, if_true] at hr
    cases hr
  | false =>
    simp only [hu, Bool.false_eq_true, if_false] at hr
    cases hm : result.toOutcome with
    | error f =>
      rw [hm] at hr
      cases hr
    | ok o =>
      rw [hm] at hr
      have hs : (d.settle id c devices o).received id ≠ [] := by
        rw [received_settle_self]
        exact List.append_ne_nil_of_right_ne_nil _ (List.cons_ne_nil _ _)
      cases hsink : c.sink with
      | accept =>
        rw [hsink] at hr
        cases hr
        exact hs
      | fail f =>
        rw [hsink] at hr
        cases hr
      | rerun other =>
        rw [hsink] at hr
        have hgrows := grows_run other devices (.ofOutcome o) (d.settle id c devices o)
        simp only [react] at hr
        rw [hr] at hgrows
        exact hgrows.received hs

end Desk

/-- A request in a final phase is out of the arbiter's hands. -/
def Phase.isFinal : Phase → Bool
  | .resolved | .delegatedToConsent => true
  | _ => false

/-- The phases that a run enters by itself, and those from which it does. -/
inductive Phase.Leads : Phase → Phase → Prop
  | screen : Leads .pending .delegatedToScreen
  | gone : Leads .pending .abandonedNoFrame
  | offer : Leads .pending .offered
  | decide : Leads .offered .deciding

theorem Phase.Leads.ne_pending {p q : Phase} (h : p.Leads q) : q ≠ .pending := by
  cases h <;> exact Phase.noConfusion

theorem Phase.Leads.left_not_final {p q : Phase} (h : p.Leads q) : p.isFinal = false := by
  cases h <;> rfl

theorem Phase.Leads.right_not_final {p q : Phase} (h : p.Leads q) : q.isFinal = false := by
  cases h <;> rfl

namespace Hearing

inductive Move : Hearing → Hearing → Prop
  | work {h : Hearing} {o : Office} (ho : h.office.desk.Grows o.desk) : Move h ⟨o, h.arbiter⟩
  | enter {h : Hearing} {phase : Phase} (hp : h.arbiter.phase.Leads phase) :
      Move h (h.entered phase)
  | handOver {h : Hearing} {id : Nat} (hh : h.arbiter.held = some id)
      (hp : h.arbiter.phase = .offered) :
      Move h ((h.released h.office.desk).entered .delegatedToConsent)
  | letGo {h : Hearing} {id : Nat} {d : Desk} (hh : h.arbiter.held = some id)
      (hd : h.office.desk.Grows d) : Move h (h.released d)
  | resolve {h : Hearing} {id : Nat} {devices : List Device} {result : Given} {d : Desk}
      (hh : h.arbiter.held = some id)
      (hr : (Desk.runCallback id devices result).run h.office.desk = (.ok (), d)) :
      Move h ((h.released d).entered .resolved)

abbrev Moves : Hearing → Hearing → Prop := Relation.ReflTransGen Move

variable {h k : Hearing} {id : Nat}

theorem moves_noted (h : Hearing) (notes : List Note) : Moves h (h.noted notes) :=
  .single (.work ⟨Nat.le_refl _, List.prefix_refl _⟩)

theorem moves_resolve (devices : List Device) (result : Given) (h : Hearing) :
    Moves h ((resolve devices result).run h).2 := by
  cases hs : result.valueText with
  | error e => rw [run_resolve_error hs]
  | ok shown =>
    have hnoted := moves_noted h [resolvedNote h.arbiter.request devices shown]
    rw [run_resolve hs]
    cases hh : h.arbiter.held with
    | none => exact hnoted
    | some id =>
      have hgrows := Desk.grows_run id devices result
        (h.noted [resolvedNote h.arbiter.request devices shown]).office.desk
      simp only
      cases hr : (Desk.runCallback id devices result).run
          (h.noted [resolvedNote h.arbiter.request devices shown]).office.desk with
      | mk r d =>
        rw [hr] at hgrows
        cases r with
        | ok _ => exact hnoted.tail (.resolve hh hr)
        | error e => exact hnoted.tail (.letGo hh hgrows)

theorem moves_accept (h : Hearing) : Moves h (accept.run h).2 := by
  have hnoted : Moves h h.consulted := moves_noted h _
  cases hd : h.selected with
  | ok devices =>
    rw [run_accept_ok hd]
    exact hnoted.trans (moves_resolve devices Outcome.ok _)
  | error e =>
    rw [run_accept_error hd]
    exact hnoted

theorem moves_denyNamed (code : Value) (h : Hearing) : Moves h ((denyNamed code).run h).2 := by
  cases hr : (code.toMember : Except Failure Outcome) with
  | ok o =>
    rw [run_denyNamed_ok h hr]
    exact moves_resolve [] o h
  | error e => rw [run_denyNamed_error h hr]

theorem moves_close (h : Hearing) : Moves h (close.run h).2 := by
  rw [run_close]
  cases hh : h.arbiter.held with
  | none => exact .refl
  | some id =>
    have hgrows := Desk.grows_run id [] (.ofOutcome .failedDueToShutdown)
      (h.office.desk.noted [Custody.closingNote (h.office.desk.labelOf id)])
    exact .single (.letGo hh ⟨hgrows.known, hgrows.delivered⟩)

theorem moves_runScreen (hp : h.arbiter.phase = .pending) : Moves h (runScreen.run h).2 := by
  have henter : Move h (h.entered .delegatedToScreen) := .enter (by rw [hp]; exact .screen)
  have hscreened : Moves h h.screened := .head henter (moves_noted _ _)
  cases hd : Screen.grant h.arbiter.request with
  | ok devices =>
    rw [run_runScreen_ok hd]
    exact (hscreened.trans (moves_noted _ _)).trans (moves_resolve devices _ _)
  | error e =>
    rw [run_runScreen_error hd]
    exact hscreened

theorem moves_abandon (hp : h.arbiter.phase = .pending) : Moves h (abandon.run h).2 :=
  (moves_noted h [goneNote h.arbiter.request]).tail
    (.enter (show h.arbiter.phase.Leads _ by rw [hp]; exact .gone))

theorem moves_decide (hp : h.arbiter.phase = .offered) : Moves h (decide.run h).2 := by
  have henter : Move h (h.entered .deciding) := .enter (by rw [hp]; exact .decide)
  rw [run_decide]
  split
  · exact .head henter (moves_accept _)
  · exact .head henter (moves_resolve [] Outcome.noHardware _)

theorem moves_runOffered (frame : Frame) (hp : h.arbiter.phase = .pending) :
    Moves h ((runOffered frame).run h).2 := by
  have henter : Move h (h.entered .offered) := .enter (by rw [hp]; exact .offer)
  rw [run_runOffered]
  cases hh : h.arbiter.held with
  | none => exact .single henter
  | some id =>
    have hgrows := (Desk.Grows.stable h.office.desk).keeps_offer
      (Consent.says_true h.office.consent) h.arbiter.request id h.office.desk (.refl _)
    simp only
    cases hr : (h.office.consent.offer h.arbiter.request id).run h.office.desk with
    | mk r d =>
      rw [hr] at hgrows
      have hasked : Moves h ((h.withDesk d).entered .offered) :=
        .head henter (.single (.work hgrows))
      cases r with
      | error e => exact hasked
      | ok claim =>
        simp only
        split
        · exact (hasked.tail (.handOver hh rfl)).trans (moves_noted _ _)
        · exact hasked.trans (moves_decide rfl)

theorem run_of_left (hp : h.arbiter.phase ≠ .pending) :
    run.run h = (.error (.alreadyRan h.arbiter.phase.name), h) := by
  have hleft : (h.arbiter.phase != .pending) = true := bne_iff_ne.mpr hp
  rw [run_run, branch]
  simp only [if_pos hleft]
  rfl

theorem moves_run (h : Hearing) : Moves h (run.run h).2 := by
  by_cases hp : h.arbiter.phase = .pending
  · rw [run_state, branch]
    simp only [hp, bne_self_eq_false, Bool.false_eq_true, if_false, run_ite]
    split
    · exact moves_runScreen hp
    · split
      · exact moves_abandon hp
      · exact moves_runOffered _ hp
  · rw [run_of_left hp]

theorem moves_scopedRun (h : Hearing) : Moves h (scopedRun.run h).2 := by
  have hall := (moves_run h).trans (moves_close _)
  rw [run_scopedRun]
  cases hr : close.run (run.run h).2 with
  | mk r h' =>
    rw [hr] at hall
    cases r <;> exact hall

theorem Move.pending (m : Move h k) (hk : k.arbiter.phase = .pending) :
    h.arbiter.phase = .pending := by
  cases m with
  | work _ => exact hk
  | enter hp => exact absurd hk hp.ne_pending
  | handOver _ _ => cases hk
  | letGo _ _ => exact hk
  | resolve _ _ => cases hk

theorem Move.held (m : Move h k) (hh : h.arbiter.held = none) : k.arbiter.held = none := by
  cases m with
  | work _ => exact hh
  | enter _ => exact hh
  | handOver _ _ => rfl
  | letGo _ _ => rfl
  | resolve _ _ => rfl

/-- The callback is the only one that the arbiter holds; in a final phase it holds none, and when
the request is resolved its sink has received something. -/
structure Regular (id : Nat) (h : Hearing) : Prop where
  known : id < h.office.desk.callbacks.length
  only : ∀ j, h.arbiter.held = some j → j = id
  final : h.arbiter.phase.isFinal = true → h.arbiter.held = none
  resolved : h.arbiter.phase = .resolved → h.office.desk.received id ≠ []

theorem Regular.move (hr : h.Regular id) (m : Move h k) : k.Regular id := by
  -- the two moves to a final phase let go of the callback, and all others keep out of these phases
  cases m with
  | work ho =>
    exact
      { known := Nat.lt_of_lt_of_le hr.known ho.known
        only := hr.only
        final := hr.final
        resolved := fun hp => ho.received (hr.resolved hp) }
  | @enter phase hp =>
    have hlater := hp.right_not_final
    refine { known := hr.known, only := hr.only, final := fun hf => ?_, resolved := fun hf => ?_ }
    · rw [show (h.entered phase).arbiter.phase = phase from rfl, hlater] at hf
      cases hf
    · rw [show phase = .resolved from hf] at hlater
      cases hlater
  | handOver _ _ =>
    exact { known := hr.known, only := fun _ hj => (nomatch hj), final := fun _ => rfl
            resolved := fun hp => (nomatch hp) }
  | letGo _ hd =>
    exact
      { known := Nat.lt_of_lt_of_le hr.known hd.known
        only := fun _ hj => (nomatch hj)
        final := fun _ => rfl
        resolved := fun hp => hd.received (hr.resolved hp) }
  | @resolve j devices result d hh hrun =>
    -- what has been run is the request's own callback, so it is its sink that has received
    have hj := hr.only j hh
    subst hj
    have hgrows := Desk.grows_run j devices result h.office.desk
    rw [hrun] at hgrows
    exact
      { known := Nat.lt_of_lt_of_le hr.known hgrows.known
        only := fun _ hi => (nomatch hi)
        final := fun _ => rfl
        resolved := fun _ => Desk.received_of_run_ok hr.known hrun }

/-- An arbiter in a final phase does not change any more. -/
theorem Regular.stays (hr : h.Regular id) (hf : h.arbiter.phase.isFinal = true) (m : Move h k) :
    k.arbiter = h.arbiter := by
  have hnone := hr.final hf
  cases m with
  | work _ => rfl
  | enter hp => rw [hp.left_not_final] at hf; cases hf
  | handOver hh _ => rw [hnone] at hh; cases hh
  | letGo hh _ => rw [hnone] at hh; cases hh
  | resolve hh _ => rw [hnone] at hh; cases hh

theorem Moves.pending (ms : Moves h k) (hk : k.arbiter.phase = .pending) :
    h.arbiter.phase = .pending := by
  induction ms with
  | refl => exact hk
  | tail _ m ih => exact ih (m.pending hk)

theorem Moves.held (ms : Moves h k) (hh : h.arbiter.held = none) : k.arbiter.held = none := by
  induction ms with
  | refl => exact hh
  | tail _ m ih => exact m.held ih

theorem Regular.moves (hr : h.Regular id) (ms : Moves h k) : k.Regular id := by
  induction ms with
  | refl => exact hr
  | tail _ m ih => exact ih.move m

theorem Regular.remains (hr : h.Regular id) (hf : h.arbiter.phase.isFinal = true)
    (ms : Moves h k) : k.arbiter = h.arbiter := by
  induction ms with
  | refl => rfl
  | tail ms m ih =>
    have hsame := (hr.moves ms).stays (by rw [ih]; exact hf) m
    rw [hsame, ih]

end Hearing

namespace Session

/-- What the arbiter of the second session is has come by moves from that of the first. -/
def Follows (s t : Session) : Prop :=
  ∀ b, t.arbiter = some b →
    ∃ a, s.arbiter = some a ∧ Hearing.Moves ⟨s.office, a⟩ ⟨t.office, b⟩

variable {s t : Session}

theorem Follows.refl (s : Session) : s.Follows s := fun b hb => ⟨b, hb, .refl⟩

theorem follows_onHearing {α : Type} (name : String) {a : Act Hearing α}
    (ha : ∀ h, Hearing.Moves h (a.run h).2) : Keeps s.Follows (onHearing name a) := by
  intro t ht b hb
  cases hc : t.arbiter with
  | none =>
    simp only [onHearing, Act.run, hc] at hb
    cases hb
  | some c =>
    obtain ⟨first, hfirst, hmoves⟩ := ht c hc
    rw [run_onHearing name a hc] at hb ⊢
    rw [← Option.some.inj hb]
    exact ⟨first, hfirst, hmoves.trans (ha ⟨t.office, c⟩)⟩

theorem follows_of_arbiter {op : Operation} (hop : op.usesArbiter = false) :
    Keeps s.Follows (perform op) := by
  intro t ht b hb
  rw [arbiter_perform hop] at hb
  obtain ⟨a, ha, hmoves⟩ := ht b hb
  have hgrows := (Desk.Grows.stable t.office.desk).holds.keeps_operation op.says_true t
    ⟨Consent.says_true _, .refl _⟩
  exact ⟨a, ha, hmoves.tail (.work hgrows.2)⟩

theorem follows_drop : Keeps s.Follows drop := by
  refine .bind_get fun _ _ => .ite ?_ (.pure _)
  refine .bind (.attempt (follows_onHearing "close" Hearing.moves_close)) fun _ => ?_
  exact .bind (.modify fun _ _ _ hb => (nomatch hb)) fun _ => .pure _

theorem follows_perform (op : Operation) : Keeps s.Follows (perform op) := by
  cases huses : op.usesArbiter with
  | false => exact follows_of_arbiter huses
  | true =>
    cases op with
    | run => exact .bind (follows_onHearing "run" Hearing.moves_run) fun _ => .pure _
    | scopedRun => exact .bind (follows_onHearing "run" Hearing.moves_scopedRun) fun _ => .pure _
    | close => exact .bind (follows_onHearing "close" Hearing.moves_close) fun _ => .pure _
    | accept => exact .bind (follows_onHearing "accept" Hearing.moves_accept) fun _ => .pure _
    | deny code =>
      exact .bind (follows_onHearing "deny" (Hearing.moves_denyNamed code)) fun _ => .pure _
    | denyWith result =>
      exact .bind (follows_onHearing "deny" (Hearing.moves_resolve [] result)) fun _ => .pure _
    | drop => exact follows_drop
    | _ => cases huses

theorem Follows.after (h : s.Follows t) (ops : List Operation) : s.Follows (t.after ops) :=
  keeps_after (fun op _ => follows_perform op) h

theorem regular_arbitration (o : Office) (r : Request) (label : String) (sink : Sink)
    (ops : List Operation) {a : Arbiter}
    (ha : ((arbitration o r label sink).after ops).arbiter = some a) :
    Hearing.Regular 0 ⟨((arbitration o r label sink).after ops).office, a⟩ := by
  obtain ⟨first, hfirst, hmoves⟩ := (Follows.refl (arbitration o r label sink)).after ops a ha
  have hstart : Hearing.Regular 0 ⟨(arbitration o r label sink).office, first⟩ := by
    rw [← Option.some.inj hfirst]
    exact
      { known := Nat.zero_lt_one
        only := fun _ hj => (Option.some.inj hj).symm
        final := fun hf => (nomatch hf)
        resolved := fun hp => (nomatch hp) }
  exact hstart.moves hmoves

theorem run_of_left (office : Office) {a : Arbiter} (hp : a.phase ≠ .pending) :
    (perform .run).run ⟨office, some a⟩ =
      (.error (.alreadyRan a.phase.name), ⟨office, some a⟩) := by
  have hrun := run_onHearing "run" Hearing.run (s := ⟨office, some a⟩) rfl
  rw [Hearing.run_of_left hp] at hrun
  exact run_bind_error hrun

end Session

/-- How the phase and the custody of an arbiter can develop. -/
structure Arbiter.Precedes (a b : Arbiter) : Prop where
  left : a.phase ≠ .pending → b.phase ≠ .pending
  released : a.held = none → b.held = none
  final : a.phase.isFinal = true → b = a

/-- An arbiter is used in any way, and then used further. It runs from the first phase only, and any
other run fails at once in every office; it never comes back to that phase nor to a callback that it
has let go of; in a final phase it has let go of its callback and stays as it is; and the sink of a
resolved request has received exactly one delivery. -/
theorem arbiter_phases (o : Office) (r : Request) (label : String) (sink : Sink)
    (ops more : List Operation) :
    let s := (Session.arbitration o r label sink).after ops
    ((∀ op ∈ ops, op ≠ .drop) → s.arbiter.isSome = true) ∧
      ∀ a, s.arbiter = some a →
        (a.phase ≠ .pending → (Failure.alreadyRan a.phase.name).kind = .runtime ∧
          ∀ office, (Session.perform .run).run ⟨office, some a⟩ =
            (.error (.alreadyRan a.phase.name), ⟨office, some a⟩)) ∧
        (a.phase.isFinal = true → a.held = none) ∧
        (a.phase = .resolved → (s.office.desk.received 0).length = 1) ∧
        ∀ b, (s.after more).arbiter = some b → a.Precedes b := by
  intro s
  refine ⟨fun hops => ?_, fun a ha => ?_⟩
  · have hacc : s.Accounts 0 :=
      Session.accounts_after hops (Session.accounts_arbitration o r label sink)
    obtain ⟨a, ha, _⟩ := hacc
    exact Option.isSome_iff_exists.mpr ⟨a, ha⟩
  · have hregular : Hearing.Regular 0 ⟨s.office, a⟩ :=
      Session.regular_arbitration o r label sink ops ha
    have honce : s.office.desk.DeliversOnce :=
      Desk.DeliversOnce.stable.after (Session.deliversOnce_arbitration o r label sink) ops
    refine ⟨fun hp => ⟨rfl, fun office => Session.run_of_left office hp⟩, hregular.final,
      fun hp => ?_, ?_⟩
    · -- a resolved request has been delivered, and never more than once
      have hsome := List.length_pos_iff.mpr (hregular.resolved hp)
      have hle := honce.length_received_le 0
      simp only at hsome
      omega
    · intro b hb
      obtain ⟨first, hfirst, hmoves⟩ := (Session.Follows.refl s).after more b hb
      rw [ha] at hfirst
      cases hfirst
      exact
        { left := fun hp hq => hp (hmoves.pending hq)
          released := hmoves.held
          final := fun hf => hregular.remains hf hmoves }

/-- The authority parks the callback and fails, and the request is denied by hand. Nothing that is
tried later, with the arbiter or with the parked callback, changes the arbiter again. -/
theorem arbiter_phases_denied :
    let o : Office :=
      { consent := .scripted [.park, .fail (.scripted "broken")] (.bool true)
        frames := ⟨[{ processId := 7, frameId := 1 }]⟩ }
    let r : Request := { processId := 7, frameId := 1, audio := .deviceAudio }
    let s := (Session.arbitration o r "" .accept).after
      [.run, .denyWith (.ofOutcome .permissionDenied)]
    let t := s.after [.runParked 0 [] (.ofOutcome .ok), .accept, .scopedRun, .close]
    ∃ a, s.arbiter = some a ∧ a.phase = .resolved ∧ a.held = none ∧ t.arbiter = some a ∧
      (s.office.desk.received 0).length = 1 := by
  intro o r s t
  obtain ⟨_, hall⟩ := arbiter_phases o r "" .accept [.run, .denyWith (.ofOutcome .permissionDenied)]
    [.runParked 0 [] (.ofOutcome .ok), .accept, .scopedRun, .close]
  have hphase : s.arbiter.map (·.phase) = some .resolved := by decide +kernel
  have hleft : t.arbiter.isSome = true := by decide +kernel
  obtain ⟨a, ha, hresolved⟩ := Option.map_eq_some_iff.mp hphase
  obtain ⟨b, hb⟩ := Option.isSome_iff_exists.mp hleft
  obtain ⟨_, hreleased, honce, hlater⟩ := hall a ha
  have hfinal : a.phase.isFinal = true := by rw [hresolved]; rfl
  have hsame : b = a := (hlater b hb).final hfinal
  refine ⟨a, ha, hresolved, hreleased hfinal, ?_, honce hresolved⟩
  rw [hb, hsame]

end CaptureArbiter
