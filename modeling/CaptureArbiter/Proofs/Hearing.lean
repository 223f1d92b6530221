import CaptureArbiter.Arbiter

/-!
# What arbiters do, step by step

One equation for each thing that an arbiter can be asked to do: it says in which cases the step ends
how and in which hearing. Proofs about arbiters start from these equations.
-/

namespace CaptureArbiter

namespace Custody

theorem run_fire (devices : List Device) (result : Given) (c : Custody) :
    (fire devices result).run c = match c.held with
      | none => (.error .callbackGone, c)
      | some id =>
        let r := (Desk.runCallback id devices result).run c.desk
        (r.1, ⟨none, r.2⟩) := by
  obtain ⟨held, desk⟩ := c
  cases held <;> rfl

theorem run_close (c : Custody) :
    close.run c = match c.held with
      | none => (.ok false, c)
      | some id =>
        let d := c.desk.noted [closingNote (c.desk.labelOf id)]
        let r := (Desk.runCallback id [] (.ofOutcome .failedDueToShutdown)).run d
        (r.1.map fun _ => true, ⟨none, r.2⟩) := by
  obtain ⟨held, desk⟩ := c
  cases held with
  | none => rfl
  | some id =>
    have hfire := run_fire [] (.ofOutcome .failedDueToShutdown)
      ⟨some id, desk.noted [closingNote (desk.labelOf id)]⟩
    simp only at hfire ⊢
    cases hr : (Desk.runCallback id [] (.ofOutcome .failedDueToShutdown)).run
        (desk.noted [closingNote (desk.labelOf id)]) with
    | mk r d =>
      rw [hr] at hfire
      rw [close, Act.run_bind_ok (Act.run_get _)]
      cases r with
      | ok x => exact Act.run_bind_ok hfire
      | error e => exact (Act.run_bind_ok (Act.run_zoom ..)).trans (Act.run_bind_error hfire)

end Custody

namespace Hearing

/-- The hearing with another desk. -/
def withDesk (h : Hearing) (d : Desk) : Hearing := { h with office := { h.office with desk := d } }

/-- The hearing with more notes in the log. -/
def noted (h : Hearing) (notes : List Note) : Hearing := h.withDesk (h.office.desk.noted notes)

/-- The hearing with its arbiter in another phase. -/
def entered (h : Hearing) (phase : Phase) : Hearing :=
  { h with arbiter := { h.arbiter with phase } }

/-- The hearing with another desk, after its arbiter has let go of the callback. -/
def released (h : Hearing) (d : Desk) : Hearing :=
  { office := { h.office with desk := d }, arbiter := { h.arbiter with held := none } }

theorem held_noted (h : Hearing) (notes : List Note) :
    (h.noted notes).arbiter.held = h.arbiter.held := rfl

theorem held_entered (h : Hearing) (phase : Phase) :
    (h.entered phase).arbiter.held = h.arbiter.held := rfl

theorem held_withDesk (h : Hearing) (d : Desk) : (h.withDesk d).arbiter.held = h.arbiter.held := rfl

theorem desk_entered (h : Hearing) (phase : Phase) :
    (h.entered phase).office.desk = h.office.desk := rfl

theorem request_entered (h : Hearing) (phase : Phase) :
    (h.entered phase).arbiter.request = h.arbiter.request := rfl

theorem catalog_entered (h : Hearing) (phase : Phase) :
    (h.entered phase).office.catalog = h.office.catalog := rfl

theorem run_enter (phase : Phase) (h : Hearing) :
    (enter phase).run h = (.ok (), h.entered phase) := rfl

theorem run_note (notes : List Note) (h : Hearing) :
    (onDesk (Desk.note notes)).run h = (.ok (), h.noted notes) := rfl

theorem run_onDesk {α : Type} (a : Act Desk α) (h : Hearing) :
    (onDesk a).run h = ((a.run h.office.desk).1, h.withDesk (a.run h.office.desk).2) := rfl

theorem run_peek (h : Hearing) :
    (onCustody Custody.peek).run h = match h.arbiter.held with
      | none => (.error .callbackGone, h)
      | some id => (.ok id, h) := by
  obtain ⟨office, request, phase, held⟩ := h
  cases held <;> rfl

theorem run_handOff (h : Hearing) :
    (onCustody Custody.handOff).run h = match h.arbiter.held with
      | none => (.error .callbackGone, h)
      | some id => (.ok id, h.released h.office.desk) := by
  obtain ⟨office, request, phase, held⟩ := h
  cases held <;> rfl

theorem run_fire (devices : List Device) (result : Given) (h : Hearing) :
    (onCustody (Custody.fire devices result)).run h = match h.arbiter.held with
      | none => (.error .callbackGone, h)
      | some id =>
        let r := (Desk.runCallback id devices result).run h.office.desk
        (r.1, h.released r.2) := by
  obtain ⟨office, request, phase, held⟩ := h
  cases held <;> rfl

theorem run_resolve_error {result : Given} {e : Failure} (hs : result.valueText = .error e)
    (devices : List Device) (h : Hearing) : (resolve devices result).run h = (.error e, h) := by
  rw [resolve, Act.run_bind_ok (Act.run_get h), hs]
  exact Act.run_bind_error (Act.run_ofExcept ..)

/-- Resolving takes a held callback and lets go of it, even if its run fails. -/
theorem run_resolve {result : Given} {shown : String} (hs : result.valueText = .ok shown)
    (devices : List Device) (h : Hearing) :
    (resolve devices result).run h =
      let h' := h.noted [resolvedNote h.arbiter.request devices shown]
      match h.arbiter.held with
      | none => (.error .callbackGone, h')
      | some id =>
        match (Desk.runCallback id devices result).run h'.office.desk with
        | (.ok _, d) => (.ok (), (h.released d).entered .resolved)
        | (.error e, d) => (.error e, h.released d) := by
  have hfire := run_fire devices result (h.noted [resolvedNote h.arbiter.request devices shown])
  rw [resolve, Act.run_bind_ok (Act.run_get h), hs, Act.run_bind_ok (Act.run_ofExcept ..),
    Act.run_bind_ok (run_note _ h)]
  cases hh : h.arbiter.held with
  | none =>
    simp only [held_noted, hh] at hfire
    exact Act.run_bind_error hfire
  | some id =>
    simp only [held_noted, hh] at hfire
    simp only
    cases hr : (Desk.runCallback id devices result).run
        (h.noted [resolvedNote h.arbiter.request devices shown]).office.desk with
    | mk r d =>
      rw [hr] at hfire
      cases r with
      | ok x => exact Act.run_bind_ok hfire
      | error e => exact Act.run_bind_error hfire

theorem run_close (h : Hearing) :
    close.run h = match h.arbiter.held with
      | none => (.ok false, h)
      | some id =>
        let d := h.office.desk.noted [Custody.closingNote (h.office.desk.labelOf id)]
        let r := (Desk.runCallback id [] (.ofOutcome .failedDueToShutdown)).run d
        (r.1.map fun _ => true, h.released r.2) := by
  obtain ⟨office, request, phase, held⟩ := h
  rw [close, onCustody, Act.run_zoom, Custody.run_close]
  cases held <;> rfl

/-- The devices that accepting grants. -/
def selected (h : Hearing) : Except Failure (List Device) :=
  let r := h.arbiter.request
  Selection.choose h.office.catalog r r.wantsMicrophone r.wantsCamera

/-- The hearing after the notes about the choice of devices. -/
def consulted (h : Hearing) : Hearing :=
  let r := h.arbiter.request
  h.noted (Selection.notes h.office.catalog r r.wantsMicrophone r.wantsCamera)

theorem run_accept_ok {devices : List Device} {h : Hearing} (hd : h.selected = .ok devices) :
    accept.run h = (resolve devices Outcome.ok).run h.consulted := by
  rw [selected] at hd
  rw [accept, Act.run_bind_ok (Act.run_get h), Act.run_bind_ok (run_note _ h), hd]
  exact Act.run_bind_ok (Act.run_ofExcept ..)

theorem run_accept_error {e : Failure} {h : Hearing} (hd : h.selected = .error e) :
    accept.run h = (.error e, h.consulted) := by
  rw [selected] at hd
  rw [accept, Act.run_bind_ok (Act.run_get h), Act.run_bind_ok (run_note _ h), hd]
  exact Act.run_bind_error (Act.run_ofExcept ..)

theorem run_denyNamed_ok {code : Value} {o : Outcome} (h : Hearing) (hr : code.toMember = .ok o) :
    (denyNamed code).run h = (deny o).run h := by
  rw [denyNamed, hr]
  exact Act.run_bind_ok (Act.run_ofExcept ..)

theorem run_denyNamed_error {code : Value} {e : Failure} (h : Hearing)
    (hr : (code.toMember : Except Failure Outcome) = .error e) :
    (denyNamed code).run h = (.error e, h) := by
  rw [denyNamed, hr]
  exact Act.run_bind_error (Act.run_ofExcept ..)

/-- The hearing when the screen branch asks for the devices. -/
def screened (h : Hearing) : Hearing :=
  (h.entered .delegatedToScreen).noted (Screen.notes h.arbiter.request)

theorem run_runScreen_ok {devices : List Device} {h : Hearing}
    (hd : Screen.grant h.arbiter.request = .ok devices) :
    runScreen.run h =
      (resolve devices (Screen.outcome devices)).run (h.screened.noted [screenNote devices]) := by
  rw [runScreen, Act.run_bind_ok (run_enter _ h), Act.run_bind_ok (Act.run_get _),
    Act.run_bind_ok (run_note _ _), request_entered, hd, Act.run_bind_ok (Act.run_ofExcept ..)]
  exact Act.run_bind_ok (run_note ..)

theorem run_runScreen_error {e : Failure} {h : Hearing}
    (hd : Screen.grant h.arbiter.request = .error e) :
    runScreen.run h = (.error e, h.screened) := by
  rw [runScreen, Act.run_bind_ok (run_enter _ h), Act.run_bind_ok (Act.run_get _),
    Act.run_bind_ok (run_note _ _), request_entered, hd]
  exact Act.run_bind_error (Act.run_ofExcept ..)

theorem run_abandon (h : Hearing) :
    abandon.run h = (.ok (), (h.noted [goneNote h.arbiter.request]).entered .abandonedNoFrame) :=
  rfl

theorem run_decide (h : Hearing) :
    decide.run h =
      if h.office.catalog.hasAny then accept.run (h.entered .deciding)
      else (resolve [] Outcome.noHardware).run (h.entered .deciding) := by
  rw [decide, Act.run_bind_ok (run_enter _ h), Act.run_bind_ok (Act.run_get _), Act.run_ite]
  rfl

/-- The authority is asked on the desk. A claim takes the callback away from the arbiter. -/
theorem run_runOffered (frame : Frame) (h : Hearing) :
    (runOffered frame).run h = match h.arbiter.held with
      | none => (.error .callbackGone, h.entered .offered)
      | some id =>
        match (h.office.consent.offer h.arbiter.request id).run h.office.desk with
        | (.error e, d) => (.error e, (h.withDesk d).entered .offered)
        | (.ok claim, d) =>
          if claim.isTruthy then
            (.ok (), ((h.released d).entered .delegatedToConsent).noted [claimedNote frame])
          else decide.run ((h.withDesk d).entered .offered) := by
  have hpeek := run_peek (h.entered .offered)
  rw [runOffered, Act.run_bind_ok (run_enter _ h)]
  cases hh : h.arbiter.held with
  | none =>
    simp only [held_entered, hh] at hpeek
    exact Act.run_bind_error hpeek
  | some id =>
    simp only [held_entered, hh] at hpeek
    rw [Act.run_bind_ok hpeek, Act.run_bind_ok (Act.run_get _)]
    have hoffer := run_onDesk (h.office.consent.offer h.arbiter.request id) (h.entered .offered)
    simp only [desk_entered] at hoffer
    simp only
    cases hr : (h.office.consent.offer h.arbiter.request id).run h.office.desk with
    | mk r d =>
      rw [hr] at hoffer
      cases r with
      | error e => exact Act.run_bind_error hoffer
      | ok claim =>
        refine (Act.run_bind_ok hoffer).trans ?_
        rw [Act.run_ite]
        by_cases hc : claim.isTruthy = true
        · have hoff := run_handOff ((h.entered .offered).withDesk d)
          simp only [held_withDesk, held_entered, hh] at hoff
          simp only [if_pos hc]
          exact (Act.run_bind_ok hoff).trans (Act.run_bind_ok (run_enter ..))
        · simp only [if_neg hc]
          rfl

/-- The branch of a run, chosen by the request and by the live frames. An arbiter runs once. -/
def branch (h : Hearing) : Act Hearing Unit :=
  let r := h.arbiter.request
  if h.arbiter.phase != .pending then Act.fail (.alreadyRan h.arbiter.phase.name)
  else if r.isScreenCapture then runScreen
  else match h.office.frames.find? r.processId r.frameId with
    | none => abandon
    | some frame => runOffered frame

theorem run_bind_phase (a : Act Hearing Unit) (h : Hearing) :
    (do a; return (← Act.get).arbiter.phase : Act Hearing Phase).run h =
      match a.run h with
      | (.ok _, h') => (.ok h'.arbiter.phase, h')
      | (.error e, h') => (.error e, h') := by
  rw [Act.run_bind]
  cases ha : a.run h with
  | mk r h' => cases r <;> rfl

theorem run_run (h : Hearing) :
    run.run h = match h.branch.run h with
      | (.ok _, h') => (.ok h'.arbiter.phase, h')
      | (.error e, h') => (.error e, h') := by
  rw [run, Act.run_bind_ok (Act.run_get h), branch]
  by_cases hp : (h.arbiter.phase != .pending) = true
  · simp only [if_pos hp]
    rfl
  · by_cases hs : h.arbiter.request.isScreenCapture = true
    · simp only [if_neg hp, if_pos hs]
      exact run_bind_phase runScreen h
    · simp only [if_neg hp, if_neg hs]
      cases h.office.frames.find? h.arbiter.request.processId h.arbiter.request.frameId with
      | none => exact run_bind_phase abandon h
      | some frame => exact run_bind_phase (runOffered frame) h

theorem run_state (h : Hearing) : (run.run h).2 = (h.branch.run h).2 := by
  rw [run_run]
  cases h.branch.run h with
  | mk r h' => cases r <;> rfl

theorem run_answer_ok {h : Hearing} (hb : (h.branch.run h).1 = .ok ()) :
    (run.run h).1 = .ok (h.branch.run h).2.arbiter.phase := by
  rw [run_run]
  cases hr : h.branch.run h with
  | mk r h' =>
    rw [hr] at hb
    cases hb
    rfl

theorem run_answer_error {h : Hearing} {e : Failure} (hb : (h.branch.run h).1 = .error e) :
    (run.run h).1 = .error e := by
  rw [run_run]
  cases hr : h.branch.run h with
  | mk r h' =>
    rw [hr] at hb
    cases hb
    rfl

/-- The release comes after the run, whatever came of the run; if it fails, its failure counts. -/
theorem run_scopedRun (h : Hearing) :
    scopedRun.run h = match close.run (run.run h).2 with
      | (.ok _, h') => ((run.run h).1, h')
      | (.error e, h') => (.error e, h') := by
  rw [scopedRun, Act.run_bind_ok (Act.run_attempt ..), Act.run_bind]
  cases hc : close.run (run.run h).2 with
  | mk r h' => cases r <;> rfl

theorem run_scopedRun_of_gone {h : Hearing} (hg : (run.run h).2.arbiter.held = none) :
    scopedRun.run h = run.run h := by
  rw [run_scopedRun, run_close, hg]

end Hearing

end CaptureArbiter
