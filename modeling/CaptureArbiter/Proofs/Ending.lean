import CaptureArbiter.Proofs.Reactions
import CaptureArbiter.Proofs.Verdict

/-!
# How hearings end

A hearing begins with a fresh callback. On each of its ways the callback is run once, by the
arbiter, by a policy, or by the release at the end, and what the sink receives by that run is what
the verdict says. If the sink fails on it, so does the hearing, with the failure of the sink on
every way but one: a policy runs the callback while the arbiter still holds it, so the release runs
the used callback again, and fails on that.
-/

namespace CaptureArbiter

open Act

/-- The arbiter holds an unused callback. -/
structure Hearing.Fresh (id : Nat) (c : Callback) (h : Hearing) : Prop where
  held : h.arbiter.held = some id
  there : h.office.desk.callbacks[id]? = some c
  unused : c.used = false

/-- The hearing ends with a verdict: its sink takes the delivery, and the answer is the verdict's,
unless the sink fails. -/
structure Hearing.EndsWith (v : Verdict) (id : Nat) (c : Callback) (h : Hearing)
    (y : Except Failure Phase × Hearing) : Prop where
  takes : Desk.Takes c (c.delivery id v.devices v.outcome) h.office.desk y.2.office.desk
  accepted : c.sink = .accept → y.1 = v.answer
  answer : ∀ phase, y.1 = .ok phase → v.answer = .ok phase

/-- A branch of a run resolves the request: its sink takes the delivery, the callback is gone, and
the branch ends in the phase that the verdict answers, unless the sink fails. -/
structure Hearing.Resolves (v : Verdict) (id : Nat) (c : Callback) (h : Hearing)
    (y : Except Failure Unit × Hearing) : Prop where
  takes : Desk.Takes c (c.delivery id v.devices v.outcome) h.office.desk y.2.office.desk
  gone : y.2.arbiter.held = none
  accepted : c.sink = .accept → y.1 = .ok ()
  answer : y.1 = .ok () → v.answer = .ok y.2.arbiter.phase

/-- What a request is answered when its sink has come to something. If the sink fails on a denial,
the failure of the release counts. -/
def Verdict.answerTo (v : Verdict) (label : String) : Except Failure Unit → Except Failure Phase
  | .ok _ => v.answer
  | .error e => .error (if v.outcome = .permissionDenied then .callbackUsed label else e)

/-- The hearing ends with a verdict, whatever its sink comes to: the sink takes the delivery, and
the answer is the verdict's to that. -/
structure Hearing.Concludes (v : Verdict) (id : Nat) (c : Callback) (h : Hearing) : Prop where
  takes : Desk.Takes c (c.delivery id v.devices v.outcome) h.office.desk
    (scopedRun.run h).2.office.desk
  heeds : (scopedRun.run h).1 =
    v.answerTo c.label (h.office.desk.reaction id c v.devices v.outcome)

namespace Hearing

variable {id : Nat} {c : Callback} {h k : Hearing} {origins : List String}

theorem Concludes.endsWith {v : Verdict} (hv : h.Concludes v id c) :
    h.EndsWith v id c (scopedRun.run h) where
  takes := hv.takes
  accepted hk := by
    rw [hv.heeds, Desk.reaction_of_accept hk]
    rfl
  answer phase hphase := by
    have hheeds := hv.heeds
    rw [hphase] at hheeds
    cases hr : h.office.desk.reaction id c v.devices v.outcome with
    | ok _ =>
      rw [hr] at hheeds
      exact hheeds.symm
    | error e =>
      rw [hr] at hheeds
      cases hheeds

theorem Fresh.noted (hf : h.Fresh id c) (notes : List Note) : (h.noted notes).Fresh id c :=
  ⟨hf.held, hf.there, hf.unused⟩

theorem Fresh.entered (hf : h.Fresh id c) (phase : Phase) : (h.entered phase).Fresh id c :=
  ⟨hf.held, hf.there, hf.unused⟩

theorem Resolves.of_deliveries {v : Verdict} {k : Hearing} {y : Except Failure Unit × Hearing}
    (hr : k.Resolves v id c y) (hd : h.office.desk.deliveries = k.office.desk.deliveries) :
    h.Resolves v id c y :=
  ⟨hr.takes.of_deliveries hd rfl, hr.gone, hr.accepted, hr.answer⟩

theorem Fresh.answer_run (hk : k.Fresh id c)
    (hsame : k.office.desk.callbacks = h.office.desk.callbacks) (notes : List Note)
    (devices : List Device) (o : Outcome) :
    ((Desk.runCallback id devices (.ofOutcome o)).run (k.noted notes).office.desk).1 =
      h.office.desk.reaction id c devices o := by
  have hn := hk.noted notes
  have hcallbacks : (k.noted notes).office.desk.callbacks = h.office.desk.callbacks := hsame
  rw [Desk.answer_of_fresh hn.there hn.unused, Desk.reaction_congr hcallbacks]

theorem Fresh.answer_resolve (hk : k.Fresh id c)
    (hsame : k.office.desk.callbacks = h.office.desk.callbacks) (devices : List Device)
    (o : Outcome) :
    ((Hearing.resolve devices o).run k).1 = h.office.desk.reaction id c devices o := by
  rw [← hk.answer_run hsame [resolvedNote k.arbiter.request devices o.name] devices o,
    run_resolve (Given.valueText_ofOutcome o), hk.held]
  simp only
  cases (Desk.runCallback id devices (.ofOutcome o)).run
      (k.noted [resolvedNote k.arbiter.request devices o.name]).office.desk with
  | mk r d => cases r <;> rfl

theorem Fresh.resolve (hf : h.Fresh id c) (devices : List Device) (o : Outcome) :
    h.Resolves ⟨devices, o, .ok .resolved⟩ id c ((Hearing.resolve devices o).run h) := by
  have hn := hf.noted [resolvedNote h.arbiter.request devices o.name]
  have htakes := Desk.takes_run hn.there hn.unused devices o
  have hanswer := hf.answer_resolve (h := h) rfl devices o
  have haccept := fun hk => hanswer.trans (Desk.reaction_of_accept hk ..)
  rw [run_resolve (Given.valueText_ofOutcome o), hf.held] at haccept ⊢
  simp only at haccept ⊢
  cases hr : (Desk.runCallback id devices (.ofOutcome o)).run
      (h.noted [resolvedNote h.arbiter.request devices o.name]).office.desk with
  | mk r d =>
    rw [hr] at htakes haccept
    cases r with
    | ok _ => exact ⟨htakes.of_deliveries rfl rfl, rfl, haccept, fun _ => rfl⟩
    | error e => exact ⟨htakes.of_deliveries rfl rfl, rfl, haccept, fun h => (nomatch h)⟩

theorem Fresh.close (hk : k.Fresh id c)
    (hsame : k.office.desk.callbacks = h.office.desk.callbacks) :
    Desk.Takes c (c.delivery id [] .failedDueToShutdown) k.office.desk
        (Hearing.close.run k).2.office.desk ∧
      (Hearing.close.run k).1 =
        (h.office.desk.reaction id c [] .failedDueToShutdown).map fun _ => true := by
  have hn := hk.noted [Custody.closingNote (k.office.desk.labelOf id)]
  have htakes := Desk.takes_run hn.there hn.unused [] .failedDueToShutdown
  have hanswer := hk.answer_run hsame [Custody.closingNote (k.office.desk.labelOf id)] []
    .failedDueToShutdown
  rw [run_close, hk.held]
  exact ⟨htakes.of_deliveries rfl rfl, congrArg (Except.map fun _ => true) hanswer⟩

/-- The release runs a held callback again, even if it is used, and fails on that. -/
theorem run_close_of_used (hh : h.arbiter.held = some id)
    (hc : h.office.desk.callbacks[id]? = some c) (hu : c.used = true) :
    (close.run h).1 = .error (.callbackUsed c.label) ∧
      (close.run h).2.office.desk.deliveries = h.office.desk.deliveries := by
  have hrun := Desk.run_of_used
    (d := h.office.desk.noted [Custody.closingNote (h.office.desk.labelOf id)]) hc hu []
    (.ofOutcome .failedDueToShutdown)
  rw [run_close, hh]
  simp only
  rw [hrun]
  exact ⟨rfl, rfl⟩

theorem Resolves.endsWith {v : Verdict} (hr : h.Resolves v id c (h.branch.run h)) :
    h.EndsWith v id c (scopedRun.run h) := by
  have hgone : (run.run h).2.arbiter.held = none := by rw [run_state, hr.gone]
  rw [run_scopedRun_of_gone hgone]
  refine ⟨by rw [run_state]; exact hr.takes, fun hk => ?_, fun phase hphase => ?_⟩
  · have hok := hr.accepted hk
    rw [run_answer_ok hok, hr.answer hok]
  · cases hb : (h.branch.run h).1 with
    | ok _ =>
      rw [run_answer_ok hb] at hphase
      rw [hr.answer hb, hphase]
    | error e =>
      rw [run_answer_error hb] at hphase
      cases hphase

theorem Resolves.concludes {v : Verdict} (hr : h.Resolves v id c (h.branch.run h))
    (hanswer : (h.branch.run h).1 = h.office.desk.reaction id c v.devices v.outcome)
    (ho : v.outcome ≠ .permissionDenied) : h.Concludes v id c where
  takes := hr.endsWith.takes
  heeds := by
    have hgone : (run.run h).2.arbiter.held = none := by rw [run_state, hr.gone]
    rw [run_scopedRun_of_gone hgone]
    cases hx : h.office.desk.reaction id c v.devices v.outcome with
    | ok _ =>
      have hok := hanswer.trans hx
      rw [run_answer_ok hok, ← hr.answer hok]
      rfl
    | error e =>
      rw [run_answer_error (hanswer.trans hx)]
      simp only [Verdict.answerTo, ho, if_false]

theorem Fresh.concludes_of_resolve {devices : List Device} {o : Outcome} (hk : k.Fresh id c)
    (hcallbacks : k.office.desk.callbacks = h.office.desk.callbacks)
    (hdeliveries : h.office.desk.deliveries = k.office.desk.deliveries)
    (hb : h.branch.run h = (Hearing.resolve devices o).run k) (ho : o ≠ .permissionDenied) :
    h.Concludes ⟨devices, o, .ok .resolved⟩ id c := by
  have hres := hk.resolve devices o
  have hanswer := hk.answer_resolve hcallbacks devices o
  rw [← hb] at hres hanswer
  exact (hres.of_deliveries hdeliveries).concludes hanswer ho

theorem Fresh.concludes_of_kept (hk : (h.branch.run h).2.Fresh id c)
    (hcallbacks : (h.branch.run h).2.office.desk.callbacks = h.office.desk.callbacks)
    (hdeliveries : h.office.desk.deliveries = (h.branch.run h).2.office.desk.deliveries) :
    h.Concludes (.shutdown (run.run h).1) id c := by
  obtain ⟨htakes, hanswer⟩ := hk.close hcallbacks
  have hscoped := run_scopedRun h
  rw [run_state] at hscoped
  cases hr : Hearing.close.run (h.branch.run h).2 with
  | mk r k =>
    rw [hr] at htakes hanswer hscoped
    cases hx : h.office.desk.reaction id c [] .failedDueToShutdown with
    | ok _ =>
      rw [hx] at hanswer
      cases hanswer
      refine ⟨?_, ?_⟩
      · rw [hscoped]
        exact htakes.of_deliveries hdeliveries rfl
      · rw [hscoped, Verdict.shutdown, hx]
        rfl
    | error e =>
      rw [hx] at hanswer
      cases hanswer
      refine ⟨?_, ?_⟩
      · rw [hscoped]
        exact htakes.of_deliveries hdeliveries rfl
      · rw [hscoped, Verdict.shutdown, hx]
        rfl

theorem branch_screen (hp : h.arbiter.phase = .pending)
    (hs : h.arbiter.request.isScreenCapture = true) : h.branch = runScreen := by
  simp only [branch, hp, hs, bne_self_eq_false, Bool.false_eq_true, if_false, if_true]

theorem branch_gone (hp : h.arbiter.phase = .pending)
    (hs : h.arbiter.request.isScreenCapture = false)
    (hfind : h.office.frames.find? h.arbiter.request.processId h.arbiter.request.frameId = none) :
    h.branch = abandon := by
  simp only [branch, hp, hs, hfind, bne_self_eq_false, Bool.false_eq_true, if_false]

theorem branch_offered {frame : Frame} (hp : h.arbiter.phase = .pending)
    (hs : h.arbiter.request.isScreenCapture = false)
    (hfind : h.office.frames.find? h.arbiter.request.processId h.arbiter.request.frameId =
      some frame) : h.branch = runOffered frame := by
  simp only [branch, hp, hs, hfind, bne_self_eq_false, Bool.false_eq_true, if_false]

theorem Fresh.resolves_screen (hf : h.Fresh id c) (hb : h.branch = Hearing.runScreen)
    {devices : List Device} (hd : Screen.grant h.arbiter.request = .ok devices) :
    h.Resolves ⟨devices, Screen.outcome devices, .ok .resolved⟩ id c (h.branch.run h) := by
  have hs : h.screened.Fresh id c := (hf.entered .delegatedToScreen).noted _
  have hres := (hs.noted [screenNote devices]).resolve devices (Screen.outcome devices)
  rw [← run_runScreen_ok hd, ← hb] at hres
  exact hres.of_deliveries rfl

theorem Fresh.screen (hf : h.Fresh id c) (hb : h.branch = Hearing.runScreen) :
    h.Concludes
      (match Screen.grant h.arbiter.request with
        | .ok devices => ⟨devices, Screen.outcome devices, .ok .resolved⟩
        | .error e => .shutdown (.error e)) id c := by
  have hs : h.screened.Fresh id c := (hf.entered .delegatedToScreen).noted _
  cases hd : Screen.grant h.arbiter.request with
  | ok devices =>
    have hrun := run_runScreen_ok hd
    rw [← hb] at hrun
    have houtcome : Screen.outcome devices ≠ .permissionDenied := by
      unfold Screen.outcome
      split <;> exact Outcome.noConfusion
    exact (hs.noted [screenNote devices]).concludes_of_resolve rfl rfl hrun houtcome
  | error e =>
    have hrun := run_runScreen_error hd
    rw [← hb] at hrun
    have hanswer : (run.run h).1 = .error e := run_answer_error (by rw [hrun])
    have hkept : (h.branch.run h).2.Fresh id c := by rw [hrun]; exact hs
    simp only
    rw [← hanswer]
    exact hkept.concludes_of_kept (by rw [hrun]; rfl) (by rw [hrun]; rfl)

theorem Fresh.abandoned (hf : h.Fresh id c) (hb : h.branch = Hearing.abandon) :
    h.Concludes (.shutdown (.ok .abandonedNoFrame)) id c := by
  have hrun := run_abandon h
  rw [← hb] at hrun
  have hanswer : (run.run h).1 = .ok .abandonedNoFrame := by
    rw [run_answer_ok (by rw [hrun]), hrun]
    rfl
  have hkept : (h.branch.run h).2.Fresh id c := by
    rw [hrun]
    exact (hf.noted _).entered _
  rw [← hanswer]
  exact hkept.concludes_of_kept (by rw [hrun]; rfl) (by rw [hrun]; rfl)

/-- Requests of blocked origins are denied. If the sink fails on that, the release finds the
callback used, delivers nothing more and fails. -/
theorem Fresh.denied (hf : h.Fresh id c) {frame : Frame} (hb : h.branch = Hearing.runOffered frame)
    (hc : h.office.consent.ConfiguredWith origins)
    (ho : Consent.isBlocked origins h.arbiter.request.securityOrigin = true) :
    h.Concludes ⟨[], .permissionDenied, .ok .delegatedToConsent⟩ id c := by
  have hn := hf.noted [Consent.deniedNote (normalOrigin h.arbiter.request.securityOrigin)]
  have htakes := Desk.takes_run hn.there hn.unused [] .permissionDenied
  have hused := Desk.exists_used_of_run hn.there [] (.ofOutcome .permissionDenied)
  have hanswer := hf.answer_run (h := h) rfl
    [Consent.deniedNote (normalOrigin h.arbiter.request.securityOrigin)] [] .permissionDenied
  have hoffer := Consent.run_offer_blocked hc ho id h.office.desk
  have hrun := run_runOffered frame h
  rw [hf.held, ← hb] at hrun
  simp only [hoffer] at hrun
  generalize Consent.deniedNote (normalOrigin h.arbiter.request.securityOrigin) = note at *
  cases hr : (Desk.runCallback id [] (.ofOutcome .permissionDenied)).run
      (h.noted [note]).office.desk with
  | mk r d =>
    rw [hr] at htakes hused hanswer
    change (Desk.runCallback id [] (.ofOutcome .permissionDenied)).run
      (h.office.desk.noted _) = _ at hr
    rw [hr] at hrun
    cases r with
    | ok _ =>
      have hgone : (run.run h).2.arbiter.held = none := by
        rw [run_state, hrun]
        rfl
      refine ⟨?_, ?_⟩
      · rw [run_scopedRun_of_gone hgone, run_state, hrun]
        exact htakes.of_deliveries rfl rfl
      · rw [run_scopedRun_of_gone hgone, run_answer_ok (by rw [hrun]; rfl), hrun]
        simp only
        rw [← hanswer]
        rfl
    | error e =>
      -- the policy fails along with the sink, and the arbiter still holds the used callback
      obtain ⟨c', hc', hu, hlabel⟩ := hused
      have hkept : (h.branch.run h).2 = (h.withDesk d).entered .offered := by rw [hrun]; rfl
      obtain ⟨hfails, hsame⟩ :=
        run_close_of_used (h := (h.withDesk d).entered .offered) hf.held hc' hu
      have hscoped := run_scopedRun h
      rw [run_state, hkept] at hscoped
      cases hclose : Hearing.close.run ((h.withDesk d).entered .offered) with
      | mk r' k =>
        rw [hclose] at hfails hsame hscoped
        cases hfails
        refine ⟨?_, ?_⟩
        · rw [hscoped]
          exact htakes.of_deliveries rfl hsame
        · rw [hscoped]
          simp only
          rw [← hanswer, hlabel]
          rfl

theorem Fresh.decided (hf : h.Fresh id c)
    (hb : h.branch.run h = Hearing.decide.run (h.entered .offered)) :
    h.Concludes
      (if !h.office.catalog.hasAny then ⟨[], .noHardware, .ok .resolved⟩
        else if Verdict.asksByUpdate h.arbiter.request then
          .shutdown (.error (.unreachableRequest .deviceUpdate))
        else ⟨Verdict.granted h.office.catalog h.arbiter.request, .ok, .ok .resolved⟩) id c := by
  have he : ((h.entered .offered).entered .deciding).Fresh id c := (hf.entered _).entered _
  have hcon : ((h.entered .offered).entered .deciding).consulted.Fresh id c := he.noted _
  have hchoose : ((h.entered .offered).entered .deciding).selected = _ :=
    Verdict.choose_eq h.office.catalog h.arbiter.request
  rw [run_decide, catalog_entered] at hb
  cases hany : h.office.catalog.hasAny with
  | false =>
    simp only [hany, Bool.false_eq_true, if_false] at hb
    simp only [Bool.not_false, if_true]
    exact he.concludes_of_resolve rfl rfl hb Outcome.noConfusion
  | true =>
    simp only [hany, if_true] at hb
    simp only [Bool.not_true, Bool.false_eq_true, if_false]
    cases hasks : Verdict.asksByUpdate h.arbiter.request with
    | false =>
      simp only [hasks, Bool.false_eq_true, if_false] at hchoose
      simp only [Bool.false_eq_true, if_false]
      rw [run_accept_ok hchoose] at hb
      exact hcon.concludes_of_resolve rfl rfl hb Outcome.noConfusion
    | true =>
      simp only [hasks, if_true] at hchoose
      simp only [if_true]
      rw [run_accept_error hchoose] at hb
      have hanswer : (run.run h).1 = .error (.unreachableRequest .deviceUpdate) :=
        run_answer_error (by rw [hb])
      have hkept : (h.branch.run h).2.Fresh id c := by
        rw [hb]
        exact hcon
      rw [← hanswer]
      exact hkept.concludes_of_kept (by rw [hb]; rfl) (by rw [hb]; rfl)

/-- No application takes the request over: it is granted or given up before the authority is asked,
or no handler is installed. -/
def Unattended (h : Hearing) : Prop :=
  h.arbiter.request.isScreenCapture = true ∨
    h.office.frames.find? h.arbiter.request.processId h.arbiter.request.frameId = none ∨
    h.office.consent.Idle

theorem Unattended.idle (hu : h.Unattended) (hs : h.arbiter.request.isScreenCapture = false)
    (hfind : h.office.frames.find? h.arbiter.request.processId h.arbiter.request.frameId ≠ none) :
    h.office.consent.Idle := by
  rcases hu with hscreen | hgone | hi
  · rw [hs] at hscreen
    cases hscreen
  · exact absurd hgone hfind
  · exact hi

/-- A hearing of an unattended request concludes with the verdict on it. -/
theorem Fresh.concludes (hf : h.Fresh id c) (hp : h.arbiter.phase = .pending)
    (hc : h.office.consent.ConfiguredWith origins) (hu : h.Unattended) :
    h.Concludes (.of h.office.frames h.office.catalog origins h.arbiter.request) id c := by
  rw [Verdict.of]
  cases hs : h.arbiter.request.isScreenCapture with
  | true => exact hf.screen (branch_screen hp hs)
  | false =>
    simp only [Bool.false_eq_true, if_false]
    cases hfind : h.office.frames.find? h.arbiter.request.processId h.arbiter.request.frameId with
    | none =>
      simp only [Option.isNone_none, if_true]
      exact hf.abandoned (branch_gone hp hs hfind)
    | some frame =>
      have hb := branch_offered hp hs hfind
      simp only [Option.isNone_some, Bool.false_eq_true, if_false]
      cases ho : Consent.isBlocked origins h.arbiter.request.securityOrigin with
      | true => exact hf.denied hb hc ho
      | false =>
        have hi := hu.idle hs (Option.ne_none_iff_exists'.mpr ⟨frame, hfind⟩)
        have hrun := run_runOffered frame h
        rw [hf.held, ← hb] at hrun
        simp only [Consent.run_offer_declined hc hi ho id h.office.desk] at hrun
        exact hf.decided hrun

theorem Fresh.endsWith_verdict (hf : h.Fresh id c) (hp : h.arbiter.phase = .pending)
    (hc : h.office.consent.ConfiguredWith origins) (hu : h.Unattended) :
    h.EndsWith (.of h.office.frames h.office.catalog origins h.arbiter.request) id c
      (scopedRun.run h) :=
  (hf.concludes hp hc hu).endsWith

theorem Fresh.claimed (hf : h.Fresh id c) (hp : h.arbiter.phase = .pending)
    (hu : ¬h.Unattended) : (scopedRun.run h).1 = .ok .delegatedToConsent := by
  simp only [Unattended, Consent.Idle, not_or, Bool.not_eq_true, Classical.not_forall, ne_eq,
    Classical.not_not] at hu
  obtain ⟨hs, hfind, script, hconsent⟩ := hu
  obtain ⟨frame, hframe⟩ := Option.ne_none_iff_exists'.mp hfind
  have hb := branch_offered hp hs hframe
  have hrun := run_runOffered frame h
  have hoffer := Consent.run_offer_handler script h.arbiter.request id h.office.desk
  rw [hf.held, ← hb] at hrun
  simp only [hconsent] at hrun
  cases hr : ((Consent.handler (some script)).offer h.arbiter.request id).run h.office.desk with
  | mk r d =>
    rw [hr] at hoffer hrun
    cases hoffer
    have hgone : (run.run h).2.arbiter.held = none := by
      rw [run_state, hrun]
      rfl
    rw [run_scopedRun_of_gone hgone, run_answer_ok (by rw [hrun]; rfl), hrun]
    rfl

end Hearing

end CaptureArbiter
