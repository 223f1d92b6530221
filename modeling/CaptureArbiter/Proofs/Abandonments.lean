import CaptureArbiter.Proofs.SinkFailures

/-!
# Abandoned requests and their counter

A request is abandoned if it is not for a screen and its frame is not live. A service counts it only
after its release, so an abandoned request goes uncounted if its sink fails on the failure due to
shutdown. No other request is ever counted, whatever the authority does.
-/

namespace CaptureArbiter

open Act

namespace Hearing

/-- The arbiter has not abandoned its request. -/
def Pursued (h : Hearing) : Prop := h.arbiter.phase ≠ .abandonedNoFrame

theorem pursued_onCustody {α : Type} (a : Act Custody α) : Keeps Pursued (onCustody a) :=
  fun _ hh => hh

theorem pursued_onDesk {α : Type} (a : Act Desk α) : Keeps Pursued (onDesk a) := pursued_onCustody _

theorem pursued_enter {phase : Phase} (hp : phase ≠ .abandonedNoFrame) :
    Keeps Pursued (enter phase) :=
  fun _ _ => hp

theorem pursued_resolve (devices : List Device) (result : Given) :
    Keeps Pursued (resolve devices result) := by
  refine .bind_get fun _ _ => .bind (.ofExcept _) fun _ => .bind (pursued_onDesk _) fun _ => ?_
  exact .bind (pursued_onCustody _) fun _ => pursued_enter Phase.noConfusion

theorem pursued_runScreen : Keeps Pursued runScreen := by
  refine .bind (pursued_enter Phase.noConfusion) fun _ => .bind_get fun _ _ => ?_
  refine .bind (pursued_onDesk _) fun _ => .bind (.ofExcept _) fun devices => ?_
  exact .bind (pursued_onDesk _) fun _ => pursued_resolve devices _

theorem pursued_accept : Keeps Pursued accept := by
  refine .bind_get fun _ _ => .bind (pursued_onDesk _) fun _ => ?_
  exact .bind (.ofExcept _) fun devices => pursued_resolve devices Outcome.ok

theorem pursued_decide : Keeps Pursued decide := by
  refine .bind (pursued_enter Phase.noConfusion) fun _ => .bind_get fun _ _ => ?_
  exact .ite pursued_accept (pursued_resolve [] Outcome.noHardware)

theorem pursued_runOffered (frame : Frame) : Keeps Pursued (runOffered frame) := by
  refine .bind (pursued_enter Phase.noConfusion) fun _ => .bind (pursued_onCustody _) fun id => ?_
  refine .bind_get fun _ _ => .bind (pursued_onDesk _) fun claim => .ite ?_ pursued_decide
  refine .bind (pursued_onCustody _) fun _ => .bind (pursued_enter Phase.noConfusion) fun _ => ?_
  exact pursued_onDesk _

variable {h : Hearing}

theorem pursued_branch (hp : h.arbiter.phase = .pending)
    (hlive : h.arbiter.request.isScreenCapture = true ∨
      h.office.frames.find? h.arbiter.request.processId h.arbiter.request.frameId ≠ none) :
    (h.branch.run h).2.Pursued := by
  have hstart : h.Pursued := by
    rw [Pursued, hp]
    exact Phase.noConfusion
  cases hs : h.arbiter.request.isScreenCapture with
  | true =>
    rw [branch_screen hp hs]
    exact pursued_runScreen h hstart
  | false =>
    rw [hs] at hlive
    obtain ⟨frame, hframe⟩ := Option.ne_none_iff_exists'.mp (hlive.resolve_left Bool.false_ne_true)
    rw [branch_offered hp hs hframe]
    exact pursued_runOffered frame h hstart

theorem answer_scopedRun_ne_abandoned (hb : (h.branch.run h).2.Pursued) :
    (scopedRun.run h).1 ≠ .ok .abandonedNoFrame := by
  intro hanswer
  have hrun : (run.run h).1 = .ok .abandonedNoFrame := by
    rw [run_scopedRun] at hanswer
    cases hc : close.run (run.run h).2 with
    | mk r k =>
      rw [hc] at hanswer
      cases r with
      | ok _ => exact hanswer
      | error e => cases hanswer
  cases hr : (h.branch.run h).1 with
  | ok _ =>
    rw [run_answer_ok hr] at hrun
    exact hb (Except.ok.inj hrun)
  | error e =>
    rw [run_answer_error hr] at hrun
    cases hrun

end Hearing

/-- Is a request abandoned in an office with these frames? -/
def Request.isAbandoned (frames : Frames) (r : Request) : Bool :=
  !r.isScreenCapture && (frames.find? r.processId r.frameId).isNone

namespace Office

/-- Does the sink of a request that is handled in the office take the failure due to shutdown? -/
def shutdownTaken (o : Office) (r : Request) (sink : Sink) : Bool :=
  ((o.opened r sink).desk.reaction o.desk.callbacks.length (o.newCallback r sink) []
    .failedDueToShutdown).toBool

theorem shutdownTaken_accept (o : Office) (r : Request) : o.shutdownTaken r .accept = true := by
  rw [shutdownTaken, Desk.reaction_of_accept rfl]
  rfl

theorem shutdownTaken_fail (o : Office) (r : Request) (failure : Failure) :
    o.shutdownTaken r (.fail failure) = false := by
  rw [shutdownTaken, Desk.reaction_of_fail rfl]
  rfl

theorem answer_handle_eq_abandoned_iff (o : Office) (r : Request) (sink : Sink) :
    ((handle r sink).run o).1 = .ok .abandonedNoFrame ↔
      (r.isAbandoned o.frames && o.shutdownTaken r sink) = true := by
  rw [run_handle]
  cases ha : r.isAbandoned o.frames with
  | false =>
    have hlive : r.isScreenCapture = true ∨ o.frames.find? r.processId r.frameId ≠ none := by
      rw [Request.isAbandoned, Bool.and_eq_false_iff, Bool.not_eq_false',
        Option.isNone_eq_false_iff, Option.isSome_iff_ne_none] at ha
      exact ha
    have hpursued := Hearing.pursued_branch (h := o.hearing r sink) rfl hlive
    have hne := Hearing.answer_scopedRun_ne_abandoned hpursued
    rw [Bool.false_and]
    exact ⟨fun heq => absurd heq hne, fun hfalse => absurd hfalse Bool.false_ne_true⟩
  | true =>
    rw [Request.isAbandoned, Bool.and_eq_true, Bool.not_eq_true', Option.isNone_iff_eq_none] at ha
    have habandoned := (o.fresh_hearing r sink).abandoned (Hearing.branch_gone rfl ha.1 ha.2)
    have hanswer : (Hearing.scopedRun.run (o.hearing r sink)).1 =
        (Verdict.shutdown (.ok .abandonedNoFrame)).answerTo _
          ((o.opened r sink).desk.reaction o.desk.callbacks.length (o.newCallback r sink) []
            .failedDueToShutdown) := habandoned.heeds
    rw [Bool.true_and, shutdownTaken]
    simp only
    rw [hanswer]
    cases (o.opened r sink).desk.reaction o.desk.callbacks.length (o.newCallback r sink) []
        .failedDueToShutdown with
    | ok _ => exact ⟨fun _ => rfl, fun _ => rfl⟩
    | error e => exact ⟨fun heq => (nomatch heq), fun hfalse => (nomatch hfalse)⟩

theorem abandoned_handle (o : Office) (r : Request) (sink : Sink) :
    ((handle r sink).run o).2.desk.tally.abandoned =
      o.desk.tally.abandoned +
        if r.isAbandoned o.frames && o.shutdownTaken r sink then 1 else 0 := by
  have hhearing := abandoned_hearing o r sink
  have hanswer := answer_handle_eq_abandoned_iff o r sink
  rw [run_handle] at hanswer ⊢
  simp only at hanswer ⊢
  generalize Hearing.scopedRun.run (o.hearing r sink) = y at hanswer hhearing
  rw [← hhearing, Tally.answered.eq_def]
  split
  · next heq => rw [if_pos (hanswer.mp heq)]
  · next hne => rw [if_neg fun htaken => hne (hanswer.mpr htaken), Nat.add_zero]

theorem abandoned_offer (n : Nat) (request : Value) (label : String) (sink : Sink) :
    Keeps (fun o : Office => o.desk.tally.abandoned = n) (Office.offer request label sink) := by
  refine .bind (.ofExcept _) fun r => .bind (fun _ h => h) fun id => .bind_get fun o _ => ?_
  have hoffer := Steady.keeps_onOfficeDesk (Q := fun o => o.desk.tally.abandoned = n) fun _ =>
    (Desk.abandoned_steady n).keeps_offer (Consent.says_true o.consent) r id
  exact .bind hoffer fun _ => .bind_get fun _ _ => .pure _

end Office

namespace Session

/-- The operations, each with the session in which it is performed. -/
def course (s : Session) : List Operation → List (Session × Operation)
  | [] => []
  | op :: ops => (s, op) :: ((perform op).run s).2.course ops

/-- Is the operation a request that is abandoned? -/
def abandons (s : Session) : Operation → Bool
  | .handle request _ =>
    match Request.ofValue request with
    | .ok r => r.isAbandoned s.office.frames
    | .error _ => false
  | _ => false

/-- Does the sink of the request, if the operation is one, take the failure due to shutdown? -/
def shutdownTaken (s : Session) : Operation → Bool
  | .handle request sink =>
    match Request.ofValue request with
    | .ok r => s.office.shutdownTaken r sink
    | .error _ => true
  | _ => true

theorem shutdownTaken_handle_accept (s : Session) (request : Value) :
    s.shutdownTaken (.handle request .accept) = true := by
  rw [shutdownTaken]
  cases Request.ofValue request with
  | ok r => exact s.office.shutdownTaken_accept r
  | error e => rfl

theorem shutdownTaken_handle_fail (s : Session) {request : Value} {r : Request}
    (hr : Request.ofValue request = .ok r) (failure : Failure) :
    s.shutdownTaken (.handle request (.fail failure)) = false := by
  rw [shutdownTaken, hr]
  exact s.office.shutdownTaken_fail r failure

theorem abandoned_perform (s : Session) (op : Operation) :
    ((perform op).run s).2.office.desk.tally.abandoned =
      s.office.desk.tally.abandoned + if s.abandons op && s.shutdownTaken op then 1 else 0 := by
  cases hmakes : op.makesCallback with
  | false =>
    have hidle : s.abandons op = false := by
      cases op with
      | handle request sink => cases hmakes
      | _ => rfl
    have hkeeps := (Desk.abandoned_steady s.office.desk.tally.abandoned).holds.keeps_operation
      op.says_true hmakes s ⟨Consent.says_true _, rfl⟩
    rw [hidle, Bool.false_and, if_neg Bool.false_ne_true, Nat.add_zero]
    exact hkeeps.2
  | true =>
    cases op with
    | offer request label sink =>
      exact Office.abandoned_offer s.office.desk.tally.abandoned request label sink s.office rfl
    | handle request sink =>
      cases hr : Request.ofValue request with
      | ok r =>
        simp only [run_request hr, abandons, shutdownTaken, hr]
        exact Office.abandoned_handle s.office r sink
      | error e =>
        simp only [run_unreadable hr, abandons, hr, Bool.false_and, Bool.false_eq_true, if_false,
          Nat.add_zero]
    | _ => cases hmakes

theorem abandoned_after (s : Session) (ops : List Operation) :
    (s.after ops).office.desk.tally.abandoned = s.office.desk.tally.abandoned +
      (s.course ops).countP fun x => x.1.abandons x.2 && x.1.shutdownTaken x.2 := by
  induction ops generalizing s with
  | nil => rfl
  | cons op ops ih =>
    have hstep := abandoned_perform s op
    have hrest := ih ((perform op).run s).2
    rw [after, hrest, hstep, course, List.countP_cons]
    simp only
    omega

end Session

/-- The abandoned requests of a service are counted just as far as their sinks take the failure due
to shutdown: those whose sinks fail on it are missing. So all of them are counted if and only if
there are none such. A sink that accepts takes it, and one that fails does not. -/
theorem abandoned_counts_those_taken (o : Office) (ops : List Operation) :
    let course := (Session.service o).course ops
    let counted := ((Session.service o).after ops).office.desk.tally.abandoned
    let abandoned := course.countP fun x => x.1.abandons x.2
    let missed := course.countP fun x => x.1.abandons x.2 && !x.1.shutdownTaken x.2
    counted = course.countP (fun x => x.1.abandons x.2 && x.1.shutdownTaken x.2) ∧
      abandoned = counted + missed ∧
      (counted = abandoned ↔
        ∀ x ∈ course, x.1.abandons x.2 = true → x.1.shutdownTaken x.2 = true) ∧
      ∀ (s : Session) (request : Value), s.shutdownTaken (.handle request .accept) = true ∧
        ∀ r failure, Request.ofValue request = .ok r →
          s.shutdownTaken (.handle request (.fail failure)) = false := by
  intro course counted abandoned missed
  have hcounted : counted = course.countP fun x => x.1.abandons x.2 && x.1.shutdownTaken x.2 :=
    (Session.abandoned_after (Session.service o) ops).trans (Nat.zero_add _)
  have hsplit : abandoned = counted + missed := by
    have hparts := List.countP_eq_countP_filter_add course (fun x => x.1.abandons x.2)
      fun x => x.1.shutdownTaken x.2
    rw [List.countP_filter, List.countP_filter] at hparts
    rw [hcounted]
    exact hparts
  have hnone : missed = 0 ↔
      ∀ x ∈ course, x.1.abandons x.2 = true → x.1.shutdownTaken x.2 = true := by
    rw [List.countP_eq_zero]
    refine forall₂_congr fun x _ => ?_
    cases x.1.abandons x.2 <;> cases x.1.shutdownTaken x.2 <;> decide
  refine ⟨hcounted, hsplit, ?_, fun s request => ⟨s.shutdownTaken_handle_accept request, ?_⟩⟩
  · rw [← hnone]
    omega
  · exact fun r failure hr => s.shutdownTaken_handle_fail hr failure

/-- Three requests come from one frame. The first two are abandoned, one of them over a sink that
fails, and then the frame is registered. -/
theorem abandoned_counts_those_taken_of_two :
    let request : Value := .map [(.text "render_process_id", .int 7),
      (.text "render_frame_id", .int 3), (.text "audio_type", .text "DEVICE_AUDIO_CAPTURE")]
    let ops : List Operation := [.handle request .accept,
      .handle request (.fail (.scripted "sink failed")), .registerFrame (.int 7) (.int 3) .null,
      .handle request .accept]
    let course := (Session.service {}).course ops
    let counted := ((Session.service {}).after ops).office.desk.tally.abandoned
    counted = 1 ∧ course.countP (fun x => x.1.abandons x.2) = 2 ∧
      ¬∀ x ∈ course, x.1.abandons x.2 = true → x.1.shutdownTaken x.2 = true := by
  intro request ops course counted
  obtain ⟨_, hsum, hall, _⟩ := abandoned_counts_those_taken {} ops
  have hcounted : counted = 1 := by decide +kernel
  have hmissed : course.countP (fun x => x.1.abandons x.2 && !x.1.shutdownTaken x.2) = 1 := by
    decide +kernel
  have habandoned : course.countP (fun x => x.1.abandons x.2) = 2 := by
    change _ = counted + course.countP _ at hsum
    rw [hcounted, hmissed] at hsum
    exact hsum
  refine ⟨hcounted, habandoned, fun htaken => ?_⟩
  have hsame : counted = course.countP fun x => x.1.abandons x.2 := hall.mpr htaken
  omega

/-- The only request is abandoned, and its sink fails. It is not counted. -/
theorem abandoned_request_uncounted :
    let request : Value := .map [(.text "render_process_id", .int 7),
      (.text "render_frame_id", .int 3), (.text "audio_type", .text "DEVICE_AUDIO_CAPTURE")]
    let ops : List Operation := [.handle request (.fail (.scripted "sink failed"))]
    ((Session.service {}).course ops).countP (fun x => x.1.abandons x.2) = 1 ∧
      ((Session.service {}).after ops).office.desk.tally.abandoned = 0 ∧
      ((Session.service {}).after ops).office.desk.tally.total = 1 ∧
      ((Session.service {}).after ops).office.desk.tally.failedDueToShutdown = 1 := by
  decide +kernel

end CaptureArbiter
