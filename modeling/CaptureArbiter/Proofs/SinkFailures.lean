import CaptureArbiter.Proofs.Conservation

/-!
# Failures of sinks

A sink that fails on its delivery makes the handling of its request fail. What comes out is the
sink's own failure, on every way but one: a policy runs the callback while the arbiter still holds
it, so if the sink fails on a denial, the release that follows runs the used callback again, and its
failure takes the place of the sink's.
-/

namespace CaptureArbiter

open Act

theorem Verdict.outcome_eq_permissionDenied_iff (frames : Frames) (catalog : Catalog)
    (origins : List String) (r : Request) :
    (Verdict.of frames catalog origins r).outcome = .permissionDenied ↔
      r.isScreenCapture = false ∧ frames.find? r.processId r.frameId ≠ none ∧
        Consent.isBlocked origins r.securityOrigin = true := by
  unfold Verdict.of
  cases hs : r.isScreenCapture with
  | true =>
    simp only [if_true, Bool.true_eq_false, false_and, iff_false]
    cases Screen.grant r with
    | ok devices =>
      simp only [Screen.outcome]
      split <;> exact Outcome.noConfusion
    | error e => exact Outcome.noConfusion
  | false =>
    cases hfind : frames.find? r.processId r.frameId with
    | none =>
      simp only [Bool.false_eq_true, if_false, Option.isNone_none, if_true, ne_eq, not_true,
        false_and, and_false, iff_false]
      exact Outcome.noConfusion
    | some frame =>
      cases hblocked : Consent.isBlocked origins r.securityOrigin with
      | true => simp
      | false =>
        simp only [Bool.false_eq_true, if_false, Option.isNone_some, and_false, iff_false]
        split
        · exact Outcome.noConfusion
        · split <;> exact Outcome.noConfusion

theorem Office.answer_handle {o : Office} {origins : List String} (r : Request) (sink : Sink)
    (hc : o.consent.ConfiguredWith origins) (hu : (o.hearing r sink).Unattended) :
    let v := Verdict.of o.frames o.catalog origins r
    let c := o.newCallback r sink
    ((handle r sink).run o).1 = v.answerTo c.label
      ((o.opened r sink).desk.reaction o.desk.callbacks.length c v.devices v.outcome) := by
  intro v c
  have hconcludes := (o.fresh_hearing r sink).concludes rfl hc hu
  rw [run_handle]
  exact hconcludes.heeds

theorem Office.answer_handle_of_denial {o : Office} {origins : List String} {r : Request}
    (failure : Failure) (hc : o.consent.ConfiguredWith origins)
    (hu : (o.hearing r (.fail failure)).Unattended)
    (hd : (Verdict.of o.frames o.catalog origins r).outcome = .permissionDenied) :
    ((handle r (.fail failure)).run o).1 =
      .error (.callbackUsed (o.newCallback r (.fail failure)).label) := by
  have hanswer := answer_handle r (.fail failure) hc hu
  simp only at hanswer
  rw [hanswer, Desk.reaction_of_fail rfl, Verdict.answerTo, if_pos hd]

/-- In any state of a service whose authority is one of the program's own, a request is handled that
no application takes over. The sink takes the delivery of the verdict. If it accepts that, the
handling answers as the verdict does; if it comes to a failure, the handling fails with the same one
unless the verdict is a denial. On a denial, which is for a request that is not for a screen, whose
frame is live and whose origin is blocked, the handling fails as for a second run of the callback.
-/
theorem handling_fails_as_sink_unless_denied (o : Office) (origins : List String)
    (ops : List Operation) (hconsent : o.consent.ConfiguredWith origins) {request : Value}
    {r : Request} (hr : Request.ofValue request = .ok r) (sink : Sink)
    (hu : (((Session.service o).after ops).office.hearing r sink).Unattended) :
    let s := (Session.service o).after ops
    let y := (Session.perform (.handle request sink)).run s
    let v := Verdict.of s.office.frames s.office.catalog origins r
    let id := s.office.desk.callbacks.length
    let c := s.office.newCallback r sink
    let reaction := (s.office.opened r sink).desk.reaction id c v.devices v.outcome
    s.office.desk.deliveries ++ [c.delivery id v.devices v.outcome] <+:
        y.2.office.desk.deliveries ∧
      (sink = .accept → reaction = .ok ()) ∧
      (∀ failure, sink = .fail failure → reaction = .error failure) ∧
      (reaction = .ok () → y.1 = v.answer.map Reply.phase) ∧
      (∀ failure, reaction = .error failure → v.outcome ≠ .permissionDenied →
        y.1 = .error failure) ∧
      (∀ failure, reaction = .error failure → v.outcome = .permissionDenied →
        y.1 = .error (.callbackUsed c.label)) ∧
      (v.outcome = .permissionDenied ↔ r.isScreenCapture = false ∧
        s.office.frames.find? r.processId r.frameId ≠ none ∧
        Consent.isBlocked origins r.securityOrigin = true) := by
  intro s y v id c reaction
  have hc : s.office.consent.ConfiguredWith origins :=
    (Session.configured_after hconsent ops).consent
  have hends := (s.office.fresh_hearing r sink).endsWith_verdict rfl hc hu
  have hanswer := Office.answer_handle r sink hc hu
  have hy : y = _ := Session.run_request hr sink s
  have hresult : y.1 = (v.answerTo c.label reaction).map Reply.phase := by
    rw [hy]
    exact congrArg (Except.map Reply.phase) hanswer
  have hsent : y.2.office.desk.deliveries =
      (Hearing.scopedRun.run (s.office.hearing r sink)).2.office.desk.deliveries := by
    rw [hy, Office.run_handle]
  refine ⟨?_, fun hsink => ?_, fun failure hsink => ?_, fun hok => ?_, fun failure hfail hne => ?_,
    fun failure hfail heq => ?_, Verdict.outcome_eq_permissionDenied_iff ..⟩
  · rw [hsent]
    exact hends.takes.first
  · exact Desk.reaction_of_accept hsink ..
  · exact Desk.reaction_of_fail hsink ..
  · rw [hresult, hok]
    rfl
  · rw [hresult, hfail, Verdict.answerTo, if_neg hne]
    rfl
  · rw [hresult, hfail, Verdict.answerTo, if_pos heq]
    rfl

/-- Two requests from a blocked origin, over sinks that fail: one of a frame that is gone, and one
of a live frame. -/
theorem handling_fails_as_sink_of_gone_frame :
    let origins := ["https://blocked.test"]
    let o : Office :=
      { consent := .ofBlockedOrigins origins, frames := ⟨[{ processId := 7, frameId := 3 }]⟩ }
    let sink : Sink := .fail (.scripted "sink failed")
    let gone : Value := .map [(.text "security_origin", .text "https://blocked.test")]
    let live : Value :=
      .map [(.text "render_process_id", .int 7), (.text "render_frame_id", .int 3),
        (.text "security_origin", .text "https://blocked.test")]
    let r : Request := { processId := 7, frameId := 3, securityOrigin := "https://blocked.test" }
    let s := Session.service o
    o.consent.ConfiguredWith origins ∧ Request.ofValue live = .ok r ∧
      ((Session.perform (.handle gone sink)).run s).1 = .error (.scripted "sink failed") ∧
      ((Session.perform (.handle live sink)).run s).1 =
        .error (.callbackUsed (o.newCallback r sink).label) := by
  intro origins o sink gone live r s
  have hidle : o.consent.Idle := nofun
  have hread : Request.ofValue live = .ok r := rfl
  have hblocked : Consent.isBlocked origins r.securityOrigin = true := by decide +kernel
  have hreadGone : Request.ofValue gone = .ok { securityOrigin := "https://blocked.test" } := rfl
  obtain ⟨_, _, hfails, _, hother, _, hdenial⟩ :=
    handling_fails_as_sink_unless_denied o origins [] rfl hreadGone sink (.inr (.inr hidle))
  obtain ⟨_, _, hfails', _, _, hdenied, hdenial'⟩ :=
    handling_fails_as_sink_unless_denied o origins [] rfl hread sink (.inr (.inr hidle))
  refine ⟨rfl, hread, hother _ (hfails _ rfl) fun hd => ?_, hdenied _ (hfails' _ rfl) ?_⟩
  · exact absurd (hdenial.mp hd).2.1 (by decide)
  · exact hdenial'.mpr ⟨rfl, by decide, hblocked⟩

/-- A policy denies a request whose sink fails. The sink has taken its delivery, and the handling
fails, but not as the sink did. -/
theorem handling_fails_as_for_used_callback :
    let o : Office :=
      { consent := .ofBlockedOrigins ["https://blocked.test"]
        frames := ⟨[{ processId := 7, frameId := 3 }]⟩ }
    let live : Value :=
      .map [(.text "render_process_id", .int 7), (.text "render_frame_id", .int 3),
        (.text "audio_type", .text "DEVICE_AUDIO_CAPTURE"),
        (.text "security_origin", .text "https://blocked.test")]
    let y := (Session.perform (.handle live (.fail (.scripted "sink failed")))).run
      (Session.service o)
    y.2.office.desk.deliveries = [⟨0, some 1, [], .permissionDenied⟩] ∧
      y.1 ≠ .error (.scripted "sink failed") ∧ ∃ label, y.1 = .error (.callbackUsed label) := by
  intro o live y
  let r : Request :=
    { processId := 7, frameId := 3, audio := .deviceAudio
      securityOrigin := "https://blocked.test" }
  have hread : Request.ofValue live = .ok r := rfl
  have hc : o.consent.ConfiguredWith ["https://blocked.test"] := rfl
  have hidle : o.consent.Idle := nofun
  have hdenied := (Verdict.outcome_eq_permissionDenied_iff o.frames o.catalog
    ["https://blocked.test"] r).mpr ⟨rfl, by decide, by decide +kernel⟩
  have hanswer := Office.answer_handle_of_denial (o := (Session.service o).office)
    (.scripted "sink failed") hc (.inr (.inr hidle)) hdenied
  have hfails : ∃ label, y.1 = .error (.callbackUsed label) := by
    refine ⟨((Session.service o).office.newCallback r (.fail (.scripted "sink failed"))).label, ?_⟩
    have hy : y = _ := Session.run_request hread _ _
    rw [hy]
    simp only
    rw [hanswer]
    rfl
  refine ⟨by decide +kernel, fun hsame => ?_, hfails⟩
  obtain ⟨label, hlabel⟩ := hfails
  rw [hsame] at hlabel
  cases hlabel

end CaptureArbiter
