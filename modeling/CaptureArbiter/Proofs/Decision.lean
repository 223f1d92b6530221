import CaptureArbiter.Proofs.DigitRuns
import CaptureArbiter.Proofs.Handling

/-!
# Handling decides as the verdict says

A service without an installed handler answers each request with the verdict on it, whatever has
happened before, and the request's sink has received the verdict's delivery by then, and nothing
else.
-/

namespace CaptureArbiter

open Act

/-- The catalog of an office, with preferences that are given. -/
def Office.preferring (o : Office) (audioId videoId : String) : Catalog :=
  { audio := o.catalog.audio, video := o.catalog.video
    defaultAudioId := audioId, defaultVideoId := videoId }

theorem Office.Configured.preferring_eq {origins : List String} {audioId videoId : String}
    {o : Office} (hc : o.Configured origins audioId videoId) :
    o.preferring audioId videoId = o.catalog := by
  rw [preferring, ← hc.audio, ← hc.video]

/-- Handling a request without an application ends with the verdict on it. -/
theorem Office.Configured.handle {o : Office} {origins : List String} {audioId videoId : String}
    (hc : o.Configured origins audioId videoId) (hi : o.consent.Idle) (r : Request) :
    ((Office.handle r .accept).run o).1 =
        (Verdict.of o.frames (o.preferring audioId videoId) origins r).answer ∧
      ((Office.handle r .accept).run o).2.desk.deliveries = o.desk.deliveries ++
        [⟨o.desk.callbacks.length, some (o.desk.tally.total + 1),
          (Verdict.of o.frames (o.preferring audioId videoId) origins r).devices,
          (Verdict.of o.frames (o.preferring audioId videoId) origins r).outcome⟩] := by
  have hends := (fresh_hearing o r .accept).endsWith_verdict rfl hc.consent (.inr (.inr hi))
  rw [run_handle, hc.preferring_eq]
  exact ⟨hends.accepted rfl, hends.takes.only fun other h => nomatch h⟩

theorem Verdict.of_screen {r : Request} (hs : r.isScreenCapture = true)
    (hruns : r.video = .desktopVideo → HasShortDigitRuns r.videoDeviceId) (frames : Frames)
    (catalog : Catalog) (origins : List String) :
    ∃ devices, Screen.grant r = .ok devices ∧
      Verdict.of frames catalog origins r = ⟨devices, Screen.outcome devices, .ok .resolved⟩ := by
  obtain ⟨devices, hd⟩ := Screen.grant_ok hruns
  refine ⟨devices, hd, ?_⟩
  simp only [Verdict.of, hs, hd, if_true]

/-- A service whose authority declines, has a policy or has no handler installed gives every request
the verdict on it, after any history: the answer is the verdict's, and one delivery is made, to the
sink of the request, with the verdict's devices and outcome. The verdict is a function of the
request, the live frames, the listed devices, the configured preferences and the blocked origins;
on a screen request it is what the screen branch grants. -/
theorem handle_refines_verdict (o : Office) (origins : List String) (ops : List Operation)
    (r : Request) (hconsent : o.consent.ConfiguredWith origins)
    (hidle : ((Session.service o).after ops).office.consent.Idle)
    (hruns : r.video = .desktopVideo → HasShortDigitRuns r.videoDeviceId) :
    let before := ((Session.service o).after ops).office
    let catalog := before.preferring o.catalog.defaultAudioId o.catalog.defaultVideoId
    let verdict := Verdict.of before.frames catalog origins r
    let id := before.desk.callbacks.length
    let delivery : Delivery :=
      ⟨id, some (before.desk.tally.total + 1), verdict.devices, verdict.outcome⟩
    let handled := (Office.handle r .accept).run before
    handled.1 = verdict.answer ∧
      handled.2.desk.deliveries = before.desk.deliveries ++ [delivery] ∧
      handled.2.desk.received id = [delivery] ∧
      (r.isScreenCapture = true → ∃ devices, Screen.grant r = .ok devices ∧
        verdict = ⟨devices, Screen.outcome devices, .ok .resolved⟩) := by
  have hconfigured := Session.configured_after hconsent ops
  have hnone := Session.received_next o ops
  generalize ((Session.service o).after ops).office = before at hidle hconfigured hnone
  obtain ⟨hanswer, hdeliveries⟩ := hconfigured.handle hidle r
  refine ⟨hanswer, hdeliveries, ?_, fun hs => Verdict.of_screen hs hruns _ _ _⟩
  rw [Desk.received_of_append hdeliveries rfl, hnone, List.nil_append]

/-- An update of devices from a blocked origin while no device is attached is denied by the policy,
and a request for a window is granted that window. -/
theorem handle_refines_verdict_blocked :
    let origins := ["Bad.org/", ""]
    let o : Office := { consent := .ofBlockedOrigins origins }
    let ops : List Operation :=
      [.registerFrame (.int 7) (.text " 1 ") .null, .setAudio [⟨.deviceAudio, "m", ""⟩],
        .setAudio []]
    let before := ((Session.service o).after ops).office
    let catalog := before.preferring o.catalog.defaultAudioId o.catalog.defaultVideoId
    let update : Request :=
      { processId := 7, frameId := 1, audio := .deviceAudio, kind := .deviceUpdate
        securityOrigin := " bad.ORG// " }
    let window : Request := { video := .desktopVideo, videoDeviceId := "window:-12" }
    let first := Verdict.of before.frames catalog origins update
    let second := Verdict.of before.frames catalog origins window
    o.consent.ConfiguredWith origins ∧ before.consent.Idle ∧
      HasShortDigitRuns window.videoDeviceId ∧
      ((Office.handle update .accept).run before).1 = first.answer ∧
      (first.devices, first.outcome) = ([], .permissionDenied) ∧
      ((Office.handle window .accept).run before).1 = second.answer ∧
      (second.devices, second.outcome) = ([⟨.desktopVideo, "window:-12:0", "Screen"⟩], .ok) := by
  intro origins o ops before catalog update window first second
  have hconsent : o.consent.ConfiguredWith origins := rfl
  have hidle : before.consent.Idle := fun script h => nomatch h
  have hruns : HasShortDigitRuns window.videoDeviceId := by
    intro run hrun _
    exact Nat.le_trans hrun.length_le (by decide +kernel)
  have hupdate := handle_refines_verdict o origins ops update hconsent hidle (fun h => nomatch h)
  have hwindow := handle_refines_verdict o origins ops window hconsent hidle (fun _ => hruns)
  exact ⟨hconsent, hidle, hruns, hupdate.1, by decide +kernel, hwindow.1, by decide +kernel⟩

end CaptureArbiter
