import CaptureArbiter.Proofs.Claimed
import CaptureArbiter.Proofs.Readings

/-!
# Screen requests and their surroundings

A screen request is decided by the request alone. An arbiter that runs for one reads neither the
catalog nor the frames, and calls no authority: in other surroundings the run comes to the same
answer and leaves the same desk. What is delivered is the device of each screen kind asked for.
-/

namespace CaptureArbiter

open Act

namespace Hearing

variable {α β : Type}

/-- The hearing in the surroundings of another office, with its own desk. -/
def elsewhere (h : Hearing) (p : Office) : Hearing := ⟨{ p with desk := h.office.desk }, h.arbiter⟩

/-- The action does the same in all surroundings, and changes none. -/
def Blind (a : Act Hearing α) : Prop :=
  ∀ h p, a.run (h.elsewhere p) = ((a.run h).1, (a.run h).2.elsewhere p)

namespace Blind

theorem ofExcept (r : Except Failure α) : Blind (Act.ofExcept r) := fun _ _ => rfl

theorem onCustody (a : Act Custody α) : Blind (Hearing.onCustody a) := fun _ _ => rfl

theorem onDesk (a : Act Desk α) : Blind (Hearing.onDesk a) := onCustody _

theorem enter (phase : Phase) : Blind (Hearing.enter phase) := fun _ _ => rfl

theorem bind {a : Act Hearing α} {f : α → Act Hearing β} (ha : Blind a) (hf : ∀ x, Blind (f x)) :
    Blind (a >>= f) := by
  intro h p
  have hsame := ha h p
  cases hr : a.run h with
  | mk r k =>
    rw [hr] at hsame
    cases r with
    | ok x =>
      rw [run_bind_ok hsame, run_bind_ok hr]
      exact hf x k p
    | error e => rw [run_bind_error hsame, run_bind_error hr]

theorem bind_get {f : Hearing → Act Hearing α} (hsame : ∀ h p, f (h.elsewhere p) = f h)
    (hf : ∀ h, Blind (f h)) : Blind (Act.get >>= f) := by
  intro h p
  rw [run_bind_ok (run_get _), run_bind_ok (run_get h), hsame h p]
  exact hf h h p

theorem resolve (devices : List Device) (result : Given) :
    Blind (Hearing.resolve devices result) := by
  refine bind_get (fun _ _ => rfl) fun h => bind (ofExcept _) fun shown => ?_
  exact bind (onDesk _) fun _ => bind (onCustody _) fun _ => enter _

theorem runScreen : Blind Hearing.runScreen := by
  refine bind (enter _) fun _ => bind_get (fun _ _ => rfl) fun h => ?_
  refine bind (onDesk _) fun _ => bind (ofExcept _) fun devices => ?_
  exact bind (onDesk _) fun _ => resolve devices _

theorem close : Blind Hearing.close := onCustody _

end Blind

variable {h : Hearing}

theorem run_elsewhere (hs : h.arbiter.request.isScreenCapture = true) (p : Office) :
    run.run (h.elsewhere p) = ((run.run h).1, (run.run h).2.elsewhere p) := by
  by_cases hp : h.arbiter.phase = .pending
  · have hblind := Blind.runScreen h p
    have hthere := run_run (h.elsewhere p)
    have hhere := run_run h
    rw [branch_screen hp hs] at hhere
    rw [branch_screen (h := h.elsewhere p) hp hs, hblind] at hthere
    rw [hthere, hhere]
    cases runScreen.run h with
    | mk r k => cases r <;> rfl
  · rw [run_of_left hp, run_of_left (h := h.elsewhere p) hp]
    rfl

theorem scopedRun_elsewhere (hs : h.arbiter.request.isScreenCapture = true) (p : Office) :
    scopedRun.run (h.elsewhere p) = ((scopedRun.run h).1, (scopedRun.run h).2.elsewhere p) := by
  have hclose := Blind.close (run.run h).2 p
  rw [run_scopedRun, run_scopedRun, run_elsewhere hs p, hclose]
  cases close.run (run.run h).2 with
  | mk r k => cases r <;> rfl

end Hearing

namespace Desk

theorem parked_settle (d : Desk) (id : Nat) (c : Callback) (devices : List Device) (o : Outcome) :
    (d.settle id c devices o).parked = d.parked := by
  unfold settle delivered
  cases c.ticket <;> rfl

theorem parked_runWithin (depth id : Nat) (devices : List Device) (result : Given) (d : Desk) :
    ((runWithin depth id devices result).run d).2.parked = d.parked := by
  induction depth generalizing id result d with
  | zero => rfl
  | succ depth ih =>
    rw [run_runWithin]
    cases hc : d.callbacks[id]? with
    | none => rfl
    | some c =>
      cases hu : c.used with
      | true => simp only [hu, if_true]
      | false =>
        simp only [hu, Bool.false_eq_true, if_false]
        cases result.toOutcome with
        | error e => rfl
        | ok o =>
          have hs := parked_settle d id c devices o
          cases c.sink with
          | accept | fail e => exact hs
          | rerun other => exact (ih other (.ofOutcome o) _).trans hs

theorem parked_runCallback (id : Nat) (devices : List Device) (result : Given) (d : Desk) :
    ((runCallback id devices result).run d).2.parked = d.parked :=
  parked_runWithin _ id devices result d

end Desk

namespace Hearing

variable {ids : List Nat}

theorem parked_fire (devices : List Device) (result : Given) :
    Keeps (fun h => h.office.desk.parked = ids) (onCustody (Custody.fire devices result)) := by
  intro h hids
  rw [run_fire]
  cases h.arbiter.held with
  | none => exact hids
  | some id => exact (Desk.parked_runCallback id devices result h.office.desk).trans hids

theorem parked_resolve (devices : List Device) (result : Given) :
    Keeps (fun h => h.office.desk.parked = ids) (resolve devices result) := by
  refine .bind_get fun h _ => .bind (.ofExcept _) fun _ => .bind (fun _ hids => hids) fun _ => ?_
  exact .bind (parked_fire devices _) fun _ => fun _ hids => hids

theorem parked_runScreen : Keeps (fun h => h.office.desk.parked = ids) runScreen := by
  refine .bind (fun _ hids => hids) fun _ => .bind_get fun h _ => ?_
  refine .bind (fun _ hids => hids) fun _ => .bind (.ofExcept _) fun devices => ?_
  exact .bind (fun _ hids => hids) fun _ => parked_resolve devices _

theorem parked_close : Keeps (fun h => h.office.desk.parked = ids) close := by
  intro h hids
  rw [run_close]
  cases h.arbiter.held with
  | none => exact hids
  | some id => exact (Desk.parked_runCallback id [] _ _).trans hids

end Hearing

namespace Screen

variable {r : Request} {video devices : List Device}

theorem kinds_audioDevices (r : Request) :
    (audioDevices r).map (·.kind) = [r.audio].filter (·.isScreenAudio) := by
  unfold audioDevices
  cases r.audio <;> rfl

theorem kinds_videoDevices (h : videoDevices r = .ok video) :
    video.map (·.kind) = [r.video].filter (·.isScreenVideo) := by
  unfold videoDevices at h
  cases hv : r.video with
  | desktopVideo =>
    simp only [hv] at h
    obtain ⟨target, _, hvideo⟩ := exists_of_bind_ok h
    cases hvideo
    rfl
  | noService | deviceAudio | deviceVideo | tabAudio | tabVideo | desktopAudio =>
    simp only [hv, Except.ok.injEq] at h
    subst h
    rfl

theorem arrange_eq (h : videoDevices r = .ok video) :
    arrange (audioDevices r) video =
      if r.audio = .desktopAudio ∧ r.video = .tabVideo then video ++ audioDevices r
      else audioDevices r ++ video := by
  unfold videoDevices at h
  cases hv : r.video with
  | desktopVideo =>
    simp only [hv] at h
    obtain ⟨target, _, hvideo⟩ := exists_of_bind_ok h
    cases hvideo
    unfold audioDevices
    cases r.audio <;> rfl
  | noService | deviceAudio | deviceVideo | tabAudio | tabVideo | desktopAudio =>
    simp only [hv, Except.ok.injEq] at h
    subst h
    unfold audioDevices
    cases r.audio <;> rfl

theorem grant_eq_ok (h : grant r = .ok devices) :
    ∃ video, videoDevices r = .ok video ∧
      devices = if r.audio = .desktopAudio ∧ r.video = .tabVideo then video ++ audioDevices r
        else audioDevices r ++ video := by
  obtain ⟨video, hvideo, hdevices⟩ := exists_of_bind_ok h
  cases hdevices
  exact ⟨video, hvideo, arrange_eq hvideo⟩

theorem ne_hardware_of_mem_grant (h : grant r = .ok devices) {d : Device} (hd : d ∈ devices) :
    d.kind ≠ .deviceAudio ∧ d.kind ≠ .deviceVideo := by
  obtain ⟨video, hvideo, hdevices⟩ := grant_eq_ok h
  have hmem : d ∈ audioDevices r ∨ d ∈ video := by
    rw [hdevices] at hd
    split at hd
    · exact (List.mem_append.mp hd).symm
    · exact List.mem_append.mp hd
  have hscreen : d.kind.isScreenAudio = true ∨ d.kind.isScreenVideo = true := by
    rcases hmem with hmem | hmem
    · have hkind := List.mem_map_of_mem (f := Device.kind) hmem
      rw [kinds_audioDevices, List.mem_filter] at hkind
      exact .inl hkind.2
    · have hkind := List.mem_map_of_mem (f := Device.kind) hmem
      rw [kinds_videoDevices hvideo, List.mem_filter] at hkind
      exact .inr hkind.2
  constructor
  · intro hkind
    rw [hkind] at hscreen
    exact absurd hscreen (by decide)
  · intro hkind
    rw [hkind] at hscreen
    exact absurd hscreen (by decide)

theorem grant_ne_nil (hs : r.isScreenCapture = true) (h : grant r = .ok devices) :
    devices ≠ [] := by
  obtain ⟨video, hvideo, hdevices⟩ := grant_eq_ok h
  have haudio := kinds_audioDevices r
  have hkinds := kinds_videoDevices hvideo
  rintro rfl
  have hnone : audioDevices r = [] ∧ video = [] := by
    split at hdevices
    · exact (List.append_eq_nil_iff.mp hdevices.symm).symm
    · exact List.append_eq_nil_iff.mp hdevices.symm
  rw [hnone.1] at haudio
  rw [hnone.2] at hkinds
  rw [Request.isScreenCapture, Bool.or_eq_true] at hs
  rcases hs with hs | hs
  · simp [hs] at haudio
  · simp [hs] at hkinds

end Screen

namespace Hearing

variable {id : Nat} {c : Callback} {h : Hearing} {a : Act Hearing Phase}

/-- The run with the release after it and the run without it. -/
def IsRun (a : Act Hearing Phase) : Prop := a = run ∨ a = scopedRun

theorem IsRun.elsewhere (ha : IsRun a) (hs : h.arbiter.request.isScreenCapture = true)
    (p : Office) : a.run (h.elsewhere p) = ((a.run h).1, (a.run h).2.elsewhere p) := by
  rcases ha with rfl | rfl
  · exact run_elsewhere hs p
  · exact scopedRun_elsewhere hs p

theorem parked_run (hp : h.arbiter.phase = .pending)
    (hs : h.arbiter.request.isScreenCapture = true) :
    (run.run h).2.office.desk.parked = h.office.desk.parked := by
  rw [run_state, branch_screen hp hs]
  exact parked_runScreen h rfl

theorem IsRun.parked (ha : IsRun a) (hp : h.arbiter.phase = .pending)
    (hs : h.arbiter.request.isScreenCapture = true) :
    (a.run h).2.office.desk.parked = h.office.desk.parked := by
  have hrun := parked_run hp hs
  rcases ha with rfl | rfl
  · exact hrun
  · have hclose := parked_close (run.run h).2 rfl
    rw [run_scopedRun]
    cases hr : close.run (run.run h).2 with
    | mk r k =>
      rw [hr] at hclose
      cases r <;> exact hclose.trans hrun

theorem Fresh.shows (hf : h.Fresh id c) (hp : h.arbiter.phase = .pending)
    (hs : h.arbiter.request.isScreenCapture = true) (ha : IsRun a) {devices : List Device}
    (hd : Screen.grant h.arbiter.request = .ok devices) :
    h.EndsWith ⟨devices, .ok, .ok .resolved⟩ id c (a.run h) := by
  have hok : Screen.outcome devices = .ok := by
    simp [Screen.outcome, Screen.grant_ne_nil hs hd]
  have hres := hf.resolves_screen (branch_screen hp hs) hd
  rw [hok] at hres
  have hends := hres.endsWith
  have hgone : (run.run h).2.arbiter.held = none := by rw [run_state, hres.gone]
  rcases ha with rfl | rfl
  · rw [run_scopedRun_of_gone hgone] at hends
    exact hends
  · exact hends

theorem Fresh.shows_error (hf : h.Fresh id c) (hp : h.arbiter.phase = .pending)
    (hs : h.arbiter.request.isScreenCapture = true) (ha : IsRun a) {e : Failure}
    (hd : Screen.grant h.arbiter.request = .error e) :
    (∀ phase, (a.run h).1 ≠ .ok phase) ∧ (c.sink = .accept → (a.run h).1 = .error e) ∧
      ((a.run h).2.office.desk.deliveries = h.office.desk.deliveries ∨
        h.office.desk.deliveries ++ [c.delivery id [] .failedDueToShutdown] <+:
          (a.run h).2.office.desk.deliveries) := by
  have hb := branch_screen hp hs
  rcases ha with rfl | rfl
  · have hrun := run_runScreen_error hd
    rw [← hb] at hrun
    have hanswer : (run.run h).1 = .error e := run_answer_error (by rw [hrun])
    refine ⟨fun phase hphase => ?_, fun _ => hanswer, .inl ?_⟩
    · rw [hanswer] at hphase
      cases hphase
    · rw [run_state, hrun]
      rfl
  · have hends := (hf.screen hb).endsWith
    rw [hd] at hends
    refine ⟨fun phase hphase => ?_, hends.accepted, .inr hends.takes.first⟩
    have hok := hends.answer phase hphase
    cases hok

end Hearing

theorem Desk.Single.deliveries_eq {d : Desk} (hd : d.Single) (honce : d.DeliversOnce)
    {x : Delivery} (hx : [x] <+: d.deliveries) : d.deliveries = [x] := by
  have hall : d.received 0 = d.deliveries := by
    rw [received, List.filter_eq_self]
    intro y hy
    simp [hd.own y hy]
  have hle := honce.length_received_le 0
  rw [hall] at hle
  exact (hx.eq_of_length_le hle).symm

namespace Session

variable {op : Operation}

theorem perform_run (hop : op = .run ∨ op = .scopedRun) :
    ∃ a, Hearing.IsRun a ∧ ∀ {s : Session} {b : Arbiter}, s.arbiter = some b →
      (perform op).run s = ((a.run ⟨s.office, b⟩).1.map Reply.phase,
        ⟨(a.run ⟨s.office, b⟩).2.office, some (a.run ⟨s.office, b⟩).2.arbiter⟩) := by
  rcases hop with rfl | rfl
  · refine ⟨Hearing.run, .inl rfl, fun {s b} hb => ?_⟩
    have hperform := run_bind_pure (onHearing "run" Hearing.run) Reply.phase s
    rwa [run_onHearing "run" Hearing.run hb] at hperform
  · refine ⟨Hearing.scopedRun, .inr rfl, fun {s b} hb => ?_⟩
    have hperform := run_bind_pure (onHearing "run" Hearing.scopedRun) Reply.phase s
    rwa [run_onHearing "run" Hearing.scopedRun hb] at hperform

variable {o : Office} {r : Request} {label : String} {sink : Sink}

theorem deliveries_arbitration (hop : op.makesCallback = false) {x : Delivery}
    (hx : [x] <+: ((perform op).run (arbitration o r label sink)).2.office.desk.deliveries) :
    ((perform op).run (arbitration o r label sink)).2.office.desk.deliveries = [x] := by
  have honce := Desk.DeliversOnce.stable.after (deliversOnce_arbitration o r label sink) [op]
  exact (single_arbitration o r label sink hop).deliveries_eq honce hx

/-- The hearing with which an arbitration begins. -/
def firstHearing (o : Office) (r : Request) (label : String) (sink : Sink) : Hearing :=
  ⟨(arbitration o r label sink).office, { request := r, held := some 0 }⟩

theorem fresh_firstHearing (o : Office) (r : Request) (label : String) (sink : Sink) :
    (firstHearing o r label sink).Fresh 0 { label, sink } := ⟨rfl, rfl, rfl⟩

section

variable (hop : op = .run ∨ op = .scopedRun) (hs : r.isScreenCapture = true)
include hop hs

/-- Elsewhere the run answers the same and leaves the same arbiter and desk, and it changes nothing
but the desk. Nothing is parked. -/
theorem perform_elsewhere (o p : Office) (label : String) (sink : Sink) :
    let here := (perform op).run (arbitration o r label sink)
    let there := (perform op).run (arbitration { p with desk := o.desk } r label sink)
    there.1 = here.1 ∧ there.2.arbiter = here.2.arbiter ∧
      there.2.office = { p with desk := here.2.office.desk } ∧ here.2.office.desk.parked = [] := by
  intro here there
  obtain ⟨a, ha, hperform⟩ := perform_run hop
  let h := firstHearing o r label sink
  have hhere : here = ((a.run h).1.map Reply.phase,
    ⟨(a.run h).2.office, some (a.run h).2.arbiter⟩) := hperform rfl
  have hthere : there = ((a.run (h.elsewhere p)).1.map Reply.phase,
    ⟨(a.run (h.elsewhere p)).2.office, some (a.run (h.elsewhere p)).2.arbiter⟩) := hperform rfl
  have hparked := ha.parked (h := h) rfl hs
  rw [hthere, hhere, ha.elsewhere hs p]
  exact ⟨rfl, rfl, rfl, hparked⟩

theorem perform_granted (o : Office) (label : String) (sink : Sink) {devices : List Device}
    (hd : Screen.grant r = .ok devices) :
    let here := (perform op).run (arbitration o r label sink)
    here.2.office.desk.deliveries = [⟨0, none, devices, .ok⟩] ∧
      (sink = .accept → here.1 = .ok (.phase .resolved)) ∧
      ∀ reply, here.1 = .ok reply → reply = .phase .resolved := by
  intro here
  obtain ⟨a, ha, hperform⟩ := perform_run hop
  let h := firstHearing o r label sink
  have hhere : here = ((a.run h).1.map Reply.phase,
    ⟨(a.run h).2.office, some (a.run h).2.arbiter⟩) := hperform rfl
  have hends := (fresh_firstHearing o r label sink).shows rfl hs ha hd
  refine ⟨deliveries_arbitration (by rcases hop with rfl | rfl <;> rfl) ?_, fun hsink => ?_, ?_⟩
  · change _ <+: here.2.office.desk.deliveries
    rw [hhere]
    exact hends.takes.first
  · rw [hhere]
    simp only
    rw [hends.accepted hsink]
    rfl
  · intro reply hreply
    rw [hhere] at hreply
    cases hrun : (a.run h).1 with
    | ok phase =>
      have hphase := hends.answer phase hrun
      simp only [hrun] at hreply
      cases hphase
      exact (Except.ok.inj hreply).symm
    | error f =>
      simp only [hrun] at hreply
      cases hreply

theorem perform_refused (o : Office) (label : String) (sink : Sink) {e : Failure}
    (hd : Screen.grant r = .error e) :
    let here := (perform op).run (arbitration o r label sink)
    (∀ x ∈ here.2.office.desk.deliveries, x.devices = []) ∧
      (sink = .accept → here.1 = .error e) ∧ ∀ reply, here.1 ≠ .ok reply := by
  intro here
  obtain ⟨a, ha, hperform⟩ := perform_run hop
  let h := firstHearing o r label sink
  have hhere : here = ((a.run h).1.map Reply.phase,
    ⟨(a.run h).2.office, some (a.run h).2.arbiter⟩) := hperform rfl
  obtain ⟨hnever, haccept, hsent⟩ :=
    (fresh_firstHearing o r label sink).shows_error rfl hs ha hd
  refine ⟨fun x hx => ?_, fun hsink => ?_, ?_⟩
  · rcases hsent with hnone | hone
    · rw [hhere] at hx
      simp only at hx
      rw [hnone] at hx
      cases hx
    · -- the only delivery there can be is that of the release
      have hall : here.2.office.desk.deliveries = _ :=
        deliveries_arbitration (by rcases hop with rfl | rfl <;> rfl)
          (by change _ <+: here.2.office.desk.deliveries; rw [hhere]; exact hone)
      rw [hall, List.mem_singleton] at hx
      rw [hx]
      rfl
  · rw [hhere]
    simp only
    rw [haccept hsink]
    rfl
  · intro reply hreply
    rw [hhere] at hreply
    cases hrun : (a.run h).1 with
    | ok phase => exact absurd hrun (hnever phase)
    | error f =>
      simp only [hrun] at hreply
      cases hreply

end

end Session

/-- A new arbiter runs for a screen request, with or without the release afterwards, once in one
office and once in the surroundings of another: any catalog, any frames, any authority. Both runs
come to the same answer, arbiter and desk. Nothing is parked, so no authority that parks what it is
offered was called, and no hardware is delivered. The run fails only if the sink does or if the
request is granted nothing. A run that does not fail delivers, as a success, a device of the audio
kind if that is a screen kind, and one of the video kind if that is one, and nothing else. The first
comes first, unless it is of the desktop and the second of a tab. -/
theorem screen_run_ignores_surroundings (o p : Office) (r : Request) (label : String) (sink : Sink)
    (op : Operation) (hop : op = .run ∨ op = .scopedRun) (hs : r.isScreenCapture = true) :
    let here := (Session.perform op).run (Session.arbitration o r label sink)
    let there :=
      (Session.perform op).run (Session.arbitration { p with desk := o.desk } r label sink)
    let desk := here.2.office.desk
    let audio := Screen.audioDevices r
    (there.1 = here.1 ∧ there.2.arbiter = here.2.arbiter ∧ there.2.office = { p with desk } ∧
        desk.parked = []) ∧
      (∀ x ∈ desk.deliveries, ∀ d ∈ x.devices, d.kind ≠ .deviceAudio ∧ d.kind ≠ .deviceVideo) ∧
      (sink = .accept → here.1 = (Screen.grant r).map fun _ => .phase .resolved) ∧
      ∀ reply, here.1 = .ok reply → reply = .phase .resolved ∧
        ∃ video devices, Screen.videoDevices r = .ok video ∧
          audio.map (·.kind) = [r.audio].filter (·.isScreenAudio) ∧
          video.map (·.kind) = [r.video].filter (·.isScreenVideo) ∧
          (devices = if r.audio = .desktopAudio ∧ r.video = .tabVideo then video ++ audio
            else audio ++ video) ∧
          devices ≠ [] ∧ desk.deliveries = [⟨0, none, devices, .ok⟩] := by
  intro here there desk audio
  refine ⟨Session.perform_elsewhere hop hs o p label sink, ?_⟩
  cases hd : Screen.grant r with
  | error e =>
    obtain ⟨hempty, haccept, hnever⟩ := Session.perform_refused hop hs o label sink hd
    refine ⟨fun x hx d hmem => ?_, haccept, fun reply hreply => absurd hreply (hnever reply)⟩
    rw [hempty x hx] at hmem
    cases hmem
  | ok devices =>
    obtain ⟨hone, haccept, hresolved⟩ := Session.perform_granted hop hs o label sink hd
    refine ⟨fun x hx d hmem => ?_, haccept, fun reply hreply => ⟨hresolved reply hreply, ?_⟩⟩
    · have hx' : x = ⟨0, none, devices, .ok⟩ := List.mem_singleton.mp (hone ▸ hx)
      subst hx'
      exact Screen.ne_hardware_of_mem_grant hd hmem
    · obtain ⟨video, hvideo, hdevices⟩ := Screen.grant_eq_ok hd
      exact ⟨video, devices, hvideo, Screen.kinds_audioDevices r, Screen.kinds_videoDevices hvideo,
        hdevices, Screen.grant_ne_nil hs hd, hone⟩

/-- The request is for a microphone and a tab, its frame is live, and the authority would park the
callback and fail. It is never asked, and of the two the tab alone is granted. -/
theorem screen_run_ignores_parking_authority :
    let p : Office :=
      { catalog := { audio := [⟨.deviceAudio, "mic", ""⟩] }
        frames := ⟨[{ processId := 7, frameId := 1 }]⟩
        consent := .scripted [.park, .fail (.scripted "broken")] (.bool true) }
    let r : Request := { processId := 7, frameId := 1, audio := .deviceAudio, video := .tabVideo }
    let there := (Session.perform .scopedRun).run (Session.arbitration p r "" .accept)
    r.isScreenCapture = true ∧ there.1 = .ok (.phase .resolved) ∧
      there.2.office.desk.parked = [] ∧
      there.2.office.desk.deliveries = [⟨0, none, [⟨.tabVideo, "", ""⟩], .ok⟩] := by
  intro p r there
  have hs : r.isScreenCapture = true := rfl
  have hread : Screen.videoDevices r = .ok [⟨.tabVideo, "", ""⟩] := rfl
  obtain ⟨⟨hanswer, _, hoffice, hparked⟩, _, haccept, hok⟩ :=
    screen_run_ignores_surroundings {} p r "" .accept .scopedRun (.inr rfl) hs
  have hhere := haccept rfl
  obtain ⟨_, video, devices, hvideo, _, _, hdevices, _, hone⟩ := hok _ hhere
  have hdesk : there.2.office.desk = _ := congrArg Office.desk hoffice
  rw [hread, Except.ok.injEq] at hvideo
  subst hvideo
  refine ⟨hs, hanswer.trans hhere, ?_, ?_⟩
  · rw [hdesk]
    exact hparked
  · rw [hdesk]
    simp only
    rw [hone, hdevices]
    rfl

/-- The sound of the desktop is asked for first, and granted after the picture of the tab. -/
theorem screen_run_grants_tab_first :
    let r : Request := { audio := .desktopAudio, video := .tabVideo }
    let tab : Device := ⟨.tabVideo, "", ""⟩
    let desk := ((Session.perform .run).run (Session.arbitration {} r "" .accept)).2.office.desk
    r.isScreenCapture = true ∧ Screen.videoDevices r = .ok [tab] ∧
      desk.deliveries = [⟨0, none, [tab, ⟨.desktopAudio, "loopback", "System Audio"⟩], .ok⟩] ∧
      ¬∀ x ∈ desk.deliveries, x.devices = Screen.audioDevices r ++ [tab] := by
  intro r tab desk
  exact ⟨rfl, rfl, by decide +kernel, by decide +kernel⟩

end CaptureArbiter
