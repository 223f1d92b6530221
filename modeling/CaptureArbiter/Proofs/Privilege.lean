import CaptureArbiter.Proofs.Kinds
import CaptureArbiter.Proofs.Sent

/-!
# Kinds of granted devices

An accepted request is granted devices of the kinds that it wants. There is one exception: a stream
that wants one kind of hardware and names an attached device of the other kind is granted that
device, too.
-/

namespace CaptureArbiter

/-- Does a request want devices of a kind? It can want microphones and cameras. -/
def Request.wants (r : Request) : StreamKind → Bool
  | .deviceAudio => r.wantsMicrophone
  | .deviceVideo => r.wantsCamera
  | _ => false

theorem Request.wants_of_pepper {r : Request} (hr : r.kind = .openPepper) {kind : StreamKind}
    (hk : kind = .deviceAudio ∨ kind = .deviceVideo) : r.wants kind = true := by
  rcases hk with rfl | rfl
  · simp [wants, wantsMicrophone, hr]
  · simp [wants, wantsCamera, hr]

namespace Selection

variable {c : Catalog} {r : Request} {kind : StreamKind} {devices : List Device} {d : Device}

/-- The attached device of a kind that a request names. -/
def named (c : Catalog) (r : Request) : StreamKind → Option Device
  | .deviceAudio => c.findAudio r.audioDeviceId
  | .deviceVideo => c.findVideo r.videoDeviceId
  | _ => none

/-- The device of a kind that a stream is granted without wanting the kind. -/
def unwanted (c : Catalog) (r : Request) (kind : StreamKind) : Option Device :=
  if r.kind == .generateStream && (r.wantsMicrophone || r.wantsCamera) && !r.wants kind then
    named c r kind
  else none

theorem kind_of_mem_defaults (hc : c.IsTyped) {audio video : Bool}
    (hd : d ∈ c.defaults audio video) :
    d.kind = .deviceAudio ∧ audio = true ∨ d.kind = .deviceVideo ∧ video = true := by
  rw [Catalog.defaults, List.mem_append] at hd
  rcases hd with hd | hd
  · cases audio with
    | false => simp at hd
    | true =>
      simp only [if_true, Option.mem_toList] at hd
      exact .inl ⟨hc.defaultAudio hd, rfl⟩
  · cases video with
    | false => simp at hd
    | true =>
      simp only [if_true, Option.mem_toList] at hd
      exact .inr ⟨hc.defaultVideo hd, rfl⟩

theorem kind_of_pepperDevice (hc : c.IsTyped) (hd : pepperDevice c r = some d) :
    d.kind = .deviceAudio ∨ d.kind = .deviceVideo := by
  unfold pepperDevice at hd
  split at hd
  · rw [Option.or_eq_some_iff] at hd
    rcases hd with hd | ⟨_, hd⟩
    · exact .inl (hc.findAudio hd)
    · exact .inl (hc.audio d (List.mem_of_head? hd))
  · split at hd
    · rw [Option.or_eq_some_iff] at hd
      rcases hd with hd | ⟨_, hd⟩
      · exact .inr (hc.findVideo hd)
      · exact .inr (hc.video d (List.mem_of_head? hd))
    · cases hd

theorem filter_of_kind (hall : ∀ d ∈ devices, d.kind = kind) :
    devices.filter (·.kind == kind) = devices := by
  rw [List.filter_eq_self]
  intro d hd
  rw [hall d hd]
  exact beq_self_eq_true _

theorem filter_of_other_kind {other : StreamKind} (hall : ∀ d ∈ devices, d.kind = other)
    (hne : other ≠ kind) : devices.filter (·.kind == kind) = [] := by
  rw [List.filter_eq_nil_iff]
  intro d hd
  rw [hall d hd, beq_iff_eq]
  exact hne

theorem filter_of_wants (hk : r.wants kind = false)
    (hall : ∀ d ∈ devices, r.wants d.kind = true) : devices.filter (·.kind == kind) = [] := by
  rw [List.filter_eq_nil_iff]
  intro d hd hkind
  have hwants := hall d hd
  rw [beq_iff_eq.mp hkind, hk] at hwants
  cases hwants

theorem filter_append {audio video : List Device} (haudio : ∀ d ∈ audio, d.kind = .deviceAudio)
    (hvideo : ∀ d ∈ video, d.kind = .deviceVideo) (kind : StreamKind) :
    (audio ++ video).filter (·.kind == kind) = Catalog.listed { audio, video } kind := by
  rw [List.filter_append]
  cases kind with
  | deviceAudio =>
    rw [filter_of_kind haudio, filter_of_other_kind hvideo (by decide), List.append_nil]
    rfl
  | deviceVideo =>
    rw [filter_of_other_kind haudio (by decide), filter_of_kind hvideo, List.nil_append]
    rfl
  | noService | tabAudio | tabVideo | desktopAudio | desktopVideo =>
    rw [filter_of_other_kind haudio (by decide), filter_of_other_kind hvideo (by decide)]
    rfl

theorem filter_named (hc : c.IsTyped) (r : Request) (kind : StreamKind) :
    ((c.findAudio r.audioDeviceId).toList ++ (c.findVideo r.videoDeviceId).toList).filter
      (·.kind == kind) = (named c r kind).toList := by
  have haudio : ∀ d ∈ (c.findAudio r.audioDeviceId).toList, d.kind = .deviceAudio :=
    fun d hd => hc.findAudio (Option.mem_toList.mp hd)
  have hvideo : ∀ d ∈ (c.findVideo r.videoDeviceId).toList, d.kind = .deviceVideo :=
    fun d hd => hc.findVideo (Option.mem_toList.mp hd)
  rw [filter_append haudio hvideo]
  cases kind <;> rfl

theorem filter_streamDevices (hc : c.IsTyped) (hk : r.wants kind = false) :
    (streamDevices c r r.wantsMicrophone r.wantsCamera).filter (·.kind == kind) =
      (named c r kind).toList := by
  have hrest : (c.defaults (r.wantsMicrophone && (c.findAudio r.audioDeviceId).isNone)
      (r.wantsCamera && (c.findVideo r.videoDeviceId).isNone)).filter (·.kind == kind) = [] := by
    refine filter_of_wants hk ?_
    intro d hd
    rcases kind_of_mem_defaults hc hd with ⟨hkind, hneeds⟩ | ⟨hkind, hneeds⟩
    · rw [hkind]
      exact (Bool.and_eq_true_iff.mp hneeds).1
    · rw [hkind]
      exact (Bool.and_eq_true_iff.mp hneeds).1
  rw [streamDevices, List.filter_append, hrest, List.append_nil]
  exact filter_named hc r kind

theorem filter_choose (hc : c.IsTyped)
    (hd : choose c r r.wantsMicrophone r.wantsCamera = .ok devices) (hk : r.wants kind = false) :
    devices.filter (·.kind == kind) = (unwanted c r kind).toList := by
  rw [unwanted, hk]
  rw [choose] at hd
  cases hwants : r.wantsMicrophone || r.wantsCamera with
  | false =>
    simp only [hwants, Bool.not_false, if_true, Except.ok.injEq] at hd
    subst hd
    simp
  | true =>
    simp only [hwants, Bool.not_true, Bool.false_eq_true, if_false] at hd
    cases hr : r.kind with
    | openPepper =>
      simp only [hr, Except.ok.injEq] at hd
      subst hd
      refine filter_of_wants hk ?_
      intro d hd
      exact Request.wants_of_pepper hr (kind_of_pepperDevice hc (Option.mem_toList.mp hd))
    | generateStream =>
      simp only [hr, Except.ok.injEq] at hd
      subst hd
      exact filter_streamDevices hc hk
    | deviceAccess =>
      simp only [hr, Except.ok.injEq] at hd
      subst hd
      refine filter_of_wants hk ?_
      intro d hd
      rcases kind_of_mem_defaults hc hd with ⟨hkind, hneeds⟩ | ⟨hkind, hneeds⟩
      · rw [hkind]
        exact hneeds
      · rw [hkind]
        exact hneeds
    | deviceUpdate =>
      simp only [hr] at hd
      cases hd

end Selection

/-- Whatever an arbiter sends when it accepts a request is sent as a success. Of a kind that the
request does not want it grants nothing but the device that a stream names, if that is attached.
The catalog was made from a description, and anything may have happened since. -/
theorem accept_grants_wanted_or_named {block : CatalogBlock} {s : Session}
    (hmade : Catalog.ofBlock block = .ok s.office.catalog) (ops : List Operation) (h : Hearing)
    (hcatalog : h.office.catalog = (s.after ops).office.catalog) :
    ∃ new, (Hearing.accept.run h).2.office.desk.deliveries = h.office.desk.deliveries ++ new ∧
      ∀ x ∈ new, x.outcome = .ok ∧ ∀ kind, h.arbiter.request.wants kind = false →
        x.devices.filter (·.kind == kind) =
          (Selection.unwanted h.office.catalog h.arbiter.request kind).toList := by
  have hc : h.office.catalog.IsTyped := by
    rw [hcatalog]
    exact Catalog.isTyped_after hmade ops
  obtain ⟨new, hnew, hsent⟩ := Hearing.sends_accept h
  refine ⟨new, hnew, ?_⟩
  intro x hx
  obtain ⟨hselected, houtcome⟩ := hsent x hx
  refine ⟨houtcome, ?_⟩
  intro kind hk
  exact Selection.filter_choose hc hselected hk

/-- The cameras have changed since the catalog was made, a camera was refused as a microphone, and a
stream that wants a microphone names a camera. It is granted this camera and no screen. -/
theorem accept_grants_named_camera :
    let block : CatalogBlock :=
      { audioDevices := .list [.map [(.text "id", .text "mic-a")]]
        videoDevices := .list [.map [(.text "id", .text "cam-c"), (.text "name", .text "Cam")]] }
    let mic : Device := ⟨.deviceAudio, "mic-a", "mic-a"⟩
    let cam : Device := ⟨.deviceVideo, "cam-b", ""⟩
    let o : Office := { catalog := { audio := [mic], video := [⟨.deviceVideo, "cam-c", "Cam"⟩] } }
    let r : Request := { audio := .deviceAudio, videoDeviceId := "cam-b" }
    let s := Session.arbitration o r "" .accept
    let ops : List Operation := [.setVideo [⟨.deviceVideo, "cam-a", ""⟩, cam], .setAudio [cam]]
    let h : Hearing := ⟨(s.after ops).office, { request := r, held := some 0 }⟩
    Catalog.ofBlock block = .ok s.office.catalog ∧
      h.office.catalog = (s.after ops).office.catalog ∧
      ∃ x, (Hearing.accept.run h).2.office.desk.deliveries = [x] ∧ r.wants .deviceVideo = false ∧
        x.devices.filter (·.kind == .deviceVideo) = [cam] ∧
        x.devices.filter (·.kind == .desktopVideo) = [] := by
  intro block mic cam o r s ops h
  have hmade : Catalog.ofBlock block = .ok s.office.catalog := by rfl
  have hsent : (Hearing.accept.run h).2.office.desk.deliveries = [⟨0, none, [cam, mic], .ok⟩] := by
    decide +kernel
  have hnamed : Selection.unwanted h.office.catalog r .deviceVideo = some cam := by decide +kernel
  have hscreen : Selection.unwanted h.office.catalog r .desktopVideo = none := by decide +kernel
  obtain ⟨new, hnew, hall⟩ := accept_grants_wanted_or_named hmade ops h rfl
  have hmem : (⟨0, none, [cam, mic], .ok⟩ : Delivery) ∈ new := by
    have hold : h.office.desk.deliveries = [] := by decide +kernel
    rw [hsent, hold, List.nil_append] at hnew
    rw [← hnew]
    exact List.mem_singleton.mpr rfl
  obtain ⟨_, hkinds⟩ := hall _ hmem
  have hvideo := hkinds .deviceVideo (by decide +kernel)
  have hdesktop := hkinds .desktopVideo (by decide +kernel)
  rw [hnamed] at hvideo
  rw [hscreen] at hdesktop
  exact ⟨hmade, rfl, _, hsent, by decide +kernel, hvideo, hdesktop⟩

/-- A request that wants a microphone and no camera is granted the camera that it names. -/
theorem accept_grants_unwanted_camera :
    let mic : Device := ⟨.deviceAudio, "mic-a", "Mic A"⟩
    let cam : Device := ⟨.deviceVideo, "cam-a", "Cam A"⟩
    let o : Office :=
      { catalog := { audio := [mic], video := [cam] }
        frames := ⟨[{ processId := 7, frameId := 3 }]⟩ }
    let r : Request :=
      { processId := 7, frameId := 3, audio := .deviceAudio, videoDeviceId := "cam-a" }
    r.isScreenCapture = false ∧ r.wantsCamera = false ∧
      ((Session.arbitration o r "" .accept).after [.run]).office.desk.deliveries =
        [⟨0, none, [cam, mic], .ok⟩] := by
  decide +kernel

end CaptureArbiter
