import CaptureArbiter.Proofs.Handling
import CaptureArbiter.Proofs.Privilege

/-!
# Chosen devices

What each kind of request is given. A list of attached devices offers the first device of the ids
that are looked for, one id after the other, and its first device if none of them is attached. A
stream looks for the id it names and then for the preferred one, plain access for the preferred one
only, and a plug-in for the id it names only. The preferred ids are those of the configuration,
whatever has been attached or removed since.
-/

namespace CaptureArbiter

def Catalog.preferredId (c : Catalog) : StreamKind → String
  | .deviceAudio => c.defaultAudioId
  | .deviceVideo => c.defaultVideoId
  | _ => ""

def Request.namedId (r : Request) : StreamKind → String
  | .deviceAudio => r.audioDeviceId
  | .deviceVideo => r.videoDeviceId
  | _ => ""

/-- The kind of device that a plug-in is given. -/
def Request.pluginKind (r : Request) : Option StreamKind :=
  if r.audio = .deviceAudio then some .deviceAudio
  else if r.video = .deviceVideo then some .deviceVideo
  else none

namespace Selection

/-- Is a kind asked for, given whether microphones and cameras are? -/
def asks (mic cam : Bool) : StreamKind → Bool
  | .deviceAudio => mic
  | .deviceVideo => cam
  | _ => false

structure IsFirstOf (devices : List Device) (id : String) (d : Device) : Prop where
  nonempty : id ≠ ""
  id_eq : d.id = id
  first : ∃ before after, devices = before ++ d :: after ∧ ∀ x ∈ before, x.id ≠ id

inductive Offers (devices : List Device) : List String → Device → Prop
  | found {id : String} {ids : List String} {d : Device} (h : IsFirstOf devices id d) :
      Offers devices (id :: ids) d
  | missing {id : String} {ids : List String} {d : Device} (h : ∀ x, ¬IsFirstOf devices id x)
      (rest : Offers devices ids d) : Offers devices (id :: ids) d
  | first {d : Device} (h : devices.head? = some d) : Offers devices [] d

/-- Attached devices of different kinds, among them one of each kind that is asked for and attached
at all. -/
structure Grants (c : Catalog) (asked : StreamKind → Bool) (ids : StreamKind → List String)
    (devices : List Device) : Prop where
  listed : ∀ d ∈ devices, d ∈ c.listed d.kind
  distinct : devices.Pairwise fun a b => a.kind ≠ b.kind
  granted : ∀ kind, asked kind = true → c.listed kind ≠ [] →
    ∃ d, devices.filter (·.kind == kind) = [d] ∧ Offers (c.listed kind) (ids kind) d

variable {c : Catalog} {r : Request} {kind : StreamKind} {devices : List Device} {d : Device}
  {id : String} {ids : List String}

theorem isFirstOf_iff : IsFirstOf devices id d ↔ Catalog.findById devices id = some d := by
  by_cases hid : id = ""
  · subst hid
    exact ⟨fun h => absurd rfl h.nonempty, fun h => by simp [Catalog.findById_empty] at h⟩
  · simp only [Catalog.findById, beq_iff_eq, hid, if_false, List.find?_eq_some_iff_append]
    constructor
    · rintro ⟨_, hsame, before, after, hsplit, hbefore⟩
      exact ⟨hsame, before, after, hsplit, fun x hx => by simpa using hbefore x hx⟩
    · rintro ⟨hsame, before, after, hsplit, hbefore⟩
      exact ⟨hid, hsame, before, after, hsplit, fun x hx => by simpa using hbefore x hx⟩

/-- What a list offers, as a look-up. -/
def offered (devices : List Device) (ids : List String) : Option Device :=
  (ids.findSome? (Catalog.findById devices)).or devices.head?

theorem offered_cons : offered devices (id :: ids) =
    (Catalog.findById devices id).or (offered devices ids) := by
  rw [offered, List.findSome?_cons]
  cases Catalog.findById devices id <;> rfl

theorem offers_iff : Offers devices ids d ↔ offered devices ids = some d := by
  induction ids with
  | nil =>
    constructor
    · intro h
      cases h with
      | first h => exact h
    · exact .first
  | cons id ids ih =>
    rw [offered_cons]
    cases hfind : Catalog.findById devices id with
    | none =>
      have hmissing : ∀ x, ¬IsFirstOf devices id x := by
        intro x hx
        rw [isFirstOf_iff, hfind] at hx
        cases hx
      rw [Option.none_or, ← ih]
      constructor
      · intro h
        cases h with
        | found h => exact absurd h (hmissing d)
        | missing _ rest => exact rest
      · exact .missing hmissing
    | some x =>
      have hx : IsFirstOf devices id x := isFirstOf_iff.mpr hfind
      rw [Option.some_or, Option.some.injEq]
      constructor
      · intro h
        cases h with
        | found h =>
          rw [isFirstOf_iff, hfind, Option.some.injEq] at h
          exact h
        | missing h _ => exact absurd hx (h x)
      · rintro rfl
        exact .found hx

theorem mem_of_offered (h : offered devices ids = some d) : d ∈ devices := by
  rw [offered, Option.or_eq_some_iff] at h
  rcases h with h | ⟨_, h⟩
  · obtain ⟨id, _, hfind⟩ := List.exists_of_findSome?_eq_some h
    exact Catalog.mem_of_findById hfind
  · exact List.mem_of_head? h

theorem exists_offered (h : devices ≠ []) (ids : List String) :
    ∃ d, offered devices ids = some d := by
  cases devices with
  | nil => exact absurd rfl h
  | cons first rest =>
    rw [offered, List.head?_cons]
    cases ids.findSome? (Catalog.findById (first :: rest)) with
    | none => exact ⟨first, rfl⟩
    | some d => exact ⟨d, rfl⟩

theorem Grants.of_filter {asked : StreamKind → Bool} {ids : StreamKind → List String}
    {chosen : StreamKind → Option Device}
    (hfilter : ∀ kind, devices.filter (·.kind == kind) = (chosen kind).toList)
    (hlisted : ∀ kind d, chosen kind = some d → d ∈ c.listed kind)
    (hasked : ∀ kind, asked kind = true → chosen kind = offered (c.listed kind) (ids kind)) :
    Grants c asked ids devices where
  listed d hd := by
    have hmem : d ∈ devices.filter (·.kind == d.kind) := List.mem_filter.mpr ⟨hd, by simp⟩
    rw [hfilter, Option.mem_toList] at hmem
    exact hlisted d.kind d hmem
  distinct := by
    have hnodup : (devices.map (·.kind)).Nodup := by
      rw [List.nodup_iff_count]
      intro kind
      have hcount : (devices.map (·.kind)).count kind = (chosen kind).toList.length := by
        rw [← hfilter, List.count_eq_countP, List.countP_map, List.countP_eq_length_filter]
        rfl
      rw [hcount]
      cases chosen kind <;> simp
    exact List.pairwise_map.mp hnodup
  granted kind hkind hne := by
    obtain ⟨d, hd⟩ := exists_offered hne (ids kind)
    have hchosen := (hasked kind hkind).trans hd
    refine ⟨d, ?_, offers_iff.mpr hd⟩
    rw [hfilter, hchosen]
    rfl

theorem filter_defaults (hc : c.IsTyped) (mic cam : Bool) (kind : StreamKind) :
    (c.defaults mic cam).filter (·.kind == kind) =
      (if asks mic cam kind then offered (c.listed kind) [c.preferredId kind]
        else none).toList := by
  have haudio : c.defaultAudio = offered (c.listed .deviceAudio) [c.preferredId .deviceAudio] := by
    rw [offered_cons]
    rfl
  have hvideo : c.defaultVideo = offered (c.listed .deviceVideo) [c.preferredId .deviceVideo] := by
    rw [offered_cons]
    rfl
  have hmics : ∀ d ∈ (if mic then c.defaultAudio.toList else []), d.kind = .deviceAudio := by
    cases mic with
    | false => simp
    | true => exact fun d hd => hc.defaultAudio (Option.mem_toList.mp hd)
  have hcams : ∀ d ∈ (if cam then c.defaultVideo.toList else []), d.kind = .deviceVideo := by
    cases cam with
    | false => simp
    | true => exact fun d hd => hc.defaultVideo (Option.mem_toList.mp hd)
  rw [Catalog.defaults, filter_append hmics hcams, haudio, hvideo]
  cases kind with
  | deviceAudio => cases mic <;> rfl
  | deviceVideo => cases cam <;> rfl
  | _ => rfl

theorem named_eq (c : Catalog) (r : Request) (kind : StreamKind) :
    named c r kind = Catalog.findById (c.listed kind) (r.namedId kind) := by
  cases kind <;> rfl

theorem filter_stream (hc : c.IsTyped) (mic cam : Bool) (kind : StreamKind) :
    (streamDevices c r mic cam).filter (·.kind == kind) =
      (if asks mic cam kind then offered (c.listed kind) [r.namedId kind, c.preferredId kind]
        else named c r kind).toList := by
  have hoffered : offered (c.listed kind) [r.namedId kind, c.preferredId kind] =
      (named c r kind).or (offered (c.listed kind) [c.preferredId kind]) := by
    rw [offered_cons, ← named_eq]
  have hneeds : asks (mic && (c.findAudio r.audioDeviceId).isNone)
      (cam && (c.findVideo r.videoDeviceId).isNone) kind =
        (asks mic cam kind && (named c r kind).isNone) := by
    cases kind <;> rfl
  rw [streamDevices, List.filter_append, filter_named hc, filter_defaults hc, hneeds, hoffered]
  cases named c r kind with
  | none => simp
  | some d => cases asks mic cam kind <;> simp

theorem grants_defaults (hc : c.IsTyped) (mic cam : Bool) :
    Grants c (asks mic cam) (fun kind => [c.preferredId kind]) (c.defaults mic cam) := by
  apply Grants.of_filter (filter_defaults hc mic cam)
  · intro kind d hd
    split at hd
    · exact mem_of_offered hd
    · cases hd
  · intro kind hkind
    exact if_pos hkind

theorem grants_streamDevices (hc : c.IsTyped) (mic cam : Bool) :
    Grants c (asks mic cam) (fun kind => [r.namedId kind, c.preferredId kind])
      (streamDevices c r mic cam) := by
  apply Grants.of_filter (filter_stream hc mic cam)
  · intro kind d hd
    split at hd
    · exact mem_of_offered hd
    · rw [named_eq] at hd
      exact Catalog.mem_of_findById hd
  · intro kind hkind
    exact if_pos hkind

theorem asks_of_mem_defaults (hc : c.IsTyped) {mic cam : Bool} (hd : d ∈ c.defaults mic cam) :
    asks mic cam d.kind = true := by
  rcases kind_of_mem_defaults hc hd with ⟨hkind, hasked⟩ | ⟨hkind, hasked⟩
  · rw [hkind]
    exact hasked
  · rw [hkind]
    exact hasked

theorem pepperDevice_eq_some_iff : pepperDevice c r = some d ↔
    ∃ kind, r.pluginKind = some kind ∧ Offers (c.listed kind) [r.namedId kind] d := by
  simp only [offers_iff, offered_cons, Request.pluginKind, pepperDevice, beq_iff_eq]
  by_cases haudio : r.audio = .deviceAudio
  · simp only [haudio, if_true, Option.some.injEq, exists_eq_left']
    rfl
  · by_cases hvideo : r.video = .deviceVideo
    · simp only [haudio, hvideo, if_true, if_false, Option.some.injEq, exists_eq_left']
      rfl
    · simp [haudio, hvideo]

/-- What is chosen for a request that asks for something, with the given preferences. -/
structure MeetsSpecification (c : Catalog) (preferredId : StreamKind → String) (r : Request)
    (mic cam : Bool) : Prop where
  fails : ∀ e, choose c r mic cam = .error e ↔
    r.kind = .deviceUpdate ∧ e = .unreachableRequest .deviceUpdate
  stream : r.kind = .generateStream → ∃ devices, choose c r mic cam = .ok devices ∧
    Grants c (asks mic cam) (fun kind => [r.namedId kind, preferredId kind]) devices
  access : r.kind = .deviceAccess → ∃ devices, choose c r mic cam = .ok devices ∧
    Grants c (asks mic cam) (fun kind => [preferredId kind]) devices ∧
      (∀ d ∈ devices, asks mic cam d.kind = true) ∧
      ∀ audioDeviceId videoDeviceId,
        choose c { r with audioDeviceId, videoDeviceId } mic cam = .ok devices
  pepper : r.kind = .openPepper → ∃ devices, choose c r mic cam = .ok devices ∧
    devices.length ≤ 1 ∧
      (∀ d, d ∈ devices ↔
        ∃ kind, r.pluginKind = some kind ∧ Offers (c.listed kind) [r.namedId kind] d) ∧
      ∀ defaultAudioId defaultVideoId,
        choose { c with defaultAudioId, defaultVideoId } r mic cam = .ok devices

theorem choose_of_kind {mic cam : Bool} (hwants : (mic || cam) = true) (c : Catalog) (r : Request) :
    choose c r mic cam = match r.kind with
      | .openPepper => .ok (pepperDevice c r).toList
      | .generateStream => .ok (streamDevices c r mic cam)
      | .deviceAccess => .ok (c.defaults mic cam)
      | .deviceUpdate => .error (.unreachableRequest r.kind) := by
  rw [choose, hwants]
  rfl

theorem meetsSpecification {mic cam : Bool} (hc : c.IsTyped) (hwants : (mic || cam) = true)
    (r : Request) : MeetsSpecification c c.preferredId r mic cam where
  fails e := by
    rw [choose_of_kind hwants]
    cases hkind : r.kind with
    | deviceUpdate => simp [eq_comm]
    | _ => simp
  stream hkind := by
    refine ⟨streamDevices c r mic cam, ?_, grants_streamDevices hc mic cam⟩
    simp only [choose_of_kind hwants, hkind]
  access hkind := by
    have hdefaults : ∀ audioDeviceId videoDeviceId,
        choose c { r with audioDeviceId, videoDeviceId } mic cam = .ok (c.defaults mic cam) := by
      intro audioDeviceId videoDeviceId
      simp only [choose_of_kind hwants, hkind]
    refine ⟨c.defaults mic cam, hdefaults r.audioDeviceId r.videoDeviceId, ?_, ?_, hdefaults⟩
    · exact grants_defaults hc mic cam
    · intro d hd
      exact asks_of_mem_defaults hc hd
  pepper hkind := by
    have hdevice : ∀ defaultAudioId defaultVideoId,
        choose { c with defaultAudioId, defaultVideoId } r mic cam =
          .ok (pepperDevice c r).toList := by
      intro defaultAudioId defaultVideoId
      simp only [choose_of_kind hwants, hkind]
      rfl
    refine ⟨(pepperDevice c r).toList, hdevice c.defaultAudioId c.defaultVideoId, ?_, ?_, hdevice⟩
    · cases pepperDevice c r <;> simp
    · intro d
      rw [Option.mem_toList, ← pepperDevice_eq_some_iff]

end Selection

theorem Catalog.preferredId_setAudio {c c' : Catalog} {devices : List Device}
    (h : c.setAudio devices = .ok c') : c'.preferredId = c.preferredId := by
  rw [Catalog.setAudio_eq_ok h]
  rfl

theorem Catalog.preferredId_setVideo {c c' : Catalog} {devices : List Device}
    (h : c.setVideo devices = .ok c') : c'.preferredId = c.preferredId := by
  rw [Catalog.setVideo_eq_ok h]
  rfl

theorem Catalog.preferredId_after (s : Session) (ops : List Operation) :
    (s.after ops).office.catalog.preferredId = s.office.catalog.preferredId := by
  have hstable : Office.Stable (fun _ => True) fun o =>
      o.catalog.preferredId = s.office.catalog.preferredId :=
    Catalog.stable_of_lists (fun hset hc => (preferredId_setAudio hset).trans hc)
      (fun hset hc => (preferredId_setVideo hset).trans hc)
  exact hstable.after (fun op _ => op.says_true) rfl

/-- What is chosen for a request, from a catalog that was made from a description and whatever has
happened since. -/
theorem choose_as_specified {block : CatalogBlock} {s : Session}
    (hmade : Catalog.ofBlock block = .ok s.office.catalog) (ops : List Operation) (r : Request)
    (mic cam : Bool) :
    let c := (s.after ops).office.catalog
    Selection.choose c r false false = .ok [] ∧
      ((mic || cam) = true →
        Selection.MeetsSpecification c s.office.catalog.preferredId r mic cam) := by
  intro c
  have hc : c.IsTyped := Catalog.isTyped_after hmade ops
  have hpreferred : c.preferredId = s.office.catalog.preferredId := Catalog.preferredId_after s ops
  refine ⟨Selection.choose_nothing c r, ?_⟩
  intro hwants
  rw [← hpreferred]
  exact Selection.meetsSpecification hc hwants r

/-- The named and the preferred microphone are gone, and two others share an id: a stream is given
the first of them. A plug-in that names no camera is given the first one, not the preferred one. -/
theorem choose_as_specified_replaced :
    let block : CatalogBlock :=
      { audioDevices := .list [.map [(.text "id", .text "mic-a")]]
        videoDevices := .list [.map [(.text "id", .text "cam-a")],
          .map [(.text "id", .text "cam-b")]]
        defaultAudioId := .text "mic-a", defaultVideoId := .text "cam-b" }
    let camA : Device := ⟨.deviceVideo, "cam-a", "cam-a"⟩
    let camB : Device := ⟨.deviceVideo, "cam-b", "cam-b"⟩
    let left : Device := ⟨.deviceAudio, "mic-b", "Left"⟩
    let right : Device := ⟨.deviceAudio, "mic-b", "Right"⟩
    let s : Session := .service { catalog :=
      { audio := [⟨.deviceAudio, "mic-a", "mic-a"⟩], video := [camA, camB]
        defaultAudioId := "mic-a", defaultVideoId := "cam-b" } }
    let c := (s.after [.setAudio [left, right]]).office.catalog
    let stream : Request := { video := .deviceVideo, audioDeviceId := "mic-a" }
    let plugin : Request := { kind := .openPepper, video := .deviceVideo }
    Catalog.ofBlock block = .ok s.office.catalog ∧
      Selection.choose c stream true true = .ok [left, camB] ∧
      (∃ d, [left, camB].filter (·.kind == .deviceAudio) = [d] ∧
        Selection.Offers (c.listed .deviceAudio) ["mic-a", "mic-a"] d) ∧
      Selection.choose c plugin true true = .ok [camA] ∧
      ∃ kind, plugin.pluginKind = some kind ∧ Selection.Offers (c.listed kind) [""] camA := by
  intro block camA camB left right s c stream plugin
  have hmade : Catalog.ofBlock block = .ok s.office.catalog := eq_ok_of_toOption (by decide +kernel)
  have hstream : Selection.choose c stream true true = .ok [left, camB] :=
    eq_ok_of_toOption (by decide +kernel)
  have hplugin : Selection.choose c plugin true true = .ok [camA] :=
    eq_ok_of_toOption (by decide +kernel)
  obtain ⟨_, hstreams⟩ := choose_as_specified hmade [.setAudio [left, right]] stream true true
  obtain ⟨_, hplugins⟩ := choose_as_specified hmade [.setAudio [left, right]] plugin true true
  obtain ⟨streamed, hstreamed, hgrants⟩ := (hstreams rfl).stream rfl
  obtain ⟨opened, hopened, _, hoffers, _⟩ := (hplugins rfl).pepper rfl
  cases Except.ok.inj (hstreamed.symm.trans hstream)
  cases Except.ok.inj (hopened.symm.trans hplugin)
  have hmics : c.listed .deviceAudio ≠ [] := by decide +kernel
  obtain ⟨kind, hkind, hoffer⟩ := (hoffers camA).mp (List.mem_singleton.mpr rfl)
  have hnamed : plugin.namedId kind = "" := by cases kind <;> rfl
  rw [hnamed] at hoffer
  exact ⟨hmade, hstream, hgrants.granted .deviceAudio rfl hmics, hplugin, kind, hkind, hoffer⟩

end CaptureArbiter
