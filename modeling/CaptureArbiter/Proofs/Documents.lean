import CaptureArbiter.Proofs.Furnished
import CaptureArbiter.Proofs.Written
import CaptureArbiter.Settings.Check
import CaptureArbiter.Settings.Document

/-!
# From documents to catalogs

A configuration document describes devices by its entries. What is read from a document that passes
the checks is what it describes: the catalog made from it has one device for each entry, in the
order of the document, no device hides another one, and the preferred devices are those named.
-/

namespace CaptureArbiter

open Act

namespace Value

/-- The entries of a mapping; other values have none. -/
def entries : Value → List (Value × Value)
  | .map es => es
  | _ => []

/-- The items of a list; other values have none. -/
def items : Value → List Value
  | .list vs => vs
  | _ => []

/-- What a document gives for a field of its catalog section. -/
def catalogField (document : Value) (name : String) : Value :=
  entryOrNull (entryOrNull document.entries "catalog").entries name

/-- The device that an entry of a document describes. A bare text is an id. -/
def described (kind : StreamKind) : Value → Device
  | .text s => { kind, id := s, name := s }
  | entry =>
    let id := (entryOrNull entry.entries "id").display
    let name := entryOrNull entry.entries "name"
    { kind, id, name := if name.isTruthy then name.display else id }

end Value

/-- The devices of a kind are what the entries of a document describe, and its preference counts. -/
structure DescribedBy (kind : StreamKind) (entries preference : Value) (devices : List Device)
    (find : String → Option Device) (default : Option Device) : Prop where
  listed : devices = entries.items.map (Value.described kind)
  found : ∀ d ∈ devices, find d.id = some d
  preferred : preference.isTruthy = true →
    ∃ d ∈ devices, d.id = preference.display ∧ default = some d
  first : preference.isTruthy = false → default = devices.head?

/-- A catalog is what a document describes. -/
structure Catalog.IsOf (document : Value) (c : Catalog) : Prop where
  audio : DescribedBy .deviceAudio (document.catalogField "audio_devices")
    (document.catalogField "default_audio_id") c.audio c.findAudio c.defaultAudio
  video : DescribedBy .deviceVideo (document.catalogField "video_devices")
    (document.catalogField "default_video_id") c.video c.findVideo c.defaultVideo

namespace Settings

/-- The mapping that an entry of a device list is read as. -/
def normalEntry : Value → Value
  | .text s => deviceEntry s s
  | entry =>
    let id := Value.entryOrNull entry.entries "id"
    deviceEntry id.written ((Value.entryOrNull entry.entries "name").orElse id).written

variable {path section_ name : String} {document entry v w : Value}
  {root fields : List (Value × Value)} {index : Nat}

theorem rootEntries_eq_ok (h : rootEntries path document = .ok root) :
    root = document.entries := by
  unfold rootEntries Value.orElse at h
  split at h
  · next hmap =>
    cases h
    split at hmap
    · rw [hmap]
      rfl
    · next hfalse =>
      cases hmap
      cases document with
      | map es =>
        cases es with
        | nil => rfl
        | cons e es => exact absurd rfl hfalse
      | _ => rfl
  · cases h

theorem sectionEntries_eq_ok (h : sectionEntries path name root = .ok fields) :
    fields = (Value.entryOrNull root name).entries := by
  unfold sectionEntries at h
  split at h
  · next hv =>
    cases h
    rw [hv]
    rfl
  · next hv =>
    cases h
    rw [hv]
    rfl
  · cases h

theorem readDevice_eq_ok (h : readDevice section_ path index entry = .ok v) :
    v = normalEntry entry := by
  unfold readDevice at h
  cases entry with
  | text s =>
    cases h
    rfl
  | map es =>
    obtain ⟨_, _, h⟩ := exists_of_bind_ok h
    obtain ⟨id, hid, h⟩ := exists_of_bind_ok h
    obtain ⟨name, hname, h⟩ := exists_of_bind_ok h
    cases h
    rw [Value.toTextOrEmpty_eq_ok hid, Value.toTextOrEmpty_eq_ok hname]
    rfl
  | _ => cases h

theorem readDevicesFrom_eq_ok {entries devices : List Value}
    (h : readDevicesFrom section_ path index entries = .ok devices) :
    devices = entries.map normalEntry := by
  induction entries generalizing index devices with
  | nil =>
    cases h
    rfl
  | cons entry entries ih =>
    obtain ⟨device, hdevice, h⟩ := exists_of_bind_ok h
    obtain ⟨rest, hrest, h⟩ := exists_of_bind_ok h
    cases h
    rw [readDevice_eq_ok hdevice, ih hrest, List.map_cons]

theorem readDevices_eq_ok (h : readDevices section_ path v = .ok w) :
    w = .list (v.items.map normalEntry) := by
  unfold readDevices at h
  split at h
  · cases h
    rfl
  · obtain ⟨devices, hdevices, h⟩ := exists_of_bind_ok h
    cases h
    rw [readDevicesFrom_eq_ok hdevices]
    rfl
  · cases h

theorem items_field (fields : List (Value × Value)) (name : String) :
    (field fields name (.list [])).items = (Value.entryOrNull fields name).items := by
  unfold field Value.entryOrNull
  cases Value.lookup? fields name <;> rfl

theorem written_field (fields : List (Value × Value)) (name : String) :
    (field fields name (.text "")).written = (Value.entryOrNull fields name).written := by
  unfold field Value.entryOrNull
  cases Value.lookup? fields name <;> rfl

/-- The block of a catalog is what is read from a document. -/
structure ReadFrom (document : Value) (block : CatalogBlock) : Prop where
  audio : block.audioDevices =
    .list ((document.catalogField "audio_devices").items.map normalEntry)
  video : block.videoDevices =
    .list ((document.catalogField "video_devices").items.map normalEntry)
  defaultAudio : block.defaultAudioId = .text (document.catalogField "default_audio_id").written
  defaultVideo : block.defaultVideoId = .text (document.catalogField "default_video_id").written

theorem readCatalog_eq_ok {block : CatalogBlock} (hroot : root = document.entries)
    (h : readCatalog path root = .ok block) : ReadFrom document block := by
  unfold readCatalog at h
  obtain ⟨fields, hfields, h⟩ := exists_of_bind_ok h
  obtain ⟨_, _, h⟩ := exists_of_bind_ok h
  obtain ⟨audio, haudio, h⟩ := exists_of_bind_ok h
  obtain ⟨video, hvideo, h⟩ := exists_of_bind_ok h
  obtain ⟨audioId, haudioId, h⟩ := exists_of_bind_ok h
  obtain ⟨videoId, hvideoId, h⟩ := exists_of_bind_ok h
  have hsection := sectionEntries_eq_ok hfields
  subst hroot hsection
  cases h
  refine ⟨?_, ?_, ?_, ?_⟩
  · rw [readDevices_eq_ok haudio, items_field]
    rfl
  · rw [readDevices_eq_ok hvideo, items_field]
    rfl
  · rw [Value.toTextOrEmpty_eq_ok haudioId, written_field]
    rfl
  · rw [Value.toTextOrEmpty_eq_ok hvideoId, written_field]
    rfl

theorem readFrom_ofDocument {s : Settings} (h : ofDocument path document = .ok s) :
    ReadFrom document s.catalog := by
  unfold ofDocument at h
  obtain ⟨root, hroot, h⟩ := exists_of_bind_ok h
  obtain ⟨_, _, h⟩ := exists_of_bind_ok h
  obtain ⟨_, _, h⟩ := exists_of_bind_ok h
  obtain ⟨block, hblock, h⟩ := exists_of_bind_ok h
  obtain ⟨_, _, h⟩ := exists_of_bind_ok h
  cases h
  exact readCatalog_eq_ok (rootEntries_eq_ok hroot) hblock

theorem entryId_deviceEntry (id name : String) : entryId (deviceEntry id name) = .ok id :=
  Value.toTextOrEmpty_text id

theorem checkIdsFrom_eq_ok {name : String} {index : Nat} {seen ids : List String}
    {entries : List Value} (h : checkIdsFrom name index seen entries = .ok ids) :
    ∃ fresh, entries.mapM entryId = .ok fresh ∧ ids = seen ++ fresh ∧ (∀ id ∈ fresh, id ≠ "") ∧
      (seen.Nodup → ids.Nodup) := by
  -- the ids seen so far grow with the position, so both are generalized
  induction entries generalizing index seen with
  | nil =>
    cases h
    refine ⟨[], rfl, (List.append_nil _).symm, ?_, id⟩
    intro id hid
    cases hid
  | cons entry entries ih =>
    obtain ⟨id, hid, h⟩ := exists_of_bind_ok h
    split at h
    · cases h
    next hne =>
    split at h
    · cases h
    next hnew =>
    obtain ⟨fresh, hfresh, hids, hnonempty, hnodup⟩ := ih h
    have hmapM : (entry :: entries).mapM entryId = .ok (id :: fresh) := by
      rw [List.mapM_cons, bind_ok hid, bind_ok hfresh]
      rfl
    refine ⟨id :: fresh, hmapM, by rw [hids, List.append_assoc]; rfl, ?_, ?_⟩
    · intro other hother
      rcases List.mem_cons.mp hother with rfl | hother
      · simpa using hne
      · exact hnonempty other hother
    · intro hseen
      have hnotin : id ∉ seen := by simpa using hnew
      apply hnodup
      rw [List.nodup_append]
      refine ⟨hseen, by simp, ?_⟩
      intro a ha b hb hab
      rw [List.mem_singleton.mp hb] at hab
      exact hnotin (hab ▸ ha)

theorem checkDefault_eq_ok {name id : String} {known : List String}
    (h : checkDefault name known (.text id) = .ok ()) : id = "" ∨ id ∈ known := by
  unfold checkDefault at h
  rw [bind_ok (Value.toTextOrEmpty_text id)] at h
  split at h
  · next hid => simpa using hid
  · cases h

theorem checkName_eq_ok {name : String} (h : checkName name v = .ok ()) : ∃ s, v = .text s := by
  cases v with
  | text s => exact ⟨s, rfl⟩
  | _ => cases h

theorem checkTextsFrom_eq_ok {name : String} {index : Nat} {vs : List Value}
    (h : checkTextsFrom name index vs = .ok ()) : ∃ texts : List String, vs = texts.map .text := by
  induction vs generalizing index with
  | nil => exact ⟨[], rfl⟩
  | cons v vs ih =>
    cases v with
    | text s =>
      obtain ⟨texts, rfl⟩ := ih h
      exact ⟨s :: texts, rfl⟩
    | _ => cases h

theorem checkTexts_eq_ok {name : String} (h : checkTexts name v = .ok ()) :
    ∃ texts : List String, v = .list (texts.map .text) := by
  cases v with
  | list vs =>
    obtain ⟨texts, rfl⟩ := checkTextsFrom_eq_ok h
    exact ⟨texts, rfl⟩
  | _ => cases h

/-- What the checks say about settings. -/
structure Sound (s : Settings) : Prop where
  level : ∃ key, Level.keyOf s.logLevel = .ok key
  catalogName : ∃ name, s.catalog.backend = .text name
  audio : ∃ ids, checkIds "catalog.audio_devices" s.catalog.audioDevices = .ok ids ∧
    checkDefault "catalog.default_audio_id" ids s.catalog.defaultAudioId = .ok ()
  video : ∃ ids, checkIds "catalog.video_devices" s.catalog.videoDevices = .ok ids ∧
    checkDefault "catalog.default_video_id" ids s.catalog.defaultVideoId = .ok ()
  consentName : ∃ name, s.consent.backend = .text name
  origins : ∃ origins : List String, s.consent.blockedOrigins = .list (origins.map .text)

theorem sound_of_check {s : Settings} (h : s.check = .ok ()) : s.Sound := by
  unfold check at h
  obtain ⟨_, hlevel, h⟩ := exists_of_bind_ok h
  obtain ⟨_, hcatalog, h⟩ := exists_of_bind_ok h
  obtain ⟨audioIds, haudio, h⟩ := exists_of_bind_ok h
  obtain ⟨videoIds, hvideo, h⟩ := exists_of_bind_ok h
  obtain ⟨_, haudioId, h⟩ := exists_of_bind_ok h
  obtain ⟨_, hvideoId, h⟩ := exists_of_bind_ok h
  obtain ⟨_, hconsent, horigins⟩ := exists_of_bind_ok h
  obtain ⟨key, hkey, _⟩ := exists_of_bind_ok hlevel
  exact
    { level := ⟨key, hkey⟩
      catalogName := checkName_eq_ok hcatalog
      audio := ⟨audioIds, haudio, haudioId⟩
      video := ⟨videoIds, hvideo, hvideoId⟩
      consentName := checkName_eq_ok hconsent
      origins := checkTexts_eq_ok horigins }

variable {s : Settings}

theorem Sound.catalogKey (hs : s.Sound) : ∃ key, Registry.keyOf s.catalog.backend = .ok key := by
  obtain ⟨name, hname⟩ := hs.catalogName
  rw [hname]
  exact ⟨_, Registry.keyOf_text name⟩

theorem Sound.consentKey (hs : s.Sound) :
    ∃ key, Registry.keyOf s.consent.backend = .ok key ∧
      s.takesHandler = .ok (key == "handler") := by
  obtain ⟨name, hname⟩ := hs.consentName
  refine ⟨Text.lower (Text.trim name), ?_, takesHandler_text hname⟩
  rw [hname]
  exact Registry.keyOf_text name

theorem Sound.readOrigins (hs : s.Sound) :
    ∃ origins, Consent.readOrigins s.consent = .ok origins := by
  obtain ⟨origins, horigins⟩ := hs.origins
  exact ⟨origins, Consent.readOrigins_texts horigins⟩

theorem deviceOfEntry_deviceEntry (kind : StreamKind) (id name : String) :
    Catalog.deviceOfEntry kind (deviceEntry id name) =
      .ok { kind, id, name := if name = "" then id else name } := by
  have hname : ((Value.text name).orElse (.text id)).toText =
      .ok (if name = "" then id else name) := by
    by_cases h : name = "" <;> simp [Value.orElse, Value.isTruthy, Value.toText_text, h]
  have hid : (Value.entryOrNull [(.text "id", .text id), (.text "name", .text name)]
      "id").toTextOrEmpty = .ok id := Value.toTextOrEmpty_text id
  rw [deviceEntry, Catalog.deviceOfEntry, bind_ok hid]
  exact (bind_ok hname).trans rfl

theorem written_orElse (name : Value) {id : Value} (h : id.written ≠ "") :
    (name.orElse id).written = (if name.isTruthy then name.display else id.display) ∧
      (name.orElse id).written ≠ "" := by
  unfold Value.orElse
  split
  · next hname => exact ⟨if_pos hname, by simp [Value.written_eq_empty_iff, hname]⟩
  · exact ⟨(Value.isTruthy_of_written_ne h).2, h⟩

theorem described_normalEntry (kind : StreamKind) (entry : Value) :
    ∃ id name, normalEntry entry = deviceEntry id name ∧
      (id ≠ "" → entry.described kind = { kind, id, name := if name = "" then id else name }) := by
  let idValue := Value.entryOrNull entry.entries "id"
  let nameValue := Value.entryOrNull entry.entries "name"
  have hmapping : idValue.written ≠ "" →
      ({ kind, id := idValue.display
         name := if nameValue.isTruthy then nameValue.display else idValue.display } : Device) =
        { kind, id := idValue.written
          name := if (nameValue.orElse idValue).written = "" then idValue.written
            else (nameValue.orElse idValue).written } := by
    intro hid
    obtain ⟨hname, hne⟩ := written_orElse nameValue hid
    rw [if_neg hne, hname, (Value.isTruthy_of_written_ne hid).2]
  cases entry with
  | text s => exact ⟨s, s, rfl, fun _ => by simp [Value.described]⟩
  | _ => exact ⟨idValue.written, (nameValue.orElse idValue).written, rfl, hmapping⟩

theorem deviceOfEntry_normalEntry (kind : StreamKind) {id : String}
    (h : entryId (normalEntry entry) = .ok id) (hne : id ≠ "") :
    Catalog.deviceOfEntry kind (normalEntry entry) = .ok (entry.described kind) ∧
      (entry.described kind).id = id := by
  obtain ⟨id', name, hnormal, hdescribed⟩ := described_normalEntry kind entry
  rw [hnormal, entryId_deviceEntry] at h
  cases h
  rw [hnormal, deviceOfEntry_deviceEntry, hdescribed hne]
  exact ⟨rfl, rfl⟩

theorem mapM_deviceOfEntry (kind : StreamKind) {entries : List Value} {ids : List String}
    (h : (entries.map normalEntry).mapM entryId = .ok ids) (hne : ∀ id ∈ ids, id ≠ "") :
    (entries.map normalEntry).mapM (Catalog.deviceOfEntry kind) =
        .ok (entries.map (Value.described kind)) ∧
      (entries.map (Value.described kind)).map (·.id) = ids := by
  induction entries generalizing ids with
  | nil =>
    cases h
    exact ⟨rfl, rfl⟩
  | cons entry entries ih =>
    rw [List.map_cons, List.mapM_cons] at h
    obtain ⟨id, hid, h⟩ := exists_of_bind_ok h
    obtain ⟨rest, hrest, h⟩ := exists_of_bind_ok h
    cases h
    obtain ⟨hdevice, hsame⟩ := deviceOfEntry_normalEntry kind hid (hne id (List.mem_cons_self ..))
    obtain ⟨hdevices, hids⟩ := ih hrest fun other hmem => hne other (List.mem_cons_of_mem _ hmem)
    refine ⟨?_, ?_⟩
    · rw [List.map_cons, List.mapM_cons, bind_ok hdevice, bind_ok hdevices]
      rfl
    · rw [List.map_cons, List.map_cons, hsame, hids]

end Settings

namespace Catalog

theorem findById_self {devices : List Device} (hnodup : (devices.map (·.id)).Nodup)
    {d : Device} (hd : d ∈ devices) (hne : d.id ≠ "") : findById devices d.id = some d := by
  have hfind : devices.find? (·.id == d.id) = some d := by
    induction devices with
    | nil => cases hd
    | cons first rest ih =>
      rw [List.map_cons, List.nodup_cons] at hnodup
      rcases List.mem_cons.mp hd with rfl | hd
      · simp
      · have hother : (first.id == d.id) = false := by
          rw [beq_eq_false_iff_ne]
          intro hsame
          exact hnodup.1 (hsame ▸ List.mem_map_of_mem hd)
        rw [List.find?_cons, hother]
        exact ih hnodup.2 hd
  simp [findById, hne, hfind]

theorem describedBy_of_checked (kind : StreamKind) {entries preference : Value}
    {idsName defaultName : String} {ids : List String}
    (hids : Settings.checkIds idsName (.list (entries.items.map Settings.normalEntry)) = .ok ids)
    (hdefault : Settings.checkDefault defaultName ids (.text preference.written) = .ok ()) :
    ∃ devices,
      devicesOfEntries kind (.list (entries.items.map Settings.normalEntry)) = .ok devices ∧
        DescribedBy kind entries preference devices (findById devices)
          ((findById devices preference.written).or devices.head?) := by
  obtain ⟨fresh, hfresh, hsame, hnonempty, hnodup⟩ := Settings.checkIdsFrom_eq_ok hids
  rw [List.nil_append] at hsame
  subst hsame
  obtain ⟨hdevices, hmap⟩ := Settings.mapM_deviceOfEntry kind hfresh hnonempty
  generalize hlisted : entries.items.map (Value.described kind) = devices at hdevices hmap
  have hfound : ∀ d ∈ devices, findById devices d.id = some d := by
    intro d hd
    have hid : d.id ∈ ids := hmap ▸ List.mem_map_of_mem hd
    exact findById_self (by rw [hmap]; exact hnodup List.nodup_nil) hd (hnonempty _ hid)
  refine ⟨devices, ?_, hlisted.symm, hfound, ?_, ?_⟩
  · rw [devicesOfEntries, bind_ok (members_list _), hdevices]
  · intro htruthy
    have hwritten : preference.written = preference.display := if_pos htruthy
    -- a value that counts as true is written as some text, so the check has looked for it
    have hknown : preference.written ∈ ids := by
      rcases Settings.checkDefault_eq_ok hdefault with hempty | hknown
      · rw [Value.written_eq_empty_iff, htruthy] at hempty
        cases hempty
      · exact hknown
    rw [← hmap] at hknown
    obtain ⟨d, hd, hid⟩ := List.mem_map.mp hknown
    refine ⟨d, hd, hid.trans hwritten, ?_⟩
    rw [← hid, hfound d hd]
    rfl
  · intro hfalse
    rw [Value.written_eq_empty_iff.mpr hfalse]
    rfl

/-- The catalog of a block that was read and checked is what the document describes. -/
theorem exists_ofBlock {document : Value} {s : Settings}
    (hread : Settings.ReadFrom document s.catalog) (hsound : s.Sound) :
    ∃ c, ofBlock s.catalog = .ok c ∧ c.IsOf document := by
  obtain ⟨audioIds, haudioIds, haudioDefault⟩ := hsound.audio
  obtain ⟨videoIds, hvideoIds, hvideoDefault⟩ := hsound.video
  rw [hread.audio] at haudioIds
  rw [hread.video] at hvideoIds
  rw [hread.defaultAudio] at haudioDefault
  rw [hread.defaultVideo] at hvideoDefault
  obtain ⟨audio, haudio, haudioIs⟩ := describedBy_of_checked .deviceAudio haudioIds haudioDefault
  obtain ⟨video, hvideo, hvideoIs⟩ := describedBy_of_checked .deviceVideo hvideoIds hvideoDefault
  let c : Catalog :=
    { audio, video
      defaultAudioId := (document.catalogField "default_audio_id").written
      defaultVideoId := (document.catalogField "default_video_id").written }
  refine ⟨c, ?_, ⟨haudioIs, hvideoIs⟩⟩
  rw [ofBlock, hread.audio, hread.video, hread.defaultAudio, hread.defaultVideo, bind_ok haudio,
    bind_ok hvideo, bind_ok (Value.toTextOrEmpty_text _), bind_ok (Value.toTextOrEmpty_text _)]
  rfl

end Catalog

/-- The catalog of every service that is built from a document which is read and checked, and which
names the static backend, is what the document describes. The catalog can be made, and the service
can be built if the document names an authority of the library. -/
theorem document_catalog (path : String) (document : Value) (s : Settings)
    (hread : Settings.ofDocument path document = .ok s) (hcheck : s.check = .ok ())
    (hstatic : Registry.keyOf s.catalog.backend = .ok "static") (b : Backends) :
    ∃ c, ((Backends.makeCatalog s.catalog).run b).1 = .ok c ∧ c.IsOf document ∧
      (∀ handler o o', ((s.furnish handler o).run b).1 = .ok o' → o'.catalog = c) ∧
      (∀ key kind, b.Own → Registry.keyOf s.consent.backend = .ok key →
        (key, kind) ∈ Backends.ownConsents → ∀ o, ∃ o', ((s.furnish none o).run b).1 = .ok o') := by
  have hsound := Settings.sound_of_check hcheck
  obtain ⟨c, hblock, hc⟩ := Catalog.exists_ofBlock (Settings.readFrom_ofDocument hread) hsound
  obtain ⟨b₁, hbackend, hown⟩ := Backends.run_catalogBackend hstatic b
  have hmade := Backends.run_makeCatalog hblock hbackend
  refine ⟨c, congrArg Prod.fst hmade, hc, ?_, ?_⟩
  · intro handler o o' h
    obtain ⟨catalog, consent, _, _, hcatalog, _, rfl⟩ := Settings.exists_of_furnish_ok h
    rw [hmade] at hcatalog
    cases hcatalog
    rfl
  · intro key kind hb hkey hmem o
    obtain ⟨_, _, htakes⟩ := hsound.consentKey
    obtain ⟨origins, horigins⟩ := hsound.readOrigins
    obtain ⟨b₂, hconsent, _⟩ := Backends.run_consentBackend hmem hkey (hown hb)
    obtain ⟨consent, hauthority⟩ := Backends.authority_ok origins (.inl rfl)
    have hmadeConsent : (Backends.makeConsent s.consent (Option.map some none)).run b₁ =
        (.ok consent, b₂) := by
      rw [Backends.run_makeConsent _ horigins hconsent]
      exact congrArg (·, b₂) hauthority
    have hrun := Settings.run_furnish_of_taken (o := o) (b := b) htakes (.inl rfl)
    rw [Settings.run_assemble hmade hmadeConsent] at hrun
    exact ⟨_, congrArg Prod.fst hrun⟩

/-- An id may be given by any value, and a preference names it by a value of the same text. -/
theorem document_catalog_preferring :
    let fields (id name : Value) : Value := .map [(.text "name", name), (.text "id", id)]
    let document : Value := .map [(.text "catalog", .map [(.text "type", .text " Static"),
      (.text "default_audio_id", .text "True"),
      (.text "audio_devices", .list [.text "mic", fields (.bool true) (.text "Front")])])]
    let s : Settings := { catalog :=
      { backend := .text " Static"
        audioDevices := .list [deviceEntry "mic" "mic", deviceEntry "True" "Front"]
        defaultAudioId := .text "True" } }
    Settings.ofDocument "main_a.yaml" document = .ok s ∧ s.check = .ok () ∧
      Registry.keyOf s.catalog.backend = .ok "static" ∧
      ∃ c, ((Backends.makeCatalog s.catalog).run {}).1 = .ok c ∧
        c.audio = [⟨.deviceAudio, "mic", "mic"⟩, ⟨.deviceAudio, "True", "Front"⟩] ∧
        c.video = [] ∧ ∃ o', ((s.furnish none {}).run {}).1 = .ok o' ∧ o'.catalog = c := by
  intro fields document s
  have hread : Settings.ofDocument "main_a.yaml" document = .ok s := rfl
  have hcheck : s.check = .ok () := eq_ok_of_toOption (by decide +kernel)
  have hstatic : Registry.keyOf s.catalog.backend = .ok "static" :=
    eq_ok_of_toOption (by decide +kernel)
  have hdecline : Registry.keyOf s.consent.backend = .ok "decline" :=
    eq_ok_of_toOption (by decide +kernel)
  obtain ⟨c, hmade, hc, hsame, hbuilt⟩ :=
    document_catalog "main_a.yaml" document s hread hcheck hstatic {}
  obtain ⟨o', ho'⟩ := hbuilt "decline" .decline Backends.own_empty hdecline
    (by simp [Backends.ownConsents]) {}
  exact ⟨hread, hcheck, hstatic, c, hmade, hc.audio.listed, hc.video.listed, o', ho',
    hsame none {} o' ho'⟩

end CaptureArbiter
