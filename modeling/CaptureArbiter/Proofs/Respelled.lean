import CaptureArbiter.Proofs.Schema
import Mathlib.Data.List.Forall2

/-!
# Respelled documents

A configuration can be written down in several ways: keys in another order, a device as a mere id or
as a mapping, and sections, device lists and preferences left out, null or empty. Documents that
differ in nothing else are read as the same settings, or none of them is read.
-/

namespace CaptureArbiter

namespace Settings

/-- The keys of two mappings are the same besides the given ones, in any order. -/
def SameOtherKeys (names : List String) (es es' : List (Value × Value)) : Prop :=
  ∀ key, (∀ name ∈ names, key ≠ .text name) → (key ∈ es.map Prod.fst ↔ key ∈ es'.map Prod.fst)

/-- Two mappings with the same keys and, under the given ones, the same values. -/
structure SameFields (names : List String) (es es' : List (Value × Value)) : Prop where
  others : SameOtherKeys names es es'
  values : ∀ name ∈ names, Value.lookup? es name = Value.lookup? es' name

/-- An entry of a device list for a device whose name is its id. -/
inductive SpellsDevice (id : String) : Value → Prop
  | text : SpellsDevice id (.text id)
  | map {fields : List (Value × Value)} (keys : KeysAmong ["id", "name"] fields)
      (hid : Value.lookup? fields "id" = some (.text id))
      (hname : Value.lookup? fields "name" = none ∨ Value.lookup? fields "name" = some (.text id)) :
      SpellsDevice id (.map fields)

inductive SameDevice : Value → Value → Prop
  | same (entry : Value) : SameDevice entry entry
  | reordered {fields fields' : List (Value × Value)}
      (h : SameFields ["id", "name"] fields fields') : SameDevice (.map fields) (.map fields')
  | respelled {id : String} {entry entry' : Value} (h : SpellsDevice id entry)
      (h' : SpellsDevice id entry') : SameDevice entry entry'

/-- The entries of a field for devices. A field that is missing or null has none. -/
inductive ListsDevices : Option Value → List Value → Prop
  | missing : ListsDevices none []
  | null : ListsDevices (some .null) []
  | list (entries : List Value) : ListsDevices (some (.list entries)) entries

inductive SameDevices : Option Value → Option Value → Prop
  | same (v : Option Value) : SameDevices v v
  | lists {v v' : Option Value} {entries entries' : List Value} (h : ListsDevices v entries)
      (h' : ListsDevices v' entries') (each : List.Forall₂ SameDevice entries entries') :
      SameDevices v v'

/-- A preference that is missing, null or empty. -/
inductive IsNoPreference : Option Value → Prop
  | missing : IsNoPreference none
  | null : IsNoPreference (some .null)
  | empty : IsNoPreference (some (.text ""))

inductive SamePreference : Option Value → Option Value → Prop
  | same (v : Option Value) : SamePreference v v
  | none {v v' : Option Value} (h : IsNoPreference v) (h' : IsNoPreference v') : SamePreference v v'

structure SameCatalog (es es' : List (Value × Value)) : Prop where
  others : SameOtherKeys
    ["type", "audio_devices", "video_devices", "default_audio_id", "default_video_id"] es es'
  backend : Value.lookup? es "type" = Value.lookup? es' "type"
  audio : SameDevices (Value.lookup? es "audio_devices") (Value.lookup? es' "audio_devices")
  video : SameDevices (Value.lookup? es "video_devices") (Value.lookup? es' "video_devices")
  defaultAudio :
    SamePreference (Value.lookup? es "default_audio_id") (Value.lookup? es' "default_audio_id")
  defaultVideo :
    SamePreference (Value.lookup? es "default_video_id") (Value.lookup? es' "default_video_id")

/-- The entries of a section. A section that is missing or null has none. -/
inductive HasEntries : Option Value → List (Value × Value) → Prop
  | missing : HasEntries none []
  | null : HasEntries (some .null) []
  | map (es : List (Value × Value)) : HasEntries (some (.map es)) es

inductive SameSection (same : List (Value × Value) → List (Value × Value) → Prop) :
    Option Value → Option Value → Prop
  | same (v : Option Value) : SameSection same v v
  | entries {v v' : Option Value} {es es' : List (Value × Value)} (h : HasEntries v es)
      (h' : HasEntries v' es') (hsame : same es es') : SameSection same v v'

structure SameRoot (root root' : List (Value × Value)) : Prop where
  others : SameOtherKeys ["runtime", "catalog", "consent"] root root'
  runtime : SameSection (SameFields ["log_level"])
    (Value.lookup? root "runtime") (Value.lookup? root' "runtime")
  catalog : SameSection SameCatalog
    (Value.lookup? root "catalog") (Value.lookup? root' "catalog")
  consent : SameSection (SameFields ["type", "blocked_origins"])
    (Value.lookup? root "consent") (Value.lookup? root' "consent")

/-- Two documents that differ only in the order of keys, in how a device is written whose name is
its id, and in whether a section, a device list or a preference is missing, null or empty. -/
inductive SameDocument : Value → Value → Prop
  | same (document : Value) : SameDocument document document
  | root {root root' : List (Value × Value)} (h : SameRoot root root') :
      SameDocument (.map root) (.map root')

variable {names : List String} {es es' : List (Value × Value)} {v v' : Option Value}
  {entry entry' document document' : Value} {entries entries' : List Value}

theorem SameOtherKeys.of_perm (h : es.Perm es') : SameOtherKeys names es es' :=
  fun _ _ => (h.map _).mem_iff

theorem SameOtherKeys.of_keysAmong (h : KeysAmong names es) (h' : KeysAmong names es') :
    SameOtherKeys names es es' := by
  have hnone : ∀ {fields key}, KeysAmong names fields → (∀ name ∈ names, key ≠ .text name) →
      key ∉ fields.map Prod.fst := by
    intro fields key hknown hother hkey
    obtain ⟨e, he, rfl⟩ := List.mem_map.mp hkey
    obtain ⟨name, hname, heq⟩ := hknown e he
    exact hother name hname heq
  exact fun key hother => iff_of_false (hnone h hother) (hnone h' hother)

theorem SameFields.of_perm (h : es.Perm es') (hkeys : (es.map Prod.fst).Nodup) :
    SameFields names es es' :=
  ⟨.of_perm h, fun name _ => Value.lookup?_eq_of_perm h hkeys name⟩

theorem keysAmong_iff_forall_keys :
    KeysAmong names es ↔ ∀ key ∈ es.map Prod.fst, ¬∀ name ∈ names, key ≠ .text name := by
  simp [KeysAmong]

theorem SameOtherKeys.keysAmong_iff (h : SameOtherKeys names es es') :
    KeysAmong names es ↔ KeysAmong names es' := by
  rw [keysAmong_iff_forall_keys, keysAmong_iff_forall_keys]
  constructor
  · intro hall key hkey hother
    exact hall key ((h key hother).mpr hkey) hother
  · intro hall key hkey hother
    exact hall key ((h key hother).mp hkey) hother

theorem HasEntries.entries_eq (h : HasEntries v es) : (v.getD .null).entries = es := by
  cases h <;> rfl

theorem HasEntries.isSection_iff (h : HasEntries v es) :
    IsSection names (v.getD .null) ↔ KeysAmong names es := by
  have hshape : v.getD .null = .null ∨ ∃ fields, v.getD .null = .map fields := by
    cases h with
    | missing => exact .inl rfl
    | null => exact .inl rfl
    | map es => exact .inr ⟨es, rfl⟩
  rw [Settings.isSection_iff, h.entries_eq, and_iff_right hshape]

theorem SameSection.isSection_iff {same : List (Value × Value) → List (Value × Value) → Prop}
    (hothers : ∀ {es es'}, same es es' → SameOtherKeys names es es') (h : SameSection same v v') :
    IsSection names (v.getD .null) ↔ IsSection names (v'.getD .null) := by
  cases h with
  | same => rfl
  | entries h h' hsame => rw [h.isSection_iff, h'.isSection_iff, (hothers hsame).keysAmong_iff]

theorem SpellsDevice.isDeviceEntry {id : String} (h : SpellsDevice id entry) :
    IsDeviceEntry entry := by
  cases h with
  | text => exact .text id
  | map keys => exact .map keys

theorem SameDevice.isDeviceEntry_iff (h : SameDevice entry entry') :
    IsDeviceEntry entry ↔ IsDeviceEntry entry' := by
  cases h with
  | same => rfl
  | reordered h => rw [isDeviceEntry_map_iff, isDeviceEntry_map_iff, h.others.keysAmong_iff]
  | respelled h h' => exact iff_of_true h.isDeviceEntry h'.isDeviceEntry

theorem ListsDevices.isDeviceList_iff (h : ListsDevices v entries) :
    IsDeviceList (v.getD .null) ↔ ∀ entry ∈ entries, IsDeviceEntry entry := by
  cases h with
  | missing => exact iff_of_true .null nofun
  | null => exact iff_of_true .null nofun
  | list => exact Settings.isDeviceList_list_iff

theorem SameDevices.isDeviceList_iff (h : SameDevices v v') :
    IsDeviceList (v.getD .null) ↔ IsDeviceList (v'.getD .null) := by
  cases h with
  | same => rfl
  | lists h h' each =>
    rw [h.isDeviceList_iff, h'.isDeviceList_iff]
    -- the lists are compared entry by entry, wherever they come from
    clear h h'
    induction each with
    | nil => rfl
    | cons hentry _ ih =>
      rw [List.forall_mem_cons, List.forall_mem_cons, hentry.isDeviceEntry_iff, ih]

theorem SameSection.isCatalogSection_iff (h : SameSection SameCatalog v v') :
    IsCatalogSection (v.getD .null) ↔ IsCatalogSection (v'.getD .null) := by
  have hfields := h.isSection_iff SameCatalog.others
  cases h with
  | same => rfl
  | entries h h' hsame =>
    rw [Settings.isCatalogSection_iff, Settings.isCatalogSection_iff, hfields, h.entries_eq,
      h'.entries_eq]
    exact and_congr_right fun _ =>
      and_congr hsame.audio.isDeviceList_iff hsame.video.isDeviceList_iff

theorem SameRoot.isRoot_iff {root root' : List (Value × Value)} (h : SameRoot root root') :
    IsRoot root ↔ IsRoot root' := by
  rw [Settings.isRoot_iff, Settings.isRoot_iff, h.others.keysAmong_iff]
  exact and_congr_right fun _ => and_congr (h.runtime.isSection_iff SameFields.others)
    (and_congr h.catalog.isCatalogSection_iff (h.consent.isSection_iff SameFields.others))

theorem SameDocument.followsSchema_iff (h : SameDocument document document') :
    FollowsSchema document ↔ FollowsSchema document' := by
  cases h with
  | same => rfl
  | root h =>
    rw [Settings.followsSchema_iff, Settings.followsSchema_iff, and_iff_right (.inr ⟨_, rfl⟩),
      and_iff_right (.inr ⟨_, rfl⟩)]
    exact h.isRoot_iff

def catalogReading (es : List (Value × Value)) : CatalogBlock :=
  let devices (name : String) := (Value.entryOrNull es name).items.map normalEntry
  { backend := field es "type" (.text "static")
    audioDevices := .list (devices "audio_devices")
    videoDevices := .list (devices "video_devices")
    defaultAudioId := .text (Value.entryOrNull es "default_audio_id").written
    defaultVideoId := .text (Value.entryOrNull es "default_video_id").written }

def consentReading (es : List (Value × Value)) : ConsentBlock :=
  { backend := field es "type" (.text "decline")
    blockedOrigins := field es "blocked_origins" (.list []) }

/-- What is read from a document, if it is accepted. -/
def reading (document : Value) : Settings :=
  let entries (name : String) := (Value.entryOrNull document.entries name).entries
  { logLevel := field (entries "runtime") "log_level" (.text "info")
    catalog := catalogReading (entries "catalog")
    consent := consentReading (entries "consent") }

theorem readRuntime_eq_ok {path : String} {root : List (Value × Value)} {level : Value}
    (h : readRuntime path root = .ok level) :
    level = field (Value.entryOrNull root "runtime").entries "log_level" (.text "info") := by
  obtain ⟨fields, hfields, h⟩ := exists_of_bind_ok h
  obtain ⟨_, _, h⟩ := exists_of_bind_ok h
  cases h
  rw [sectionEntries_eq_ok hfields]

theorem readCatalog_backend {path : String} {root : List (Value × Value)} {block : CatalogBlock}
    (h : readCatalog path root = .ok block) :
    block.backend = field (Value.entryOrNull root "catalog").entries "type" (.text "static") := by
  obtain ⟨fields, hfields, h⟩ := exists_of_bind_ok h
  obtain ⟨_, _, h⟩ := exists_of_bind_ok h
  obtain ⟨_, _, h⟩ := exists_of_bind_ok h
  obtain ⟨_, _, h⟩ := exists_of_bind_ok h
  obtain ⟨_, _, h⟩ := exists_of_bind_ok h
  obtain ⟨_, _, h⟩ := exists_of_bind_ok h
  cases h
  rw [sectionEntries_eq_ok hfields]

theorem readConsent_eq_ok {path : String} {root : List (Value × Value)} {block : ConsentBlock}
    (h : readConsent path root = .ok block) :
    block = consentReading (Value.entryOrNull root "consent").entries := by
  obtain ⟨fields, hfields, h⟩ := exists_of_bind_ok h
  obtain ⟨_, _, h⟩ := exists_of_bind_ok h
  cases h
  rw [sectionEntries_eq_ok hfields]
  rfl

theorem eq_reading_of_ofDocument {path : String} {s : Settings}
    (h : ofDocument path document = .ok s) : s = reading document := by
  obtain ⟨haudio, hvideo, hdefaultAudio, hdefaultVideo⟩ := readFrom_ofDocument h
  unfold ofDocument at h
  obtain ⟨root, hroot, h⟩ := exists_of_bind_ok h
  obtain ⟨_, _, h⟩ := exists_of_bind_ok h
  obtain ⟨logLevel, hlevel, h⟩ := exists_of_bind_ok h
  obtain ⟨catalog, hcatalog, h⟩ := exists_of_bind_ok h
  obtain ⟨consent, hconsent, h⟩ := exists_of_bind_ok h
  cases h
  have hbackend := readCatalog_backend hcatalog
  cases rootEntries_eq_ok hroot
  cases catalog
  cases readRuntime_eq_ok hlevel
  cases readConsent_eq_ok hconsent
  dsimp only at haudio hvideo hdefaultAudio hdefaultVideo hbackend
  rw [haudio, hvideo, hdefaultAudio, hdefaultVideo, hbackend]
  rfl

theorem SpellsDevice.normalEntry_eq {id : String} (h : SpellsDevice id entry) :
    normalEntry entry = deviceEntry id id := by
  -- an empty id counts as false, and is written as the empty text all the same
  have hwritten : (Value.text id).written = id := by
    by_cases hid : id = "" <;> simp [Value.written, Value.isTruthy, Value.display_text, hid]
  cases h with
  | text => rfl
  | @map fields _ hid hname =>
    have hidValue : Value.entryOrNull fields "id" = .text id := by rw [Value.entryOrNull, hid]; rfl
    have hnameWritten :
        ((Value.entryOrNull fields "name").orElse (.text id)).written = id := by
      rcases hname with hname | hname
      · rw [Value.entryOrNull, hname]
        exact hwritten
      · rw [Value.entryOrNull, hname]
        unfold Value.orElse
        split <;> exact hwritten
    simp only [normalEntry, Value.entries, hidValue, hnameWritten, hwritten]

theorem SameDevice.normalEntry_eq (h : SameDevice entry entry') :
    normalEntry entry = normalEntry entry' := by
  cases h with
  | same => rfl
  | reordered h =>
    have hvalue : ∀ name ∈ ["id", "name"], Value.entryOrNull _ name = Value.entryOrNull _ name :=
      fun name hname => congrArg (·.getD .null) (h.values name hname)
    simp only [normalEntry, Value.entries, hvalue "id" (by simp), hvalue "name" (by simp)]
  | respelled h h' => rw [h.normalEntry_eq, h'.normalEntry_eq]

theorem SamePreference.written_eq (h : SamePreference v v') :
    (v.getD .null).written = (v'.getD .null).written := by
  have hempty : ∀ {w}, IsNoPreference w → (w.getD .null).written = "" := by
    intro w hw
    cases hw <;> rfl
  cases h with
  | same => rfl
  | none h h' => rw [hempty h, hempty h']

theorem SameDevices.items_eq (h : SameDevices v v') :
    (v.getD .null).items.map normalEntry = (v'.getD .null).items.map normalEntry := by
  have hitems : ∀ {w entries}, ListsDevices w entries → (w.getD .null).items = entries := by
    intro w entries hw
    cases hw <;> rfl
  cases h with
  | same => rfl
  | lists h h' each =>
    rw [hitems h, hitems h']
    clear h h'
    induction each with
    | nil => rfl
    | cons hentry _ ih => rw [List.map_cons, List.map_cons, hentry.normalEntry_eq, ih]

theorem SameSection.same_entries {same : List (Value × Value) → List (Value × Value) → Prop}
    (hrefl : ∀ es, same es es) (h : SameSection same v v') :
    same (v.getD .null).entries (v'.getD .null).entries := by
  cases h with
  | same => exact hrefl _
  | entries h h' hsame => rwa [h.entries_eq, h'.entries_eq]

theorem SameFields.refl (names : List String) (es : List (Value × Value)) :
    SameFields names es es :=
  ⟨fun _ _ => Iff.rfl, fun _ _ => rfl⟩

theorem SameCatalog.refl (es : List (Value × Value)) : SameCatalog es es :=
  ⟨fun _ _ => Iff.rfl, rfl, .same _, .same _, .same _, .same _⟩

theorem SameFields.field_eq (h : SameFields names es es') {name : String} (hname : name ∈ names)
    (default : Value) : field es name default = field es' name default :=
  congrArg (·.getD default) (h.values name hname)

theorem SameCatalog.catalogReading_eq (h : SameCatalog es es') :
    catalogReading es = catalogReading es' := by
  have hbackend : field es "type" _ = field es' "type" _ :=
    congrArg (·.getD (.text "static")) h.backend
  simp only [catalogReading, Value.entryOrNull, hbackend, h.audio.items_eq, h.video.items_eq,
    h.defaultAudio.written_eq, h.defaultVideo.written_eq]

theorem SameFields.consentReading_eq (h : SameFields ["type", "blocked_origins"] es es') :
    consentReading es = consentReading es' := by
  rw [consentReading, consentReading, h.field_eq (.head _), h.field_eq (.tail _ (.head _))]

theorem SameDocument.reading_eq (h : SameDocument document document') :
    reading document = reading document' := by
  cases h with
  | same => rfl
  | @root root root' h =>
    have hruntime := h.runtime.same_entries (SameFields.refl _)
    have hcatalog := h.catalog.same_entries SameCatalog.refl
    have hconsent := h.consent.same_entries (SameFields.refl _)
    rw [reading, reading, Settings.mk.injEq]
    exact ⟨hruntime.field_eq (.head _) _, hcatalog.catalogReading_eq, hconsent.consentReading_eq⟩

end Settings

/-- Two documents that differ only in how they are spelled, each in the one file of a directory, are
loaded as the same settings, or both are a fault of the configuration. -/
theorem load_ignores_spelling (files files' : Path.Folder Settings.Content)
    (directory directory' path path' : String) (document document' : Value)
    (hpath : Settings.findMain files directory = .ok path)
    (hpath' : Settings.findMain files' directory' = .ok path')
    (hread : Settings.readMain files path = .ok document)
    (hread' : Settings.readMain files' path' = .ok document')
    (hw : document.isWritable = true) (hw' : document'.isWritable = true)
    (hsame : Settings.SameDocument document document') :
    (∃ s, Settings.load files directory = .ok (path, s) ∧
      Settings.load files' directory' = .ok (path', s)) ∨
    ∃ e e', Settings.load files directory = .error e ∧ Settings.load files' directory' = .error e' ∧
      e.kind = .configuration ∧ e'.kind = .configuration := by
  rw [Settings.load_of_read hpath hread, Settings.load_of_read hpath' hread']
  have hiff := Settings.succeeds_ofDocument_iff path hw
  have hiff' := Settings.succeeds_ofDocument_iff path' hw'
  by_cases hschema : Settings.FollowsSchema document
  · obtain ⟨s, hs⟩ := hiff.mpr hschema
    obtain ⟨s', hs'⟩ := hiff'.mpr (hsame.followsSchema_iff.mp hschema)
    have heq : s = s' := by
      rw [Settings.eq_reading_of_ofDocument hs, Settings.eq_reading_of_ofDocument hs',
        hsame.reading_eq]
    rw [hs, hs', ← heq]
    exact .inl ⟨s, rfl, rfl⟩
  · have hschema' : ¬Settings.FollowsSchema document' := by rwa [← hsame.followsSchema_iff]
    rw [← hiff] at hschema
    rw [← hiff'] at hschema'
    obtain ⟨e, he, hkind⟩ := (Settings.failsOnly_ofDocument path hw).exists_of_not_succeeds hschema
    obtain ⟨e', he', hkind'⟩ :=
      (Settings.failsOnly_ofDocument path' hw').exists_of_not_succeeds hschema'
    rw [he, he']
    exact .inr ⟨e, e', rfl, rfl, hkind, hkind'⟩

/-- One document spells out what the other leaves out, and writes keys in another order. -/
theorem load_ignores_spelling_reordered :
    let id (s : String) : Value × Value := (.text "id", .text s)
    let name (s : String) : Value × Value := (.text "name", .text s)
    let brief : List (Value × Value) := [
      (.text "audio_devices", .list [.text "mic", .map [id "usb", name "USB"]]),
      (.text "default_audio_id", .text "usb")]
    let full : List (Value × Value) := [
      (.text "default_video_id", .null),
      (.text "default_audio_id", .text "usb"),
      (.text "video_devices", .list []),
      (.text "audio_devices", .list [.map [name "mic", id "mic"], .map [name "USB", id "usb"]])]
    let shorter : Value := .map [(.text "catalog", .map brief), (.text "consent", .null)]
    let longer : Value := .map [(.text "runtime", .map []), (.text "catalog", .map full)]
    let files (document : Value) : Path.Folder Settings.Content :=
      { files := [(["config", "main_a.yaml"], .document document)] }
    ∃ s, Settings.load (files shorter) "config" = .ok ("config/main_a.yaml", s) ∧
      Settings.load (files longer) "config" = .ok ("config/main_a.yaml", s) := by
  intro id name brief full shorter longer files
  have hmic : Settings.SameDevice (.text "mic") (.map [name "mic", id "mic"]) :=
    .respelled .text (.map (by simp [Settings.KeysAmong, id, name]) rfl (.inr rfl))
  have husb : Settings.SameDevice (.map [id "usb", name "USB"]) (.map [name "USB", id "usb"]) :=
    .reordered (.of_perm (.swap _ _ _) (by simp [id, name]))
  have hcatalog : Settings.SameCatalog brief full :=
    { others :=
        .of_keysAmong (by simp [Settings.KeysAmong, brief]) (by simp [Settings.KeysAmong, full])
      backend := rfl
      audio := .lists (.list _) (.list _) (.cons hmic (.cons husb .nil))
      video := .lists .missing (.list []) .nil
      defaultAudio := .same _
      defaultVideo := .none .missing .null }
  have hsame : Settings.SameDocument shorter longer := .root
    { others := .of_keysAmong (by simp [Settings.KeysAmong]) (by simp [Settings.KeysAmong])
      runtime := .entries .missing (.map []) (.refl _ _)
      catalog := .entries (.map _) (.map _) hcatalog
      consent := .entries .null .missing (.refl _ _) }
  have hpath : Settings.findMain (files shorter) "config" = .ok "config/main_a.yaml" :=
    eq_ok_of_toOption (by decide +kernel)
  have hpath' : Settings.findMain (files longer) "config" = .ok "config/main_a.yaml" :=
    eq_ok_of_toOption (by decide +kernel)
  rcases load_ignores_spelling (files shorter) (files longer) "config" "config" _ _ _ _ hpath hpath'
    rfl rfl rfl rfl hsame with h | ⟨e, _, he, _⟩
  · exact h
  · have hok : (Settings.load (files shorter) "config").toOption.isSome = true := by decide +kernel
    rw [he] at hok
    cases hok

end CaptureArbiter
