import CaptureArbiter.Proofs.Faults
import Mathlib.Tactic.MkIffOfInductiveProp

/-!
# The schema of a document

A document is accepted exactly if it has the shape that is written down here: an empty one, or a
mapping of known sections with known fields, whose device lists hold ids and mappings of known
fields only. Nothing else is passed over, whatever stands around it.
-/

namespace CaptureArbiter

namespace Settings

/-- All keys are among the names. -/
def KeysAmong (names : List String) (fields : List (Value × Value)) : Prop :=
  ∀ e ∈ fields, ∃ name ∈ names, e.1 = .text name

inductive IsSection (names : List String) : Value → Prop
  | null : IsSection names .null
  | map {fields : List (Value × Value)} (keys : KeysAmong names fields) :
      IsSection names (.map fields)

inductive IsDeviceEntry : Value → Prop
  | text (id : String) : IsDeviceEntry (.text id)
  | map {fields : List (Value × Value)} (keys : KeysAmong ["id", "name"] fields) :
      IsDeviceEntry (.map fields)

inductive IsDeviceList : Value → Prop
  | null : IsDeviceList .null
  | list {entries : List Value} (each : ∀ entry ∈ entries, IsDeviceEntry entry) :
      IsDeviceList (.list entries)

@[mk_iff]
structure IsCatalogSection (v : Value) : Prop where
  fields : IsSection
    ["type", "audio_devices", "video_devices", "default_audio_id", "default_video_id"] v
  audio : IsDeviceList (Value.entryOrNull v.entries "audio_devices")
  video : IsDeviceList (Value.entryOrNull v.entries "video_devices")

/-- The entries of a root. A section that is missing counts as null. -/
@[mk_iff]
structure IsRoot (root : List (Value × Value)) : Prop where
  keys : KeysAmong ["runtime", "catalog", "consent"] root
  runtime : IsSection ["log_level"] (Value.entryOrNull root "runtime")
  catalog : IsCatalogSection (Value.entryOrNull root "catalog")
  consent : IsSection ["type", "blocked_origins"] (Value.entryOrNull root "consent")

inductive FollowsSchema : Value → Prop
  | empty {document : Value} (h : document.isTruthy = false) : FollowsSchema document
  | map {root : List (Value × Value)} (h : IsRoot root) : FollowsSchema (.map root)

/-- The empty mapping is a root, so every document with the entries of a root may be read as one. -/
theorem isRoot_nil : IsRoot [] where
  keys e he := by cases he
  runtime := .null
  catalog := ⟨.null, .null, .null⟩
  consent := .null

theorem followsSchema_iff {document : Value} : FollowsSchema document ↔
    (document.isTruthy = false ∨ ∃ es, document = .map es) ∧ IsRoot document.entries := by
  constructor
  · intro h
    cases h with
    | empty hfalse =>
      have hentries : document.entries = [] := by
        cases document with
        | map es => simpa [Value.isTruthy, Value.entries] using hfalse
        | _ => rfl
      exact ⟨.inl hfalse, hentries ▸ isRoot_nil⟩
    | map hroot => exact ⟨.inr ⟨_, rfl⟩, hroot⟩
  · rintro ⟨hfalse | ⟨es, rfl⟩, hroot⟩
    · exact .empty hfalse
    · exact .map hroot

end Settings

namespace Settings

variable {α : Type} {path section_ name : String} {document entry v : Value}
  {root fields : List (Value × Value)}

theorem succeeds_checkKeys_iff (known : List String) :
    Succeeds (checkKeys known section_ path fields) ↔ KeysAmong known fields := by
  induction fields with
  | nil => simp [checkKeys, KeysAmong, succeeds_ok]
  | cons e es ih =>
    have hkey : (known.any fun name => Value.sameKey (.text name) e.1) = true ↔
        ∃ name ∈ known, e.1 = .text name := by
      simp [Value.sameKey_text_iff]
    have hkeys : KeysAmong known (e :: es) ↔
        (∃ name ∈ known, e.1 = .text name) ∧ KeysAmong known es := by
      simp [KeysAmong]
    rw [hkeys, ← hkey, ← ih, checkKeys]
    split
    · next h => simp [h]
    · next h => simp [h, not_succeeds_error]

theorem succeeds_sectionEntries_iff :
    Succeeds (sectionEntries path name root) ↔
      Value.entryOrNull root name = .null ∨ ∃ es, Value.entryOrNull root name = .map es := by
  unfold sectionEntries
  cases Value.entryOrNull root name with
  | null => simp [succeeds_ok]
  | map es => simp [succeeds_ok]
  | _ => simp [not_succeeds_error]

theorem isSection_iff {names : List String} :
    IsSection names v ↔ (v = .null ∨ ∃ es, v = .map es) ∧ KeysAmong names v.entries := by
  constructor
  · intro h
    cases h with
    | null => exact ⟨.inl rfl, fun e he => by cases he⟩
    | map keys => exact ⟨.inr ⟨_, rfl⟩, keys⟩
  · rintro ⟨rfl | ⟨es, rfl⟩, hkeys⟩
    · exact .null
    · exact .map hkeys

theorem succeeds_section_iff (known : List String)
    {f : List (Value × Value) → Unit → Except Failure α} :
    Succeeds (sectionEntries path name root >>= fun fields =>
        checkKeys known section_ path fields >>= f fields) ↔
      IsSection known (Value.entryOrNull root name) ∧
        Succeeds (f (Value.entryOrNull root name).entries ()) := by
  have hrest : ∀ fields, sectionEntries path name root = .ok fields →
      (Succeeds (checkKeys known section_ path fields >>= f fields) ↔
        KeysAmong known (Value.entryOrNull root name).entries ∧
          Succeeds (f (Value.entryOrNull root name).entries ())) := by
    intro fields hfields
    rw [← sectionEntries_eq_ok hfields, ← succeeds_checkKeys_iff known]
    exact succeeds_bind_iff_and fun _ _ => Iff.rfl
  rw [succeeds_bind_iff_and hrest, succeeds_sectionEntries_iff, isSection_iff, and_assoc]

theorem succeeds_toTextOrEmpty (hw : v.isWritable = true) : Succeeds v.toTextOrEmpty :=
  ⟨_, Value.toTextOrEmpty_of_writable hw⟩

theorem isDeviceEntry_map_iff : IsDeviceEntry (.map fields) ↔ KeysAmong ["id", "name"] fields := by
  constructor
  · intro h
    cases h with
    | map keys => exact keys
  · exact .map

theorem succeeds_readDevice_iff {index : Nat} (hw : entry.isWritable = true) :
    Succeeds (readDevice section_ path index entry) ↔ IsDeviceEntry entry := by
  cases entry with
  | text s => exact ⟨fun _ => .text s, fun _ => succeeds_ok _⟩
  | map es =>
    have hid := Value.isWritable_entryOrNull hw "id"
    have hname := isWritable_orElse (Value.isWritable_entryOrNull hw "name") hid
    rw [isDeviceEntry_map_iff, ← succeeds_checkKeys_iff]
    apply succeeds_bind_iff_left
    intro _ _
    rw [bind_ok (Value.toTextOrEmpty_of_writable hid),
      bind_ok (Value.toTextOrEmpty_of_writable hname)]
    exact succeeds_ok _
  | _ =>
    refine ⟨fun h => absurd h (not_succeeds_error _), fun h => ?_⟩
    cases h

theorem succeeds_readDevicesFrom_iff {index : Nat} {entries : List Value}
    (hw : Value.areWritable entries = true) :
    Succeeds (readDevicesFrom section_ path index entries) ↔
      ∀ entry ∈ entries, IsDeviceEntry entry := by
  -- the position only names the entry in a failure
  induction entries generalizing index with
  | nil => simp [readDevicesFrom, succeeds_ok]
  | cons entry entries ih =>
    simp only [Value.areWritable, Bool.and_eq_true] at hw
    have hrest : ∀ device : Value, Succeeds (do
        return device :: (← readDevicesFrom section_ path (index + 1) entries)) ↔
          ∀ entry ∈ entries, IsDeviceEntry entry := by
      intro device
      rw [← ih hw.2]
      exact succeeds_bind_iff_left fun _ _ => succeeds_ok _
    rw [List.forall_mem_cons, ← succeeds_readDevice_iff hw.1]
    exact succeeds_bind_iff_and fun device _ => hrest device

theorem isDeviceList_list_iff {entries : List Value} :
    IsDeviceList (.list entries) ↔ ∀ entry ∈ entries, IsDeviceEntry entry := by
  constructor
  · intro h
    cases h with
    | list each => exact each
  · exact .list

theorem succeeds_readDevices_iff (hw : v.isWritable = true) :
    Succeeds (readDevices section_ path v) ↔ IsDeviceList v := by
  cases v with
  | null => exact ⟨fun _ => .null, fun _ => succeeds_ok _⟩
  | list entries =>
    rw [isDeviceList_list_iff, ← succeeds_readDevicesFrom_iff hw]
    exact succeeds_bind_iff_left fun _ _ => succeeds_ok _
  | _ =>
    refine ⟨fun h => absurd h (not_succeeds_error _), fun h => ?_⟩
    cases h

theorem isDeviceList_field_iff :
    IsDeviceList (field fields name (.list [])) ↔ IsDeviceList (Value.entryOrNull fields name) := by
  unfold field Value.entryOrNull
  cases Value.lookup? fields name with
  | none => exact ⟨fun _ => .null, fun _ => .list fun entry he => by cases he⟩
  | some v => exact Iff.rfl

theorem succeeds_deviceField_iff (hw : Value.areEntriesWritable fields = true) :
    Succeeds (readDevices section_ path (field fields name (.list []))) ↔
      IsDeviceList (Value.entryOrNull fields name) := by
  have hwritable : (field fields name (.list [])).isWritable = true :=
    Value.isWritable_lookup hw name rfl
  rw [succeeds_readDevices_iff hwritable, isDeviceList_field_iff]

theorem succeeds_readRuntime_iff :
    Succeeds (readRuntime path root) ↔
      IsSection ["log_level"] (Value.entryOrNull root "runtime") :=
  (succeeds_section_iff _).trans (and_iff_left (succeeds_ok _))

theorem succeeds_readConsent_iff :
    Succeeds (readConsent path root) ↔
      IsSection ["type", "blocked_origins"] (Value.entryOrNull root "consent") :=
  (succeeds_section_iff _).trans (and_iff_left (succeeds_ok _))

theorem succeeds_readCatalog_iff (hw : Value.areEntriesWritable root = true) :
    Succeeds (readCatalog path root) ↔ IsCatalogSection (Value.entryOrNull root "catalog") := by
  have hwritable := areWritable_entries (Value.isWritable_entryOrNull hw "catalog")
  rw [isCatalogSection_iff, ← succeeds_deviceField_iff hwritable,
    ← succeeds_deviceField_iff hwritable]
  refine (succeeds_section_iff _).trans (and_congr_right fun _ => succeeds_bind_iff_and ?_)
  intro audio _
  apply succeeds_bind_iff_left
  intro video _
  have hid : ∀ name, ∃ id,
      (field (Value.entryOrNull root "catalog").entries name (.text "")).toTextOrEmpty = .ok id :=
    fun name => succeeds_toTextOrEmpty (Value.isWritable_lookup hwritable name rfl)
  obtain ⟨audioId, haudioId⟩ := hid "default_audio_id"
  obtain ⟨videoId, hvideoId⟩ := hid "default_video_id"
  rw [bind_ok haudioId, bind_ok hvideoId]
  exact succeeds_ok _

theorem succeeds_rootEntries_iff (path : String) :
    Succeeds (rootEntries path document) ↔
      document.isTruthy = false ∨ ∃ es, document = .map es := by
  unfold rootEntries Value.orElse
  cases hdocument : document.isTruthy with
  | false => simp [succeeds_ok]
  | true =>
    cases document with
    | map es => simp [succeeds_ok]
    | _ => simp [not_succeeds_error]

theorem succeeds_ofDocument_iff (path : String) (hw : document.isWritable = true) :
    Succeeds (ofDocument path document) ↔ FollowsSchema document := by
  rw [followsSchema_iff, isRoot_iff, ← succeeds_rootEntries_iff path]
  apply succeeds_bind_iff_and
  intro root hread
  have hwritable := areWritable_root hw hread
  rw [← rootEntries_eq_ok hread, ← succeeds_checkKeys_iff, ← succeeds_readRuntime_iff,
    ← succeeds_readCatalog_iff hwritable, ← succeeds_readConsent_iff]
  -- the sections are read one after the other, and each is read whatever the others held
  apply succeeds_bind_iff_and
  intro _ _
  apply succeeds_bind_iff_and
  intro _ _
  apply succeeds_bind_iff_and
  intro _ _
  exact succeeds_bind_iff_left fun _ _ => succeeds_ok _

theorem load_of_read {files : Path.Folder Content} {directory : String}
    (hpath : findMain files directory = .ok path) (hread : readMain files path = .ok document) :
    load files directory = (ofDocument path document).map fun s => (path, s) := by
  rw [load, bind_ok hpath, bind_ok hread]
  cases ofDocument path document <;> rfl

end Settings

/-- Settings are loaded from the one file of a directory exactly if its document follows the schema,
and every other document is a fault of the configuration. -/
theorem load_accepts_schema (files : Path.Folder Settings.Content) (directory path : String)
    (document : Value) (hpath : Settings.findMain files directory = .ok path)
    (hread : Settings.readMain files path = .ok document) (hw : document.isWritable = true) :
    ((∃ s, Settings.load files directory = .ok (path, s)) ↔ Settings.FollowsSchema document) ∧
      (¬Settings.FollowsSchema document →
        ∃ e, Settings.load files directory = .error e ∧ e.kind = .configuration) := by
  have hload := Settings.load_of_read hpath hread
  have hiff := Settings.succeeds_ofDocument_iff path hw
  refine ⟨?_, ?_⟩
  · rw [← hiff, hload]
    constructor
    · rintro ⟨s, hs⟩
      obtain ⟨read, hread, _⟩ := map_eq_ok_iff.mp hs
      exact ⟨read, hread⟩
    · rintro ⟨s, hs⟩
      exact ⟨s, map_eq_ok_iff.mpr ⟨s, hs, rfl⟩⟩
  · intro hnot
    rw [← hiff] at hnot
    obtain ⟨e, he, hkind⟩ := (Settings.failsOnly_ofDocument path hw).exists_of_not_succeeds hnot
    refine ⟨e, ?_, hkind⟩
    rw [hload, he]
    rfl

/-- One unknown key of the second entry of a list is enough. -/
theorem load_accepts_schema_misnamed :
    let device (key : String) : Value :=
      .map [(.text "id", .text "cam"), (.text key, .text "Front")]
    let document (key : String) : Value := .map [(.text "catalog",
      .map [(.text "video_devices", .list [.text "hdmi", device key])])]
    let files (key : String) : Path.Folder Settings.Content :=
      { files := [(["config", "main_a.yaml"], .document (document key))] }
    Settings.FollowsSchema (document "name") ∧ ¬Settings.FollowsSchema (document "label") ∧
      (∃ s, Settings.load (files "name") "config" = .ok ("config/main_a.yaml", s)) ∧
      ∃ e, Settings.load (files "label") "config" = .error e ∧ e.kind = .configuration := by
  intro device document files
  have hnamed : Settings.FollowsSchema (document "name") := by
    have hdevice : Settings.IsDeviceEntry (device "name") := .map (by simp [Settings.KeysAmong])
    have hlist : Settings.IsDeviceList (.list [.text "hdmi", device "name"]) :=
      .list (by simp [Settings.IsDeviceEntry.text, hdevice])
    have hcatalog : Settings.IsCatalogSection
        (.map [(.text "video_devices", .list [.text "hdmi", device "name"])]) :=
      ⟨.map (by simp [Settings.KeysAmong]), .null, hlist⟩
    exact .map ⟨by simp [Settings.KeysAmong], .null, hcatalog, .null⟩
  have hlabelled : ¬Settings.FollowsSchema (document "label") := by
    intro h
    cases h with
    | empty hfalse => cases hfalse
    | map hroot =>
      have hlist : Settings.IsDeviceList (.list [.text "hdmi", device "label"]) :=
        hroot.catalog.video
      cases hlist with
      | list each =>
        have hdevice := each (device "label") (by simp)
        cases hdevice with
        | map keys => simpa using keys (.text "label", .text "Front") (by simp)
  have hpath : Settings.findMain (files "name") "config" = .ok "config/main_a.yaml" :=
    eq_ok_of_toOption (by decide +kernel)
  have hother : Settings.findMain (files "label") "config" = .ok "config/main_a.yaml" :=
    eq_ok_of_toOption (by decide +kernel)
  obtain ⟨haccepts, _⟩ := load_accepts_schema (files "name") "config" _ _ hpath rfl rfl
  obtain ⟨_, hrefuses⟩ := load_accepts_schema (files "label") "config" _ _ hother rfl rfl
  exact ⟨hnamed, hlabelled, haccepts.mpr hnamed, hrefuses hlabelled⟩

end CaptureArbiter
