import CaptureArbiter.Proofs.Schema

/-!
# Settings written back

What was read from a document is in its final form: a device has an id and a name of its own, a
preference is a text, and everything else is as it was written. So settings that are written back
field by field make a document that is read as the same settings.
-/

namespace CaptureArbiter

namespace Settings

def catalogEntries (block : CatalogBlock) : List (Value × Value) :=
  [(.text "type", block.backend),
    (.text "audio_devices", block.audioDevices),
    (.text "video_devices", block.videoDevices),
    (.text "default_audio_id", block.defaultAudioId),
    (.text "default_video_id", block.defaultVideoId)]

def consentEntries (block : ConsentBlock) : List (Value × Value) :=
  [(.text "type", block.backend), (.text "blocked_origins", block.blockedOrigins)]

def sections (s : Settings) : List (Value × Value) :=
  [(.text "runtime", .map [(.text "log_level", s.logLevel)]),
    (.text "catalog", .map (catalogEntries s.catalog)),
    (.text "consent", .map (consentEntries s.consent))]

/-- The document of three sections in which every field of the settings is written. -/
def toDocument (s : Settings) : Value := .map s.sections

variable {path section_ id name : String} {index : Nat} {entry document : Value} {s : Settings}

theorem exists_deviceEntry (entry : Value) :
    ∃ id name, normalEntry entry = deviceEntry id name ∧ (name = "" → id = "") := by
  have horElse : ∀ v w : Value, (v.orElse w).written = "" → w.written = "" := by
    intro v w h
    unfold Value.orElse at h
    split at h
    · next hv =>
      have hfalse := Value.written_eq_empty_iff.mp h
      rw [hv] at hfalse
      cases hfalse
    · exact h
  -- an entry that is a bare text is id and name at once; any other falls back to its id
  cases entry with
  | text t => exact ⟨t, t, rfl, id⟩
  | _ => exact ⟨_, _, rfl, horElse _ _⟩

theorem readDevice_deviceEntry (h : name = "" → id = "") :
    readDevice section_ path index (deviceEntry id name) = .ok (deviceEntry id name) := by
  have hid : (Value.text id).toTextOrEmpty = .ok id := Value.toTextOrEmpty_text id
  have hname : ((Value.text name).orElse (.text id)).toTextOrEmpty = .ok name := by
    by_cases hempty : name = ""
    · have hboth := h hempty
      subst hempty hboth
      rfl
    · have htruthy : (Value.text name).isTruthy = true := by simp [Value.isTruthy, hempty]
      rw [Value.orElse, if_pos htruthy, Value.toTextOrEmpty_text]
  show (do
    let idText ← (Value.text id).toTextOrEmpty
    return deviceEntry idText (← ((Value.text name).orElse (.text id)).toTextOrEmpty)) =
      Except.ok (deviceEntry id name)
  rw [bind_ok hid, bind_ok hname]
  rfl

theorem readDevicesFrom_normal (entries : List Value) :
    readDevicesFrom section_ path index (entries.map normalEntry) =
      .ok (entries.map normalEntry) := by
  induction entries generalizing index with
  | nil => rfl
  | cons entry entries ih =>
    obtain ⟨id, name, hentry, hname⟩ := exists_deviceEntry entry
    have hdevice : readDevice section_ path index (deviceEntry id name) =
        .ok (deviceEntry id name) := readDevice_deviceEntry hname
    rw [List.map_cons, readDevicesFrom, hentry, bind_ok hdevice, bind_ok ih]
    rfl

theorem readDevices_normal (entries : List Value) :
    readDevices section_ path (.list (entries.map normalEntry)) =
      .ok (.list (entries.map normalEntry)) := by
  rw [readDevices, bind_ok (readDevicesFrom_normal entries)]
  rfl

theorem readRuntime_sections (s : Settings) : readRuntime path s.sections = .ok s.logLevel := by
  have hentries : sectionEntries path "runtime" s.sections =
      .ok [(.text "log_level", s.logLevel)] := rfl
  have hkeys : checkKeys ["log_level"] "runtime" path [(.text "log_level", s.logLevel)] =
      .ok () := rfl
  rw [readRuntime, bind_ok hentries, bind_ok hkeys]
  rfl

theorem readConsent_sections (s : Settings) : readConsent path s.sections = .ok s.consent := by
  have hentries : sectionEntries path "consent" s.sections = .ok (consentEntries s.consent) := rfl
  have hkeys : checkKeys ["type", "blocked_origins"] "consent" path (consentEntries s.consent) =
      .ok () := rfl
  rw [readConsent, bind_ok hentries, bind_ok hkeys]
  rfl

theorem readCatalog_sections (h : ReadFrom document s.catalog) :
    readCatalog path s.sections = .ok s.catalog := by
  have hentries : sectionEntries path "catalog" s.sections = .ok (catalogEntries s.catalog) := rfl
  have hkeys : checkKeys
      ["type", "audio_devices", "video_devices", "default_audio_id", "default_video_id"]
      "catalog" path (catalogEntries s.catalog) = .ok () := rfl
  have haudio : readDevices "catalog.audio_devices" path s.catalog.audioDevices =
      .ok s.catalog.audioDevices := by
    rw [h.audio, readDevices_normal]
  have hvideo : readDevices "catalog.video_devices" path s.catalog.videoDevices =
      .ok s.catalog.videoDevices := by
    rw [h.video, readDevices_normal]
  have hdefaultAudio : s.catalog.defaultAudioId.toTextOrEmpty =
      .ok (document.catalogField "default_audio_id").written := by
    rw [h.defaultAudio, Value.toTextOrEmpty_text]
  have hdefaultVideo : s.catalog.defaultVideoId.toTextOrEmpty =
      .ok (document.catalogField "default_video_id").written := by
    rw [h.defaultVideo, Value.toTextOrEmpty_text]
  rw [readCatalog, bind_ok hentries, bind_ok hkeys]
  show (do
    let audioDevices ← readDevices "catalog.audio_devices" path s.catalog.audioDevices
    let videoDevices ← readDevices "catalog.video_devices" path s.catalog.videoDevices
    let defaultAudioId ← s.catalog.defaultAudioId.toTextOrEmpty
    let defaultVideoId ← s.catalog.defaultVideoId.toTextOrEmpty
    return {
      backend := s.catalog.backend
      audioDevices
      videoDevices
      defaultAudioId := .text defaultAudioId
      defaultVideoId := .text defaultVideoId }) = Except.ok s.catalog
  rw [bind_ok haudio, bind_ok hvideo, bind_ok hdefaultAudio, bind_ok hdefaultVideo,
    ← h.defaultAudio, ← h.defaultVideo]
  rfl

/-- What was read once is read again from what is written of it. -/
theorem ofDocument_toDocument {path' : String} (h : ofDocument path' document = .ok s) :
    ofDocument path s.toDocument = .ok s := by
  have hroot : rootEntries path s.toDocument = .ok s.sections := rfl
  have hkeys : checkKeys ["runtime", "catalog", "consent"] "<root>" path s.sections = .ok () := rfl
  have hcatalog : readCatalog path s.sections = .ok s.catalog :=
    readCatalog_sections (readFrom_ofDocument h)
  rw [ofDocument, bind_ok hroot, bind_ok hkeys, bind_ok (readRuntime_sections s),
    bind_ok hcatalog, bind_ok (readConsent_sections s)]
  rfl

theorem exists_document_of_load {files : Path.Folder Content} {directory : String}
    (h : load files directory = .ok (path, s)) : ∃ document, ofDocument path document = .ok s := by
  obtain ⟨path', _, h⟩ := exists_of_bind_ok h
  obtain ⟨document, _, h⟩ := exists_of_bind_ok h
  obtain ⟨s', hs, h⟩ := exists_of_bind_ok h
  cases h
  exact ⟨document, hs⟩

end Settings

/-- Settings that were loaded from anywhere are loaded as they are from every directory whose one
file holds the document in which they are written. -/
theorem loaded_settings_written_back (files files' : Path.Folder Settings.Content)
    (directory directory' path path' : String) (s : Settings)
    (hload : Settings.load files directory = .ok (path, s))
    (hpath' : Settings.findMain files' directory' = .ok path')
    (hread' : Settings.readMain files' path' = .ok s.toDocument) :
    Settings.load files' directory' = .ok (path', s) := by
  obtain ⟨document, hdocument⟩ := Settings.exists_document_of_load hload
  rw [Settings.load_of_read hpath' hread', Settings.ofDocument_toDocument hdocument]
  rfl

/-- Devices with an id that is no text, without a name and without an id, and a log level that is no
text and stays as it is. -/
theorem loaded_settings_written_back_untyped :
    let document : Value := .map [(.text "consent", .null),
      (.text "catalog", .map [(.text "default_audio_id", .bool true),
        (.text "video_devices", .null),
        (.text "audio_devices", .list [.map [(.text "id", .bool true)], .text "mic",
          .map [(.text "name", .list [.null])]])]),
      (.text "runtime", .map [(.text "log_level", .list [.null])])]
    let devices : Value :=
      .list [deviceEntry "True" "True", deviceEntry "mic" "mic", deviceEntry "" "[None]"]
    let s : Settings :=
      { logLevel := .list [.null]
        catalog := { audioDevices := devices, defaultAudioId := .text "True" } }
    let files : Path.Folder Settings.Content :=
      { files := [(["config", "main_a.yaml"], .document document)] }
    let copies : Path.Folder Settings.Content :=
      { files := [(["copy", "main_b.yml"], .document s.toDocument)] }
    Settings.load files "config" = .ok ("config/main_a.yaml", s) ∧
      Settings.findMain copies "copy" = .ok "copy/main_b.yml" ∧
      Settings.readMain copies "copy/main_b.yml" = .ok s.toDocument ∧
      Settings.load copies "copy" = .ok ("copy/main_b.yml", s) := by
  intro document devices s files copies
  have hpath : Settings.findMain files "config" = .ok "config/main_a.yaml" :=
    eq_ok_of_toOption (by decide +kernel)
  have hread : Settings.readMain files "config/main_a.yaml" = .ok document := rfl
  have hs : Settings.ofDocument "config/main_a.yaml" document = .ok s := rfl
  have hload : Settings.load files "config" = .ok ("config/main_a.yaml", s) := by
    rw [Settings.load_of_read hpath hread, hs]
    rfl
  have hpath' : Settings.findMain copies "copy" = .ok "copy/main_b.yml" :=
    eq_ok_of_toOption (by decide +kernel)
  have hread' : Settings.readMain copies "copy/main_b.yml" = .ok s.toDocument := rfl
  exact ⟨hload, hpath', hread', loaded_settings_written_back files copies "config" "copy"
    "config/main_a.yaml" "copy/main_b.yml" s hload hpath' hread'⟩

end CaptureArbiter
