import CaptureArbiter.CommandLine.Run
import CaptureArbiter.Proofs.Documents

/-!
# Faults of configurations

Whatever a document holds, reading and checking it fails as a fault of the configuration or not at
all, as long as its integers can be written. Settings that pass the checks give a service or a bad
value, with or without a handler. So the command line ends with a status on every document.
-/

namespace CaptureArbiter

open Act

namespace Settings

variable {path section_ name : String} {document entry v : Value}
  {root fields : List (Value × Value)}

theorem failsOnly_rootEntries (path : String) (document : Value) :
    FailsOnly .configuration (rootEntries path document) := by
  unfold rootEntries
  split
  · exact .ok _
  · exact .error rfl

theorem areWritable_entries (hw : v.isWritable = true) :
    Value.areEntriesWritable v.entries = true := by
  cases v with
  | map es => exact hw
  | _ => rfl

theorem areWritable_root (hw : document.isWritable = true)
    (h : rootEntries path document = .ok root) : Value.areEntriesWritable root = true := by
  rw [rootEntries_eq_ok h]
  exact areWritable_entries hw

theorem failsOnly_checkKeys (known : List String) (section_ path : String)
    (hw : Value.areEntriesWritable fields = true) :
    FailsOnly .configuration (checkKeys known section_ path fields) := by
  induction fields with
  | nil => exact .ok ()
  | cons e es ih =>
    simp only [Value.areEntriesWritable, Bool.and_eq_true] at hw
    unfold checkKeys
    split
    · exact ih hw.2
    · rw [Value.checked, if_pos hw.1.1]
      exact .error rfl

theorem failsOnly_sectionEntries (path name : String) (root : List (Value × Value)) :
    FailsOnly .configuration (sectionEntries path name root) := by
  unfold sectionEntries
  split
  · exact .ok _
  · exact .ok _
  · exact .error rfl

theorem areWritable_section (hw : Value.areEntriesWritable root = true)
    (h : sectionEntries path name root = .ok fields) : Value.areEntriesWritable fields = true := by
  rw [sectionEntries_eq_ok h]
  exact areWritable_entries (Value.isWritable_entryOrNull hw name)

theorem isWritable_orElse {other : Value} (hv : v.isWritable = true)
    (hother : other.isWritable = true) : (v.orElse other).isWritable = true := by
  unfold Value.orElse
  split
  · exact hv
  · exact hother

theorem failsOnly_readDevice (section_ path : String) (index : Nat) (hw : entry.isWritable = true) :
    FailsOnly .configuration (readDevice section_ path index entry) := by
  unfold readDevice
  cases entry with
  | text s => exact .ok _
  | map es =>
    have hid := Value.isWritable_entryOrNull hw "id"
    have hname := isWritable_orElse (Value.isWritable_entryOrNull hw "name") hid
    apply FailsOnly.bind (failsOnly_checkKeys _ _ _ hw)
    intro _ _
    apply FailsOnly.bind (.of_ok (Value.toTextOrEmpty_of_writable hid))
    intro _ _
    apply FailsOnly.bind (.of_ok (Value.toTextOrEmpty_of_writable hname))
    intro _ _
    exact .ok _
  | _ => exact .error rfl

theorem failsOnly_readDevicesFrom (section_ path : String) (index : Nat) {entries : List Value}
    (hw : Value.areWritable entries = true) :
    FailsOnly .configuration (readDevicesFrom section_ path index entries) := by
  induction entries generalizing index with
  | nil => exact .ok _
  | cons entry entries ih =>
    simp only [Value.areWritable, Bool.and_eq_true] at hw
    apply FailsOnly.bind (failsOnly_readDevice _ _ _ hw.1)
    intro _ _
    apply FailsOnly.bind (ih _ hw.2)
    intro _ _
    exact .ok _

theorem failsOnly_readDevices (section_ path : String) (hw : v.isWritable = true) :
    FailsOnly .configuration (readDevices section_ path v) := by
  cases v with
  | null => exact .ok _
  | list entries =>
    apply FailsOnly.bind (failsOnly_readDevicesFrom _ _ _ hw)
    intro _ _
    exact .ok _
  | _ => exact .error rfl

theorem failsOnly_readRuntime (path : String) (hw : Value.areEntriesWritable root = true) :
    FailsOnly .configuration (readRuntime path root) := by
  apply FailsOnly.bind (failsOnly_sectionEntries ..)
  intro fields hfields
  apply FailsOnly.bind (failsOnly_checkKeys _ _ _ (areWritable_section hw hfields))
  intro _ _
  exact .ok _

theorem isWritable_readRuntime (hw : Value.areEntriesWritable root = true)
    (h : readRuntime path root = .ok v) : v.isWritable = true := by
  unfold readRuntime at h
  obtain ⟨fields, hfields, h⟩ := exists_of_bind_ok h
  obtain ⟨_, _, h⟩ := exists_of_bind_ok h
  cases h
  exact Value.isWritable_lookup (areWritable_section hw hfields) _ rfl

theorem failsOnly_readCatalog (path : String) (hw : Value.areEntriesWritable root = true) :
    FailsOnly .configuration (readCatalog path root) := by
  apply FailsOnly.bind (failsOnly_sectionEntries ..)
  intro fields hfields
  have hwritable := areWritable_section hw hfields
  have hid : ∀ name, FailsOnly .configuration (field fields name (.text "")).toTextOrEmpty := by
    intro name
    have hvalue : (field fields name (.text "")).isWritable = true :=
      Value.isWritable_lookup hwritable name rfl
    exact .of_ok (Value.toTextOrEmpty_of_writable hvalue)
  apply FailsOnly.bind (failsOnly_checkKeys _ _ _ hwritable)
  intro _ _
  apply FailsOnly.bind (failsOnly_readDevices _ _ (Value.isWritable_lookup hwritable _ rfl))
  intro _ _
  apply FailsOnly.bind (failsOnly_readDevices _ _ (Value.isWritable_lookup hwritable _ rfl))
  intro _ _
  apply FailsOnly.bind (hid _)
  intro _ _
  apply FailsOnly.bind (hid _)
  intro _ _
  exact .ok _

theorem failsOnly_readConsent (path : String) (hw : Value.areEntriesWritable root = true) :
    FailsOnly .configuration (readConsent path root) := by
  apply FailsOnly.bind (failsOnly_sectionEntries ..)
  intro fields hfields
  apply FailsOnly.bind (failsOnly_checkKeys _ _ _ (areWritable_section hw hfields))
  intro _ _
  exact .ok _

theorem failsOnly_ofDocument (path : String) (hw : document.isWritable = true) :
    FailsOnly .configuration (ofDocument path document) := by
  apply FailsOnly.bind (failsOnly_rootEntries ..)
  intro root hroot
  have hwritable := areWritable_root hw hroot
  apply FailsOnly.bind (failsOnly_checkKeys _ _ _ hwritable)
  intro _ _
  apply FailsOnly.bind (failsOnly_readRuntime _ hwritable)
  intro _ _
  apply FailsOnly.bind (failsOnly_readCatalog _ hwritable)
  intro _ _
  apply FailsOnly.bind (failsOnly_readConsent _ hwritable)
  intro _ _
  exact .ok _

theorem isWritable_logLevel {s : Settings} (hw : document.isWritable = true)
    (h : ofDocument path document = .ok s) : s.logLevel.isWritable = true := by
  unfold ofDocument at h
  obtain ⟨root, hroot, h⟩ := exists_of_bind_ok h
  obtain ⟨_, _, h⟩ := exists_of_bind_ok h
  obtain ⟨logLevel, hlevel, h⟩ := exists_of_bind_ok h
  obtain ⟨_, _, h⟩ := exists_of_bind_ok h
  obtain ⟨_, _, h⟩ := exists_of_bind_ok h
  cases h
  exact isWritable_readRuntime (areWritable_root hw hroot) hlevel

theorem levelKey_of_writable (hw : v.isWritable = true) :
    Level.keyOf v = .ok (Text.lower (Text.trim v.written)) :=
  bind_ok (Value.toTextOrEmpty_of_writable hw)

theorem failsOnly_checkChoice (name : String) (choices : List String) (hw : v.isWritable = true) :
    FailsOnly .configuration (checkChoice name choices v) := by
  unfold checkChoice
  rw [bind_ok (levelKey_of_writable hw), Value.checked, if_pos hw]
  split
  · exact .ok ()
  · exact .error rfl

theorem failsOnly_checkName (name : String) (v : Value) :
    FailsOnly .configuration (checkName name v) := by
  unfold checkName
  split
  · split
    · exact .error rfl
    · exact .ok ()
  · exact .error rfl

theorem failsOnly_checkTextsFrom (name : String) (index : Nat) (vs : List Value) :
    FailsOnly .configuration (checkTextsFrom name index vs) := by
  induction vs generalizing index with
  | nil => exact .ok ()
  | cons v vs ih =>
    cases v with
    | text s => exact ih _
    | _ => exact .error rfl

theorem failsOnly_checkTexts (name : String) (v : Value) :
    FailsOnly .configuration (checkTexts name v) := by
  cases v with
  | list vs => exact failsOnly_checkTextsFrom ..
  | _ => exact .error rfl

theorem failsOnly_checkIdsFrom (name : String) (index : Nat) (seen : List String)
    {entries : List Value} (hids : ∀ entry ∈ entries, Succeeds (entryId entry)) :
    FailsOnly .configuration (checkIdsFrom name index seen entries) := by
  induction entries generalizing index seen with
  | nil => exact .ok _
  | cons entry entries ih =>
    obtain ⟨id, hid⟩ := hids entry (List.mem_cons_self ..)
    rw [checkIdsFrom, bind_ok hid]
    split
    · exact .error rfl
    split
    · exact .error rfl
    · exact ih _ _ fun other hother => hids other (List.mem_cons_of_mem _ hother)

theorem failsOnly_checkIds (name : String) (hids : ∀ entry ∈ v.items, Succeeds (entryId entry)) :
    FailsOnly .configuration (checkIds name v) := by
  cases v with
  | list entries => exact failsOnly_checkIdsFrom name 0 [] hids
  | _ => exact .error rfl

theorem failsOnly_checkDefault (name : String) (known : List String) (hw : v.isWritable = true) :
    FailsOnly .configuration (checkDefault name known v) := by
  unfold checkDefault
  rw [bind_ok (Value.toTextOrEmpty_of_writable hw)]
  split
  · exact .ok ()
  · exact .error rfl

/-- Everything that the checks ask for a text has one. -/
structure Legible (s : Settings) : Prop where
  level : s.logLevel.isWritable = true
  audio : ∀ entry ∈ s.catalog.audioDevices.items, Succeeds (entryId entry)
  video : ∀ entry ∈ s.catalog.videoDevices.items, Succeeds (entryId entry)
  defaultAudio : s.catalog.defaultAudioId.isWritable = true
  defaultVideo : s.catalog.defaultVideoId.isWritable = true

theorem failsOnly_check {s : Settings} (hs : s.Legible) : FailsOnly .configuration s.check := by
  unfold check
  apply FailsOnly.bind (failsOnly_checkChoice _ _ hs.level)
  intro _ _
  apply FailsOnly.bind (failsOnly_checkName ..)
  intro _ _
  apply FailsOnly.bind (failsOnly_checkIds _ hs.audio)
  intro _ _
  apply FailsOnly.bind (failsOnly_checkIds _ hs.video)
  intro _ _
  apply FailsOnly.bind (failsOnly_checkDefault _ _ hs.defaultAudio)
  intro _ _
  apply FailsOnly.bind (failsOnly_checkDefault _ _ hs.defaultVideo)
  intro _ _
  apply FailsOnly.bind (failsOnly_checkName ..)
  intro _ _
  exact failsOnly_checkTexts ..

theorem succeeds_entryId_normalEntry (entry : Value) : Succeeds (entryId (normalEntry entry)) := by
  obtain ⟨id, _, hentry, _⟩ := described_normalEntry .noService entry
  exact ⟨id, by rw [hentry, entryId_deviceEntry]⟩

theorem legible_of_readFrom {s : Settings} (hw : s.logLevel.isWritable = true)
    (hread : ReadFrom document s.catalog) : s.Legible where
  level := hw
  audio := by
    rw [hread.audio]
    exact List.forall_mem_map.mpr fun entry _ => succeeds_entryId_normalEntry entry
  video := by
    rw [hread.video]
    exact List.forall_mem_map.mpr fun entry _ => succeeds_entryId_normalEntry entry
  defaultAudio := by
    rw [hread.defaultAudio]
    rfl
  defaultVideo := by
    rw [hread.defaultVideo]
    rfl

/-- Reading a document and checking what was read. -/
def ofChecked (path : String) (document : Value) : Except Failure Settings := do
  let s ← ofDocument path document
  s.check
  return s

theorem ofChecked_eq_ok {s : Settings} (h : ofChecked path document = .ok s) :
    ofDocument path document = .ok s ∧ s.check = .ok () := by
  unfold ofChecked at h
  obtain ⟨read, hread, h⟩ := exists_of_bind_ok h
  obtain ⟨_, hcheck, h⟩ := exists_of_bind_ok h
  cases h
  exact ⟨hread, hcheck⟩

theorem failsOnly_ofChecked (path : String) (hw : document.isWritable = true) :
    FailsOnly .configuration (ofChecked path document) := by
  apply FailsOnly.bind (failsOnly_ofDocument path hw)
  intro s hs
  have hlegible := legible_of_readFrom (isWritable_logLevel hw hs) (readFrom_ofDocument hs)
  apply FailsOnly.bind (failsOnly_check hlegible)
  intro _ _
  exact .ok s

/-- Settings that were read and checked give a service or a bad value, whatever handler is brought
along: a handler goes only to the authority that takes one. -/
theorem failsOnly_furnish {s : Settings} (hsound : s.Sound) (hread : ReadFrom document s.catalog)
    (handler : Option (List Play)) (o : Office) {b : Backends} (hb : b.Own) :
    FailsOnly .badValue ((s.furnish handler o).run b).1 := by
  obtain ⟨catalogKey, hcatalogKey⟩ := hsound.catalogKey
  obtain ⟨key, hkey, htakes⟩ := hsound.consentKey
  obtain ⟨origins, horigins⟩ := hsound.readOrigins
  obtain ⟨c, hblock, _⟩ := Catalog.exists_ofBlock hread hsound
  rw [run_furnish htakes]
  split
  · exact .error rfl
  · next htaken =>
    -- the service and the registry compare the name of the authority by the same key
    have hhandler : handler.map some = none ∨ key = "handler" := by
      cases handler with
      | none => exact .inl rfl
      | some script => exact .inr (by simpa using htaken)
    obtain ⟨hcatalog, hown⟩ := Backends.failsOnly_makeCatalog hblock hcatalogKey hb
    apply Act.failsOnly_bind hcatalog
    intro catalog b₁ hrun
    rw [hrun] at hown
    apply Act.failsOnly_bind (Backends.failsOnly_makeConsent horigins hkey hhandler hown)
    intro consent b₂ _
    exact .ok _

/-- A document from which a service can be built in an office. -/
def IsUsable (path : String) (document : Value) (o : Office) (b : Backends) : Prop :=
  ∃ s o', ofChecked path document = .ok s ∧ ((s.furnish none o).run b).1 = .ok o'

end Settings

namespace CommandLine

open Settings

variable {files : Path.Folder Content} {backends : Backends} {words : List String} {a : Arguments}
  {path directory : String} {document : Value} {s : Settings}

theorem run_parsed (h : parse words = .ok a) :
    run files backends words = runArguments files backends a := by
  rw [run, h]

theorem choose_ok {verbose : Bool} {name : Value} {key : String} (h : Level.keyOf name = .ok key) :
    ∃ level, Level.choose verbose name = .ok level := by
  unfold Level.choose
  split
  · exact ⟨.debug, rfl⟩
  · exact ⟨_, bind_ok h⟩

theorem choose_text (verbose : Bool) (name : String) :
    ∃ level, Level.choose verbose (.text name) = .ok level :=
  choose_ok (bind_ok (Value.toTextOrEmpty_text name))

theorem settings_of_read (hpath : findMain files directory = .ok path)
    (hread : readMain files path = .ok document) :
    settings files directory = (ofChecked path document).map fun s => (path, s) := by
  rw [settings, load, bind_ok hpath, bind_ok hread, ofChecked]
  cases hs : ofDocument path document with
  | error e => rfl
  | ok s =>
    change (do s.check; pure (path, s)) = Except.map _ (do s.check; pure s)
    cases s.check with
    | error e => rfl
    | ok _ => rfl

theorem settings_eq_ok (h : settings files directory = .ok (path, s)) :
    ∃ document, ofChecked path document = .ok s := by
  unfold settings load at h
  obtain ⟨⟨path', s'⟩, hloaded, h⟩ := exists_of_bind_ok h
  obtain ⟨_, hcheck, h⟩ := exists_of_bind_ok h
  cases h
  obtain ⟨path', _, hloaded⟩ := exists_of_bind_ok hloaded
  obtain ⟨document, _, hloaded⟩ := exists_of_bind_ok hloaded
  obtain ⟨s', hs, hloaded⟩ := exists_of_bind_ok hloaded
  cases hloaded
  exact ⟨document, (bind_ok hs).trans (bind_ok hcheck)⟩

theorem ending_runArguments_of_error {f : Failure} (h : settings files a.configDir = .error f)
    (hkind : f.kind = .configuration) :
    (runArguments files backends a).ending = .exit 1 := by
  obtain ⟨level, hlevel⟩ := choose_text a.verbose a.logLevel
  simp only [runArguments, hlevel, h, hkind, if_true]
  rfl

theorem runArguments_of_settings (backends : Backends)
    (h : settings files a.configDir = .ok (path, s)) (hs : s.Sound) :
    ∃ level, runArguments files backends a = serve a level path s backends := by
  obtain ⟨level, hlevel⟩ := choose_text a.verbose a.logLevel
  obtain ⟨key, hkey⟩ := hs.level
  have hchosen : ∃ chosen, (if a.verbose || a.logLevel != "" then .ok level
      else Level.choose a.verbose s.logLevel) = (.ok chosen : Except Failure Level) := by
    split
    · exact ⟨level, rfl⟩
    · exact choose_ok hkey
  obtain ⟨chosen, hchosen⟩ := hchosen
  simp only [runArguments, hlevel, h, hchosen]
  exact ⟨chosen, rfl⟩

theorem serve_of_furnished {level : Level} {o : Office}
    (h : ((s.furnish none ((lobby a).run {}).2).run backends).1 = .ok o) :
    ∃ earlier, serve a level path s backends = handleRequest a level earlier o := by
  rw [serve]
  simp only [h]
  exact ⟨_, rfl⟩

theorem ending_serve_of_error {level : Level} {f : Failure}
    (h : ((s.furnish none ((lobby a).run {}).2).run backends).1 = .error f)
    (hkind : f.kind = .badValue) : (serve a level path s backends).ending = .exit 1 := by
  rw [serve]
  simp only [h, hkind, if_true]
  rfl

end CommandLine

/-- Reading and checking a document succeeds or fails as a fault of the configuration. Then a
service is built or the value of a setting is bad, with or without a handler. So the command line
exits with status 1 on a document that no service can be built from. -/
theorem document_faults (path : String) (document : Value) (hw : document.isWritable = true) :
    FailsOnly .configuration (Settings.ofChecked path document) ∧
      (∀ s, Settings.ofChecked path document = .ok s → ∀ handler o b, b.Own →
        FailsOnly .badValue ((s.furnish handler o).run b).1) ∧
      ∀ files backends words a, backends.Own → CommandLine.parse words = .ok a →
        Settings.findMain files a.configDir = .ok path →
        Settings.readMain files path = .ok document →
        ¬Settings.IsUsable path document ((CommandLine.lobby a).run {}).2 backends →
        (CommandLine.run files backends words).ending = .exit 1 := by
  have hreads := Settings.failsOnly_ofChecked path hw
  have hbuilds : ∀ s, Settings.ofChecked path document = .ok s → ∀ handler o b, b.Own →
      FailsOnly .badValue ((s.furnish handler o).run b).1 := by
    intro s hs handler o b hb
    obtain ⟨hread, hcheck⟩ := Settings.ofChecked_eq_ok hs
    exact Settings.failsOnly_furnish (Settings.sound_of_check hcheck)
      (Settings.readFrom_ofDocument hread) handler o hb
  refine ⟨hreads, hbuilds, ?_⟩
  intro files backends words a hb hparse hpath hdocument hunusable
  have hsettings := CommandLine.settings_of_read hpath hdocument
  rw [CommandLine.run_parsed hparse]
  cases hs : Settings.ofChecked path document with
  | error f =>
    rw [hs] at hsettings
    exact CommandLine.ending_runArguments_of_error hsettings (hreads.kind_eq f hs)
  | ok s =>
    rw [hs] at hsettings
    have hsound := Settings.sound_of_check (Settings.ofChecked_eq_ok hs).2
    obtain ⟨level, hserve⟩ := CommandLine.runArguments_of_settings backends hsettings hsound
    rw [hserve]
    cases ho : ((s.furnish none ((CommandLine.lobby a).run {}).2).run backends).1 with
    | error f =>
      exact CommandLine.ending_serve_of_error ho ((hbuilds s hs none _ backends hb).kind_eq f ho)
    | ok o => exact absurd ⟨s, o, hs, ho⟩ hunusable

/-- A document that asks for an authority which nobody knows is read and checked, but gives no
service, and none with a handler either. -/
theorem document_faults_unknown_authority :
    let document : Value := .map [(.text "consent", .map [(.text "type", .text "Voice"),
      (.text "blocked_origins", .list [.text "https://a.org"])])]
    let files : Path.Folder Settings.Content :=
      { files := [(["config", "main_a.yaml"], .document document)] }
    let s : Settings :=
      { consent := { backend := .text "Voice", blockedOrigins := .list [.text "https://a.org"] } }
    document.isWritable = true ∧ Settings.ofChecked "config/main_a.yaml" document = .ok s ∧
      FailsOnly .badValue ((s.furnish (some []) {}).run {}).1 ∧
      ¬Settings.IsUsable "config/main_a.yaml" document {} {} ∧
      (CommandLine.run files {} ["--no-frame"]).ending = .exit 1 := by
  intro document files s
  have hw : document.isWritable = true := rfl
  have hs : Settings.ofChecked "config/main_a.yaml" document = .ok s := rfl
  have hparse : CommandLine.parse ["--no-frame"] = .ok { noFrame := true } := rfl
  have hpath : Settings.findMain files "config" = .ok "config/main_a.yaml" :=
    eq_ok_of_toOption (by decide +kernel)
  have hread : Settings.readMain files "config/main_a.yaml" = .ok document := rfl
  have hnone : ((s.furnish none {}).run {}).1.toOption.isNone = true := by decide +kernel
  have hunusable : ¬Settings.IsUsable "config/main_a.yaml" document {} {} := by
    rintro ⟨s', o', hs', ho'⟩
    rw [hs] at hs'
    cases hs'
    rw [ho'] at hnone
    cases hnone
  obtain ⟨_, hbuilds, hruns⟩ := document_faults "config/main_a.yaml" document hw
  exact ⟨hw, hs, hbuilds s hs (some []) {} {} Backends.own_empty, hunusable,
    hruns files {} ["--no-frame"] { noFrame := true } Backends.own_empty hparse hpath hread
      hunusable⟩

end CaptureArbiter
