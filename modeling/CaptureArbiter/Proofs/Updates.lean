import CaptureArbiter.Proofs.Choices
import CaptureArbiter.Proofs.Furnished
import Mathlib.Data.List.Induction

/-!
# Updated catalogs

The lists of a catalog are replaced one at a time while it is in use. A list is always that of the
last update that fits it, or the configured one. An update with a device of another kind changes
nothing. Whatever is asked of a catalog is answered from its lists as they are and from the
preferences that it was made with.
-/

namespace CaptureArbiter

open Act

/-- Devices that are to replace the list of microphones or that of cameras. -/
inductive ListUpdate where
  | audio (devices : List Device)
  | video (devices : List Device)

namespace ListUpdate

def kind : ListUpdate → StreamKind
  | audio _ => .deviceAudio
  | video _ => .deviceVideo

def devices : ListUpdate → List Device
  | audio devices | video devices => devices

def operation : ListUpdate → Operation
  | audio devices => .setAudio devices
  | video devices => .setVideo devices

/-- Are all devices of the kind that the list is for? -/
def fits (u : ListUpdate) : Bool := u.devices.all (·.kind == u.kind)

/-- The devices of the last update of a kind that fits, or else the configured ones. -/
def lastFitting (kind : StreamKind) (configured : List Device) (updates : List ListUpdate) :
    List Device :=
  ((updates.filter fun u => u.kind == kind && u.fits).getLast?).elim configured devices

theorem lastFitting_concat (kind : StreamKind) (configured : List Device)
    (updates : List ListUpdate) (u : ListUpdate) :
    lastFitting kind configured (updates ++ [u]) =
      if (u.kind == kind && u.fits) = true then u.devices
      else lastFitting kind configured updates := by
  unfold lastFitting
  rw [List.filter_append]
  cases hu : u.kind == kind && u.fits with
  | true =>
    have hkept : [u].filter (fun u => u.kind == kind && u.fits) = [u] := by simp [hu]
    rw [hkept, List.getLast?_concat]
    rfl
  | false =>
    have hdropped : [u].filter (fun u => u.kind == kind && u.fits) = [] := by simp [hu]
    rw [hdropped, List.append_nil]
    rfl

/-- The catalog with the devices of an update in place. -/
def put (c : Catalog) : ListUpdate → Catalog
  | audio devices => { c with audio := devices }
  | video devices => { c with video := devices }

theorem listed_put (c : Catalog) (u : ListUpdate) (kind : StreamKind) :
    (u.put c).listed kind = if u.kind = kind then u.devices else c.listed kind := by
  cases u <;> cases kind <;> rfl

theorem preferredId_put (c : Catalog) (u : ListUpdate) :
    (u.put c).preferredId = c.preferredId := by
  cases u <;> rfl

end ListUpdate

namespace Catalog

variable {expected : StreamKind} {devices : List Device}

theorem IsTyped.kind_of_mem_listed {c : Catalog} (hc : c.IsTyped) (kind : StreamKind) :
    ∀ d ∈ c.listed kind, d.kind = kind := by
  cases kind with
  | deviceAudio => exact hc.audio
  | deviceVideo => exact hc.video
  | _ => exact nofun

theorem checkKind_of_all (h : devices.all (·.kind == expected) = true) :
    checkKind expected devices = .ok devices := by
  have hnone : devices.find? (·.kind != expected) = none := by
    rw [List.find?_eq_none]
    intro d hd
    simpa using List.all_eq_true.mp h d hd
  rw [checkKind, hnone]

theorem checkKind_of_not_all (h : devices.all (·.kind == expected) = false) :
    ∃ d ∈ devices, d.kind ≠ expected ∧
      checkKind expected devices = .error (.wrongDeviceKind d.id d.kind expected) := by
  cases hfind : devices.find? (·.kind != expected) with
  | none =>
    have hall : devices.all (·.kind == expected) = true := by
      rw [List.all_eq_true]
      intro d hd
      simpa using List.find?_eq_none.mp hfind d hd
    rw [h] at hall
    cases hall
  | some d =>
    have hd : d.kind ≠ expected := by simpa using List.find?_some hfind
    exact ⟨d, List.mem_of_find?_eq_some hfind, hd, by rw [checkKind, hfind]⟩

end Catalog

theorem Office.run_changeDevices (what : String) (change : Catalog → Except Failure Catalog)
    (devices : List Device) (o : Office) :
    (changeDevices what change devices).run o = match change o.catalog with
      | .error e => (.error e, o)
      | .ok catalog => (.ok .nothing,
          { o with catalog, desk := o.desk.noted [Catalog.changedNote what devices] }) := by
  rw [changeDevices, run_bind_ok (run_get _), run_bind_ofExcept]
  cases change o.catalog <;> rfl

namespace ListUpdate

open Session

variable {u : ListUpdate}

theorem run_operation (u : ListUpdate) (s : Session) :
    ∃ note, (perform u.operation).run s = match Catalog.checkKind u.kind u.devices with
      | .error e => (.error e, s)
      | .ok _ => (.ok .nothing, { s with office :=
          { s.office with catalog := u.put s.office.catalog, desk := s.office.desk.noted [note] } })
    := by
  cases u with
  | audio devices =>
    refine ⟨Catalog.changedNote "Audio" devices, ?_⟩
    rw [operation, perform, onOffice, run_zoom, Office.run_changeDevices, Catalog.setAudio, kind,
      ListUpdate.devices]
    cases hcheck : Catalog.checkKind .deviceAudio devices with
    | error e => rfl
    | ok checked =>
      obtain ⟨rfl, _⟩ := Catalog.checkKind_eq_ok hcheck
      rfl
  | video devices =>
    refine ⟨Catalog.changedNote "Video" devices, ?_⟩
    rw [operation, perform, onOffice, run_zoom, Office.run_changeDevices, Catalog.setVideo, kind,
      ListUpdate.devices]
    cases hcheck : Catalog.checkKind .deviceVideo devices with
    | error e => rfl
    | ok checked =>
      obtain ⟨rfl, _⟩ := Catalog.checkKind_eq_ok hcheck
      rfl

theorem run_of_fits (h : u.fits = true) (s : Session) :
    ∃ t, (perform u.operation).run s = (.ok .nothing, t) ∧
      t.office.catalog = u.put s.office.catalog := by
  obtain ⟨note, hrun⟩ := run_operation u s
  rw [Catalog.checkKind_of_all h] at hrun
  exact ⟨_, hrun, rfl⟩

theorem run_of_not_fits (h : u.fits = false) (s : Session) :
    ∃ d ∈ u.devices, d.kind ≠ u.kind ∧
      (perform u.operation).run s = (.error (.wrongDeviceKind d.id d.kind u.kind), s) := by
  obtain ⟨d, hd, hkind, hcheck⟩ := Catalog.checkKind_of_not_all h
  obtain ⟨note, hrun⟩ := run_operation u s
  rw [hcheck] at hrun
  exact ⟨d, hd, hkind, hrun⟩

theorem fits_iff : u.fits = true ↔ ∀ d ∈ u.devices, d.kind = u.kind := by
  simp [fits]

theorem not_fits_iff : u.fits = false ↔ ∃ d ∈ u.devices, d.kind ≠ u.kind := by
  simp [fits]

theorem listed_run (u : ListUpdate) (s : Session) (kind : StreamKind) :
    ((perform u.operation).run s).2.office.catalog.listed kind =
      if (u.kind == kind && u.fits) = true then u.devices
      else s.office.catalog.listed kind := by
  cases hfits : u.fits with
  | true =>
    obtain ⟨t, hrun, hcatalog⟩ := run_of_fits hfits s
    rw [hrun, hcatalog, listed_put, Bool.and_true]
    simp only [beq_iff_eq]
  | false =>
    obtain ⟨d, _, _, hrun⟩ := run_of_not_fits hfits s
    rw [hrun, Bool.and_false, if_neg Bool.false_ne_true]

/-- After any updates a list is that of the last one that fits, or as it was. -/
theorem listed_after (s : Session) (updates : List ListUpdate) (kind : StreamKind) :
    (s.after (updates.map operation)).office.catalog.listed kind =
      lastFitting kind (s.office.catalog.listed kind) updates := by
  induction updates using List.reverseRecOn with
  | nil => rfl
  | append_singleton updates u ih =>
    rw [List.map_append, List.map_singleton, after_append, lastFitting_concat, ← ih]
    exact listed_run u _ kind

end ListUpdate

namespace Catalog

/-- What a kind adds to the default devices: if it is asked for and has any devices, the first one
of the preferred id or else the first one. -/
structure Adds (asked : Bool) (devices : List Device) (preferred : String) (part : List Device) :
    Prop where
  left_out : part = [] ↔ asked = false ∨ devices = []
  offered : ∀ d ∈ part, part = [d] ∧ Selection.Offers devices [preferred] d

theorem adds_iff {asked : Bool} {devices part : List Device} {preferred : String} :
    Adds asked devices preferred part ↔
      part = if asked then (Selection.offered devices [preferred]).toList else [] := by
  have hnone : Selection.offered devices [preferred] = none ↔ devices = [] := by
    constructor
    · intro hoffered
      by_contra hne
      obtain ⟨d, hd⟩ := Selection.exists_offered hne [preferred]
      rw [hoffered] at hd
      cases hd
    · rintro rfl
      rw [Option.eq_none_iff_forall_ne_some]
      intro d hd
      exact absurd (Selection.mem_of_offered hd) List.not_mem_nil
  constructor
  · intro h
    cases part with
    | nil =>
      rcases h.left_out.mp rfl with rfl | hempty
      · rfl
      · rw [hnone.mpr hempty, Option.toList_none, ite_self]
    | cons d rest =>
      have hasked : asked = true := by
        by_contra hnot
        exact List.cons_ne_nil _ _ (h.left_out.mpr (.inl (Bool.eq_false_iff.mpr hnot)))
      obtain ⟨hsingle, hoffers⟩ := h.offered d (List.mem_cons_self ..)
      rw [hsingle, if_pos hasked, Selection.offers_iff.mp hoffers, Option.toList_some]
  · rintro rfl
    cases asked with
    | false => exact ⟨by simp, nofun⟩
    | true =>
      refine ⟨by simp [hnone], fun d hd => ?_⟩
      rw [if_pos rfl, Option.mem_toList] at hd
      rw [if_pos rfl, hd]
      exact ⟨rfl, Selection.offers_iff.mpr hd⟩

theorem defaults_eq_offered (c : Catalog) (audio video : Bool) :
    c.defaults audio video =
      (if audio then (Selection.offered (c.listed .deviceAudio)
        [c.preferredId .deviceAudio]).toList else []) ++
      (if video then (Selection.offered (c.listed .deviceVideo)
        [c.preferredId .deviceVideo]).toList else []) := by
  rw [Selection.offered_cons, Selection.offered_cons]
  rfl

end Catalog

/-- All questions about devices are answered from these lists and preferred ids. -/
structure Session.AnswersFrom (listed : StreamKind → List Device) (preferred : StreamKind → String)
    (s : Session) : Prop where
  list : (perform .list).run s = (.ok (.listing (listed .deviceAudio) (listed .deviceVideo)), s)
  findAudio : ∀ id, ∃ found, (perform (.findAudio id)).run s = (.ok (.device found), s) ∧
    ∀ d, found = some d ↔ Selection.IsFirstOf (listed .deviceAudio) id d
  findVideo : ∀ id, ∃ found, (perform (.findVideo id)).run s = (.ok (.device found), s) ∧
    ∀ d, found = some d ↔ Selection.IsFirstOf (listed .deviceVideo) id d
  hasAny : ∃ any, (perform .hasAny).run s = (.ok (.flag any), s) ∧
    (any = true ↔ listed .deviceAudio ≠ [] ∨ listed .deviceVideo ≠ [])
  defaults : ∀ audio video, ∃ mics cams,
    (perform (.neededDefaults audio video)).run s = (.ok (.devices (mics ++ cams)), s) ∧
      Catalog.Adds audio (listed .deviceAudio) (preferred .deviceAudio) mics ∧
      Catalog.Adds video (listed .deviceVideo) (preferred .deviceVideo) cams

theorem Session.answersFrom_catalog (s : Session) :
    s.AnswersFrom s.office.catalog.listed s.office.catalog.preferredId where
  list := rfl
  findAudio id := ⟨_, rfl, fun _ => Selection.isFirstOf_iff.symm⟩
  findVideo id := ⟨_, rfl, fun _ => Selection.isFirstOf_iff.symm⟩
  hasAny := ⟨_, rfl, by simp [Catalog.hasAny, Catalog.listed]⟩
  defaults audio video := by
    refine ⟨_, _, ?_, Catalog.adds_iff.mpr rfl, Catalog.adds_iff.mpr rfl⟩
    rw [← Catalog.defaults_eq_offered]
    rfl

theorem Backends.ofBlock_of_makeCatalog {block : CatalogBlock} {c : Catalog} {b b' : Backends}
    (h : (makeCatalog block).run b = (.ok c, b')) : Catalog.ofBlock block = .ok c := by
  have hok : ((makeCatalog block).run b).1 = .ok c := by rw [h]
  obtain ⟨read, b₁, hread, hok⟩ := exists_of_run_bind_ok hok
  obtain ⟨backend, b₂, _, hok⟩ := exists_of_run_bind_ok hok
  cases backend
  cases hok
  exact congrArg Prod.fst hread

open ListUpdate in
/-- A catalog that is made from a description and then updated in any way lists the devices of the
last update of each kind that fits, or the configured ones, all of their own kind, and answers every
question from these lists. An update fails just if one of its devices is of another kind, as a bad
value and without any change, and one that succeeds leaves the other list as it is. -/
theorem updated_catalog_answers {block : CatalogBlock} {b b' : Backends} {s : Session}
    (hmade : (Backends.makeCatalog block).run b = (.ok s.office.catalog, b'))
    (updates : List ListUpdate) :
    let configured := s.office.catalog
    let t := s.after (updates.map operation)
    let listed := fun kind => lastFitting kind (configured.listed kind) updates
    Catalog.ofBlock block = .ok configured ∧
      t.AnswersFrom listed configured.preferredId ∧
      (∀ kind, ∀ d ∈ listed kind, d.kind = kind) ∧
      ∀ u : ListUpdate,
        ((∃ d ∈ u.devices, d.kind ≠ u.kind) → ∃ e,
          (Session.perform u.operation).run t = (.error e, t) ∧ e.kind = .badValue) ∧
        ((∀ d ∈ u.devices, d.kind = u.kind) → ∃ t',
          (Session.perform u.operation).run t = (.ok .nothing, t') ∧
            t'.AnswersFrom (fun kind => if u.kind = kind then u.devices else listed kind)
              configured.preferredId) := by
  intro configured t listed
  have hblock := Backends.ofBlock_of_makeCatalog hmade
  have hlisted : t.office.catalog.listed = listed := funext (listed_after s updates)
  have hpreferred : t.office.catalog.preferredId = configured.preferredId :=
    Catalog.preferredId_after s _
  have htyped : t.office.catalog.IsTyped := Catalog.isTyped_after hblock _
  refine ⟨hblock, ?_, ?_, fun u => ⟨?_, ?_⟩⟩
  · rw [← hlisted, ← hpreferred]
    exact t.answersFrom_catalog
  · rw [← hlisted]
    exact htyped.kind_of_mem_listed
  · intro hother
    obtain ⟨d, _, _, hrun⟩ := run_of_not_fits (not_fits_iff.mpr hother) t
    exact ⟨_, hrun, rfl⟩
  · intro hown
    obtain ⟨t', hrun, hcatalog⟩ := run_of_fits (fits_iff.mpr hown) t
    refine ⟨t', hrun, ?_⟩
    have hanswers := t'.answersFrom_catalog
    rw [hcatalog, preferredId_put, hpreferred] at hanswers
    have hreplaced : (u.put t.office.catalog).listed =
        fun kind => if u.kind = kind then u.devices else listed kind := by
      funext kind
      rw [listed_put, hlisted]
    rw [← hreplaced]
    exact hanswers

/-- The preferred microphone is gone after the first update, and the second one fails for a camera.
With the third one the preferred microphone is back. -/
theorem updated_catalog_answers_returned :
    let block : CatalogBlock :=
      { audioDevices := .list [.map [(.text "id", .text "mic-a")]]
        defaultAudioId := .text "mic-a" }
    let nameless : Device := ⟨.deviceAudio, "", "Line in"⟩
    let left : Device := ⟨.deviceAudio, "mic-b", "Left"⟩
    let right : Device := ⟨.deviceAudio, "mic-b", "Right"⟩
    let preferred : Device := ⟨.deviceAudio, "mic-a", ""⟩
    let camera : Device := ⟨.deviceVideo, "cam-a", ""⟩
    let s : Session := .service { catalog :=
      { audio := [⟨.deviceAudio, "mic-a", "mic-a"⟩], defaultAudioId := "mic-a" } }
    let t := s.after [.setAudio [nameless, left, right], .setAudio [left, camera]]
    (∃ b', (Backends.makeCatalog block).run {} = (.ok s.office.catalog, b')) ∧
      (Session.perform .list).run t = (.ok (.listing [nameless, left, right] []), t) ∧
      (Session.perform (.findAudio "mic-b")).run t = (.ok (.device (some left)), t) ∧
      (Session.perform (.neededDefaults true true)).run t = (.ok (.devices [nameless]), t) ∧
      (∃ e, (Session.perform (.setAudio [left, camera])).run t = (.error e, t) ∧
        e.kind = .badValue) ∧
      ∃ t', (Session.perform (.setAudio [left, preferred])).run t = (.ok .nothing, t') ∧
        (Session.perform .list).run t' = (.ok (.listing [left, preferred] []), t') ∧
        (Session.perform (.neededDefaults true true)).run t' =
          (.ok (.devices [preferred]), t') := by
  intro block nameless left right preferred camera s t
  have hblock : Catalog.ofBlock block = .ok s.office.catalog :=
    eq_ok_of_toOption (by decide +kernel)
  have hstatic : Registry.keyOf block.backend = .ok "static" :=
    eq_ok_of_toOption (by decide +kernel)
  obtain ⟨b', hbackend, _⟩ := Backends.run_catalogBackend hstatic {}
  have hmade := Backends.run_makeCatalog hblock hbackend
  obtain ⟨_, hanswers, _, hupdates⟩ :=
    updated_catalog_answers hmade [.audio [nameless, left, right], .audio [left, camera]]
  obtain ⟨found, hfound, hfirst⟩ := hanswers.findAudio "mic-b"
  have hleft : found = some left :=
    (hfirst left).mpr ⟨by decide, rfl, [nameless], [right], rfl, by decide⟩
  obtain ⟨mics, cams, hdefaults, hmics, hcams⟩ := hanswers.defaults true true
  obtain ⟨t', hset, hreplaced⟩ := (hupdates (.audio [left, preferred])).2 (by decide)
  obtain ⟨mics', cams', hreturned, hmics', hcams'⟩ := hreplaced.defaults true true
  cases hleft
  cases Catalog.adds_iff.mp hmics
  cases Catalog.adds_iff.mp hcams
  cases Catalog.adds_iff.mp hmics'
  cases Catalog.adds_iff.mp hcams'
  have hmisfit := (hupdates (.audio [left, camera])).1 ⟨camera, by decide, by decide⟩
  exact ⟨⟨b', hmade⟩, hanswers.list, hfound, hdefaults, hmisfit, t', hset, hreplaced.list,
    hreturned⟩

end CaptureArbiter
