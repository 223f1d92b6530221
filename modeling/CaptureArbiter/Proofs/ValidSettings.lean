import CaptureArbiter.Proofs.Faults
import Mathlib.Data.List.TakeWhile
import Mathlib.Tactic.MkIffOfInductiveProp

/-!
# Valid settings

What the checks of settings ask for, said of the values themselves: a known log level, backends that
are named, device lists in which every device has an id of its own, preferences among these ids, and
origins that are texts. The checks pass exactly if all of it holds, and else they report a fault of
the configuration.
-/

namespace CaptureArbiter

/-- The id that an entry of a device list gives, null if it gives none. -/
def Value.idGiven (entry : Value) : Value := entryOrNull entry.entries "id"

namespace Settings

def IsLevel (v : Value) : Prop :=
  Text.lower (Text.trim v.written) ∈ ["debug", "info", "warning", "warn", "error", "critical"]

/-- A text that is not blank throughout. -/
def IsName (v : Value) : Prop := ∃ s, v = .text s ∧ ∃ c ∈ s.toList, Text.isBlank c = false

/-- A list of devices, each with an id, and no two ids with the same text. -/
structure HasOwnIds (v : Value) : Prop where
  list : v = .list v.items
  given : ∀ entry ∈ v.items, entry.idGiven.isTruthy = true
  distinct : v.items.Pairwise fun a b => a.idGiven.display ≠ b.idGiven.display

/-- No preference, or the text of an id in a list of devices. -/
def PrefersOneOf (devices preference : Value) : Prop :=
  preference.isTruthy = true →
    ∃ entry ∈ devices.items, entry.idGiven.display = preference.display

@[mk_iff]
structure IsValid (s : Settings) : Prop where
  level : IsLevel s.logLevel
  catalogName : IsName s.catalog.backend
  audio : HasOwnIds s.catalog.audioDevices
  video : HasOwnIds s.catalog.videoDevices
  defaultAudio : PrefersOneOf s.catalog.audioDevices s.catalog.defaultAudioId
  defaultVideo : PrefersOneOf s.catalog.videoDevices s.catalog.defaultVideoId
  consentName : IsName s.consent.backend
  origins : ∃ origins : List String, s.consent.blockedOrigins = .list (origins.map .text)

/-- A value that can be written and that, if it is a list, holds mappings and nulls only. -/
structure IsPlainList (v : Value) : Prop where
  writable : v.isWritable = true
  entries : ∀ entry ∈ v.items, entry = .null ∨ entry = .map entry.entries

structure HasPlainEntries (s : Settings) : Prop where
  level : s.logLevel.isWritable = true
  audio : IsPlainList s.catalog.audioDevices
  video : IsPlainList s.catalog.videoDevices
  defaultAudio : s.catalog.defaultAudioId.isWritable = true
  defaultVideo : s.catalog.defaultVideoId.isWritable = true

end Settings

theorem Text.trim_eq_empty_iff {s : String} :
    trim s = "" ↔ ∀ c ∈ s.toList, isBlank c = true := by
  rw [trim, String.ofList_eq_empty_iff, trimWhere, dropTrailing, List.reverse_eq_nil_iff,
    List.dropWhile_eq_nil_iff]
  constructor
  · intro hrest c hc
    rw [← List.takeWhile_append_dropWhile (p := isBlank) (l := s.toList)] at hc
    rcases List.mem_append.mp hc with hfront | hafter
    · exact List.mem_takeWhile_imp hfront
    · exact hrest c (List.mem_reverse.mpr hafter)
  · intro hall c hc
    exact hall c ((List.dropWhile_sublist isBlank).mem (List.mem_reverse.mp hc))

namespace Settings

variable {s : Settings} {entry v preference : Value} {name : String} {known : List String}
  {entries : List Value}

theorem succeeds_checkChoice_iff (choices : List String) (hw : v.isWritable = true) :
    Succeeds (checkChoice name choices v) ↔ Text.lower (Text.trim v.written) ∈ choices := by
  rw [checkChoice, bind_ok (levelKey_of_writable hw), ← List.contains_iff_mem]
  split
  · next h => exact iff_of_true (succeeds_ok ()) h
  · next h => exact iff_of_false (not_succeeds_error _) h

theorem succeeds_checkName_iff : Succeeds (checkName name v) ↔ IsName v := by
  cases v with
  | text s =>
    have hname : IsName (.text s) ↔ ¬Text.trim s = "" := by
      simp [IsName, Text.trim_eq_empty_iff]
    rw [hname, checkName]
    simp only [beq_iff_eq]
    split
    · next h => simp [h, not_succeeds_error]
    · next h => simp [h, succeeds_ok]
  | _ => exact iff_of_false (not_succeeds_error _) nofun

theorem IsPlainList.isWritable_of_mem (hv : IsPlainList v) (h : entry ∈ v.items) :
    entry.isWritable = true := by
  cases v with
  | list entries =>
    have hall : Value.areWritable entries = true := hv.writable
    clear hv
    induction entries with
    | nil => cases h
    | cons first rest ih =>
      rw [Value.areWritable, Bool.and_eq_true] at hall
      rcases List.mem_cons.mp h with rfl | h
      · exact hall.1
      · exact ih h hall.2
  | _ => cases h

theorem entryId_of_plain (hw : entry.isWritable = true)
    (hentry : entry = .null ∨ entry = .map entry.entries) :
    entryId entry = .ok entry.idGiven.written := by
  rcases hentry with rfl | hmap
  · rfl
  · generalize entry.entries = fields at hmap
    subst hmap
    cases fields with
    | nil => rfl
    | cons e es => exact Value.toTextOrEmpty_of_writable (Value.isWritable_entryOrNull hw "id")

theorem IsPlainList.entryId_of_mem (hv : IsPlainList v) :
    ∀ entry ∈ v.items, entryId entry = .ok entry.idGiven.written :=
  fun entry h => entryId_of_plain (hv.isWritable_of_mem h) (hv.entries entry h)

theorem checkIdsFrom_of_distinct {index : Nat} {seen : List String} {f : Value → String}
    (hids : ∀ entry ∈ entries, entryId entry = .ok (f entry))
    (hfresh : ∀ entry ∈ entries, f entry ≠ "" ∧ f entry ∉ seen)
    (hdistinct : entries.Pairwise fun a b => f a ≠ f b) :
    checkIdsFrom name index seen entries = .ok (seen ++ entries.map f) := by
  induction entries generalizing index seen with
  | nil => rw [List.map_nil, List.append_nil, checkIdsFrom]
  | cons entry entries ih =>
    obtain ⟨hid, hids⟩ := List.forall_mem_cons.mp hids
    obtain ⟨⟨hne, hnew⟩, hfresh⟩ := List.forall_mem_cons.mp hfresh
    obtain ⟨hother, hdistinct⟩ := List.pairwise_cons.mp hdistinct
    have hrest : ∀ other ∈ entries, f other ≠ "" ∧ f other ∉ seen ++ [f entry] := by
      intro other hmem
      refine ⟨(hfresh other hmem).1, fun hseen => ?_⟩
      rcases List.mem_append.mp hseen with hseen | hsame
      · exact (hfresh other hmem).2 hseen
      · exact hother other hmem (List.mem_singleton.mp hsame).symm
    rw [checkIdsFrom, bind_ok hid, if_neg (by simpa using hne), if_neg (by simpa using hnew),
      ih hids hrest hdistinct, List.append_assoc]
    rfl

theorem checkIds_eq_ok_iff (hv : IsPlainList v) (ids : List String) :
    checkIds name v = .ok ids ↔ HasOwnIds v ∧ ids = v.items.map fun e => e.idGiven.written := by
  have hwritten : ∀ {entry : Value}, entry.idGiven.isTruthy = true →
      entry.idGiven.written = entry.idGiven.display := fun h => if_pos h
  constructor
  · intro h
    cases v with
    | list entries =>
      obtain ⟨fresh, hfresh, hsame, hnonempty, hnodup⟩ := checkIdsFrom_eq_ok h
      have hmap : entries.mapM entryId = .ok (entries.map fun e => e.idGiven.written) :=
        mapM_eq_ok hv.entryId_of_mem
      rw [hmap] at hfresh
      cases hfresh
      rw [List.nil_append] at hsame
      subst hsame
      have hgiven : ∀ entry ∈ entries, entry.idGiven.isTruthy = true := by
        intro entry hentry
        exact (Value.isTruthy_of_written_ne (hnonempty _ (List.mem_map_of_mem hentry))).1
      refine ⟨⟨rfl, hgiven, ?_⟩, rfl⟩
      refine (List.pairwise_map.mp (hnodup List.nodup_nil)).imp_of_mem fun ha hb hne => ?_
      rwa [hwritten (hgiven _ ha), hwritten (hgiven _ hb)] at hne
    | _ => cases h
  · rintro ⟨⟨hlist, hgiven, hdistinct⟩, rfl⟩
    have hfresh : ∀ entry ∈ v.items, entry.idGiven.written ≠ "" ∧ entry.idGiven.written ∉ [] := by
      intro entry hentry
      refine ⟨?_, List.not_mem_nil⟩
      rw [hwritten (hgiven entry hentry)]
      exact Value.display_ne_empty (hgiven entry hentry)
    have hother : v.items.Pairwise fun a b => a.idGiven.written ≠ b.idGiven.written := by
      refine hdistinct.imp_of_mem fun ha hb hne => ?_
      rwa [hwritten (hgiven _ ha), hwritten (hgiven _ hb)]
    rw [hlist]
    exact checkIdsFrom_of_distinct hv.entryId_of_mem hfresh hother

theorem succeeds_checkDefault_iff (hids : HasOwnIds v) (hw : preference.isWritable = true) :
    Succeeds (checkDefault name (v.items.map fun e => e.idGiven.written) preference) ↔
      PrefersOneOf v preference := by
  have hwritten : ∀ entry ∈ v.items, entry.idGiven.written = entry.idGiven.display :=
    fun entry hentry => if_pos (hids.given entry hentry)
  have hknown : ((v.items.map fun e => e.idGiven.written).contains preference.display) = true ↔
      ∃ entry ∈ v.items, entry.idGiven.display = preference.display := by
    rw [List.contains_iff_mem, List.map_congr_left hwritten, List.mem_map]
  rw [checkDefault, bind_ok (Value.toTextOrEmpty_of_writable hw), PrefersOneOf]
  cases htruthy : preference.isTruthy with
  | false =>
    rw [Value.written_eq_empty_iff.mpr htruthy]
    exact iff_of_true (succeeds_ok ()) nofun
  | true =>
    rw [show preference.written = preference.display from if_pos htruthy, ← hknown,
      beq_eq_false_iff_ne.mpr (Value.display_ne_empty htruthy), Bool.false_or]
    split
    · next h => exact iff_of_true (succeeds_ok ()) fun _ => h
    · next h => exact iff_of_false (not_succeeds_error _) fun hall => h (hall rfl)

theorem succeeds_checkTexts_iff :
    Succeeds (checkTexts name v) ↔ ∃ texts : List String, v = .list (texts.map .text) := by
  constructor
  · rintro ⟨_, h⟩
    exact checkTexts_eq_ok h
  · rintro ⟨texts, rfl⟩
    have hfrom : ∀ index, checkTextsFrom name index (texts.map .text) = .ok () := by
      induction texts with
      | nil => exact fun _ => rfl
      | cons text texts ih => exact fun index => ih (index + 1)
    exact ⟨(), hfrom 0⟩

theorem HasPlainEntries.legible (hs : s.HasPlainEntries) : s.Legible where
  level := hs.level
  audio entry h := ⟨_, hs.audio.entryId_of_mem entry h⟩
  video entry h := ⟨_, hs.video.entryId_of_mem entry h⟩
  defaultAudio := hs.defaultAudio
  defaultVideo := hs.defaultVideo

theorem succeeds_check_iff (hs : s.HasPlainEntries) : Succeeds s.check ↔ s.IsValid := by
  have hlevel : ∀ name, Succeeds (checkChoice name (Level.names.map (·.1)) s.logLevel) ↔
      IsLevel s.logLevel := fun _ => succeeds_checkChoice_iff _ hs.level
  rw [isValid_iff, ← hlevel "runtime.log_level"]
  apply succeeds_bind_iff_and
  intro _ _
  rw [← succeeds_checkName_iff]
  apply succeeds_bind_iff_and
  intro _ _
  -- the ids of the lists are known once the lists have passed
  refine (succeeds_bind_iff_of_value (checkIds_eq_ok_iff hs.audio)).trans
    (and_congr_right fun haudio => ?_)
  refine (succeeds_bind_iff_of_value (checkIds_eq_ok_iff hs.video)).trans
    (and_congr_right fun hvideo => ?_)
  rw [← succeeds_checkDefault_iff haudio hs.defaultAudio]
  apply succeeds_bind_iff_and
  intro _ _
  rw [← succeeds_checkDefault_iff hvideo hs.defaultVideo]
  apply succeeds_bind_iff_and
  intro _ _
  rw [← succeeds_checkName_iff]
  apply succeeds_bind_iff_and
  intro _ _
  exact succeeds_checkTexts_iff

end Settings

/-- Settings whose values can be written, and in which every entry of a device list is a mapping or
null, pass the checks exactly if they are valid. All others are a fault of the configuration. -/
theorem check_accepts_valid (s : Settings) (hs : s.HasPlainEntries) :
    (s.check = .ok () ↔ s.IsValid) ∧
      (¬s.IsValid → ∃ e, s.check = .error e ∧ e.kind = .configuration) := by
  have hiff := Settings.succeeds_check_iff hs
  refine ⟨⟨fun h => hiff.mp ⟨(), h⟩, fun h => ?_⟩, fun h => ?_⟩
  · obtain ⟨_, hcheck⟩ := hiff.mpr h
    exact hcheck
  · rw [← hiff] at h
    exact (Settings.failsOnly_check hs.legible).exists_of_not_succeeds h

/-- An integer and a text are the same id if they are written alike, for a preference and for
another entry. -/
theorem check_accepts_valid_respelled :
    let entry (id : Value) : Value := .map [(.text "name", .null), (.text "id", id)]
    let settings (ids : List Value) : Settings :=
      { logLevel := .text " WARN\n"
        catalog :=
          { backend := .text " ?", audioDevices := .list (ids.map entry)
            defaultAudioId := .text "1" }
        consent := { blockedOrigins := .list [.text ""] } }
    let apart := settings [.bool true, .int 1]
    let alike := settings [.text "1", .int 1]
    apart.HasPlainEntries ∧ alike.HasPlainEntries ∧ apart.IsValid ∧ apart.check = .ok () ∧
      ∃ e, alike.check = .error e ∧ e.kind = .configuration := by
  intro entry settings apart alike
  have hplain : ∀ id other : Value, (Value.list [entry id, entry other]).isWritable = true →
      (settings [id, other]).HasPlainEntries := by
    intro id other hw
    refine ⟨rfl, ⟨hw, fun e he => .inr ?_⟩, ⟨rfl, nofun⟩, rfl, rfl⟩
    rcases List.mem_cons.mp he with rfl | he
    · rfl
    · rw [List.mem_singleton.mp he]
      rfl
  have hapart := hplain (.bool true) (.int 1) (by decide +kernel)
  have halike := hplain (.text "1") (.int 1) (by decide +kernel)
  have hvalid : apart.IsValid :=
    { level := by
        unfold Settings.IsLevel
        decide +kernel
      catalogName := ⟨" ?", rfl, '?', by decide, by decide⟩
      audio := ⟨rfl, by decide +kernel, by decide +kernel⟩
      video := ⟨rfl, nofun, .nil⟩
      defaultAudio := fun _ => ⟨entry (.int 1), .tail _ (.head _), by decide +kernel⟩
      defaultVideo := nofun
      consentName := ⟨"decline", rfl, 'd', by decide, by decide⟩
      origins := ⟨[""], rfl⟩ }
  have hinvalid : ¬alike.IsValid := by
    intro h
    exact absurd h.audio.distinct (by decide +kernel)
  exact ⟨hapart, halike, hvalid, (check_accepts_valid apart hapart).1.mpr hvalid,
    (check_accepts_valid alike halike).2 hinvalid⟩

end CaptureArbiter
