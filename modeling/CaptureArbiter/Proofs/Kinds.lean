import CaptureArbiter.Proofs.History
import CaptureArbiter.Proofs.Readings

/-!
# Devices of their own kind

A catalog that is made from a description lists microphones as sounds and cameras as pictures, and
no change of its lists breaks that. So what is found, first or preferred in a list is of its kind.
-/

namespace CaptureArbiter

/-- Each list holds devices of its own kind only. -/
structure Catalog.IsTyped (c : Catalog) : Prop where
  audio : ∀ d ∈ c.audio, d.kind = .deviceAudio
  video : ∀ d ∈ c.video, d.kind = .deviceVideo

namespace Catalog

/-- The devices of a kind that are attached, in the order of the catalog. -/
def listed (c : Catalog) : StreamKind → List Device
  | .deviceAudio => c.audio
  | .deviceVideo => c.video
  | _ => []

variable {c c' : Catalog} {kind : StreamKind} {devices : List Device} {d : Device} {id : String}

theorem kind_of_deviceOfEntry {v : Value} (h : deviceOfEntry kind v = .ok d) : d.kind = kind := by
  cases v with
  | map fields =>
    rw [deviceOfEntry] at h
    obtain ⟨id, _, h⟩ := exists_of_bind_ok h
    obtain ⟨name, _, h⟩ := exists_of_bind_ok h
    cases h
    rfl
  | _ => cases h

theorem kind_of_devicesOfEntries {entries : Value}
    (h : devicesOfEntries kind entries = .ok devices) : ∀ d ∈ devices, d.kind = kind := by
  rw [devicesOfEntries] at h
  obtain ⟨items, _, h⟩ := exists_of_bind_ok h
  intro d hd
  obtain ⟨item, _, hitem⟩ := exists_of_mem_mapM h d hd
  exact kind_of_deviceOfEntry hitem

theorem isTyped_ofBlock {block : CatalogBlock} (h : ofBlock block = .ok c) : c.IsTyped := by
  rw [ofBlock] at h
  obtain ⟨audio, haudio, h⟩ := exists_of_bind_ok h
  obtain ⟨video, hvideo, h⟩ := exists_of_bind_ok h
  obtain ⟨audioId, _, h⟩ := exists_of_bind_ok h
  obtain ⟨videoId, _, h⟩ := exists_of_bind_ok h
  cases h
  exact ⟨kind_of_devicesOfEntries haudio, kind_of_devicesOfEntries hvideo⟩

theorem IsTyped.setAudio (hc : c.IsTyped) (h : c.setAudio devices = .ok c') : c'.IsTyped := by
  obtain ⟨checked, hchecked, hset⟩ := exists_of_bind_ok h
  obtain ⟨rfl, hkind⟩ := checkKind_eq_ok hchecked
  cases hset
  exact ⟨hkind, hc.video⟩

theorem IsTyped.setVideo (hc : c.IsTyped) (h : c.setVideo devices = .ok c') : c'.IsTyped := by
  obtain ⟨checked, hchecked, hset⟩ := exists_of_bind_ok h
  obtain ⟨rfl, hkind⟩ := checkKind_eq_ok hchecked
  cases hset
  exact ⟨hc.audio, hkind⟩

theorem stable_of_lists {P : Catalog → Prop}
    (haudio : ∀ {c c' : Catalog} {devices}, c.setAudio devices = .ok c' → P c → P c')
    (hvideo : ∀ {c c' : Catalog} {devices}, c.setVideo devices = .ok c' → P c → P c') :
    Office.Stable (fun _ => True) (fun o => P o.catalog) where
  named _ := Consent.says_true _
  desk _ :=
    { named := fun _ => trivial
      noted := fun _ h => h
      parked := fun _ h => h
      wasted := fun _ _ _ _ h => h
      settled := fun _ _ _ _ h => h }
  audio _ hc h := haudio hc h
  video _ hc h := hvideo hc h
  frames _ h := h
  handler _ _ h := h
  tallied _ h := h
  added _ h := h

theorem IsTyped.stable : Office.Stable (fun _ => True) (fun o => o.catalog.IsTyped) :=
  stable_of_lists (fun hset hc => hc.setAudio hset) (fun hset hc => hc.setVideo hset)

theorem isTyped_after {block : CatalogBlock} {s : Session}
    (h : ofBlock block = .ok s.office.catalog) (ops : List Operation) :
    (s.after ops).office.catalog.IsTyped :=
  IsTyped.stable.after (fun op _ => op.says_true) (isTyped_ofBlock h)

theorem IsTyped.findAudio (hc : c.IsTyped) (h : c.findAudio id = some d) : d.kind = .deviceAudio :=
  hc.audio d (mem_of_findById h)

theorem IsTyped.findVideo (hc : c.IsTyped) (h : c.findVideo id = some d) : d.kind = .deviceVideo :=
  hc.video d (mem_of_findById h)

theorem IsTyped.defaultAudio (hc : c.IsTyped) (h : c.defaultAudio = some d) :
    d.kind = .deviceAudio := by
  rw [Catalog.defaultAudio, Option.or_eq_some_iff] at h
  rcases h with h | ⟨_, h⟩
  · exact hc.findAudio h
  · exact hc.audio d (List.mem_of_head? h)

theorem IsTyped.defaultVideo (hc : c.IsTyped) (h : c.defaultVideo = some d) :
    d.kind = .deviceVideo := by
  rw [Catalog.defaultVideo, Option.or_eq_some_iff] at h
  rcases h with h | ⟨_, h⟩
  · exact hc.findVideo h
  · exact hc.video d (List.mem_of_head? h)

end Catalog

end CaptureArbiter
