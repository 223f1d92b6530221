import CaptureArbiter.Backends
import CaptureArbiter.Proofs.Readings

/-!
# Registered backends

The module of a backend registers it under the name of the backend, and nothing else registers
anything. So the library's own names lead to the library's own backends, whatever has been loaded
before, and a name that leads nowhere is the only failure of a look-up.
-/

namespace CaptureArbiter

open Act

namespace Registry

variable {α σ : Type} {view : σ → Registry α} {load : String → Act σ (Option String)}
  {name : Value} {package key : String} {s t : σ} {x : α} {hint : Option String}

/-- What loading the module of a key gives, if the key is not registered. -/
def loading (view : σ → Registry α) (load : String → Act σ (Option String)) (package key : String) :
    Act σ (Option String) := fun s =>
  if key == "" || ((view s).find? key).isSome then (.ok none, s)
  else (load (String.join [package, ".", key])).run s

theorem run_resolve (label : String) (hkey : keyOf name = .ok key)
    (hload : (loading view load package key).run s = (.ok hint, t)) :
    (resolve view load name package label).run s =
      (match (view t).find? key with
        | some x => .ok x
        | none => .error (.unknownBackend label name.display (view t).sortedKeys hint), t) := by
  rw [resolve, run_bind_ok (by rw [run_ofExcept, hkey]), run_bind_ok (run_get s)]
  simp only [run, loading] at hload
  dsimp only
  split at hload
  · next hknown =>
    cases hload
    rw [if_pos hknown, run_bind_ok (run_pure none s), run_bind_ok (run_get s)]
    cases (view s).find? key <;> rfl
  · next hknown =>
    rw [if_neg hknown, run_bind_ok hload, run_bind_ok (run_get t)]
    cases (view t).find? key <;> rfl

theorem run_loading_of_registered (load : String → Act σ (Option String)) (package : String)
    (hx : (view s).find? key = some x) :
    (loading view load package key).run s = (.ok none, s) := by
  simp only [run, loading, hx, Option.isSome_some, Bool.or_true, if_true]

theorem run_loading_of_missing (hne : key ≠ "") (hx : (view s).find? key = none) :
    (loading view load package key).run s = (load (String.join [package, ".", key])).run s := by
  have hempty : (key == "") = false := by simpa using hne
  simp only [run, loading, hempty, hx, Option.isSome_none, Bool.or_false, Bool.false_eq_true,
    if_false]

theorem mem_of_find? {r : Registry α} (h : r.find? key = some x) : (key, x) ∈ r.entries := by
  obtain ⟨e, he, rfl⟩ := Option.map_eq_some_iff.mp h
  have hkey : e.1 = key := by simpa using List.find?_some he
  rw [← hkey]
  exact List.mem_of_find?_eq_some he

theorem mem_insert {r : Registry α} {e : String × α} (h : e ∈ (r.insert key x).entries) :
    e ∈ r.entries ∨ e = (key, x) := by
  unfold insert at h
  split at h
  · obtain ⟨old, hold, rfl⟩ := List.mem_map.mp h
    split
    · exact .inr rfl
    · exact .inl hold
  · rcases List.mem_append.mp h with hold | hnew
    · exact .inl hold
    · exact .inr (List.mem_singleton.mp hnew)

end Registry

namespace Backends

/-- The library's own consent backends, with their names. -/
def ownConsents : List (String × ConsentBackend) :=
  [("decline", .decline), ("policy", .policy), ("handler", .handler)]

/-- Names of authorities lead to the library's own backends only. -/
def Own (b : Backends) : Prop := ∀ e ∈ b.consents.entries, e ∈ ownConsents

theorem own_empty : Own {} := by
  intro e h
  cases h

variable {b b' : Backends} {key : String} {name : Value} {kind : ConsentBackend}

theorem Own.mem_of_find? (hb : b.Own) (h : b.consents.find? key = some kind) :
    (key, kind) ∈ ownConsents :=
  hb _ (Registry.mem_of_find? h)

theorem Own.insert (hb : b.Own) (h : (key, kind) ∈ ownConsents) :
    Own { b with consents := b.consents.insert key kind } := by
  intro e he
  rcases Registry.mem_insert he with hold | rfl
  · exact hb e hold
  · exact h

theorem registerModule_cases (b : Backends) (path : String) :
    b.registerModule path = b ∨
      b.registerModule path = { b with catalogs := b.catalogs.insert "static" .static } ∨
      ∃ key kind, (key, kind) ∈ ownConsents ∧
        b.registerModule path = { b with consents := b.consents.insert key kind } := by
  unfold Backends.registerModule
  split
  · exact .inr (.inl rfl)
  split
  · exact .inr (.inr ⟨_, _, by simp [ownConsents], rfl⟩)
  split
  · exact .inr (.inr ⟨_, _, by simp [ownConsents], rfl⟩)
  split
  · exact .inr (.inr ⟨_, _, by simp [ownConsents], rfl⟩)
  · exact .inl rfl

theorem Own.registerModule (hb : b.Own) (path : String) : (b.registerModule path).Own := by
  rcases b.registerModule_cases path with hsame | hstatic | ⟨key, kind, hmem, hconsent⟩
  · rw [hsame]
    exact hb
  · rw [hstatic]
    exact hb
  · rw [hconsent]
    exact hb.insert hmem

theorem run_loadInside (names : List String) (loaded : String) (b : Backends) :
    ∃ hint b', (loadInside loaded names).run b = (.ok hint, b') ∧ (b.Own → b'.Own) := by
  induction names generalizing loaded b with
  | nil => exact ⟨none, b, rfl, id⟩
  | cons name names ih =>
    simp only [loadInside, run_ite]
    split
    · exact ⟨_, b, rfl, id⟩
    split
    · exact ⟨_, b, rfl, id⟩
    · let path := String.join [loaded, ".", name]
      obtain ⟨hint, b', hrun, hown⟩ := ih path (b.registerModule path)
      refine ⟨hint, b', ?_, fun hb => hown (hb.registerModule path)⟩
      rw [run_bind_ok (run_modify ..)]
      exact hrun

/-- A package that lies in no other one. -/
structure IsOutermost (package : String) : Prop where
  dotless : '.' ∉ package.toList
  known : isPackage package = true

theorem isOutermost_catalog : IsOutermost "catalog" := ⟨by decide, by decide +kernel⟩

theorem isOutermost_consent : IsOutermost "consent" := ⟨by decide, by decide +kernel⟩

variable {package : String}

theorem IsOutermost.ne_empty (h : IsOutermost package) : package ≠ "" := by
  rintro rfl
  exact absurd h.known (by decide +kernel)

theorem load_eq (h : IsOutermost package) (key : String) :
    load (String.join [package, ".", key]) =
      loadInside package ((Text.splitAt '.' key.toList).map String.ofList) := by
  have hchars : (String.join [package, ".", key]).toList = package.toList ++ '.' :: key.toList := by
    simp
  have hne := h.ne_empty
  rw [load, hchars, Text.splitAt_append h.dotless, List.map_cons, String.ofList_toList]
  simp only [h.known, if_true]

theorem run_load (h : IsOutermost package) (key : String) (b : Backends) :
    ∃ hint b', (load (String.join [package, ".", key])).run b = (.ok hint, b') ∧
      (b.Own → b'.Own) := by
  rw [load_eq h]
  exact run_loadInside ..

theorem run_loading {α : Type} (view : Backends → Registry α) (h : IsOutermost package)
    (key : String) (b : Backends) :
    ∃ hint b', (Registry.loading view load package key).run b = (.ok hint, b') ∧
      (b.Own → b'.Own) := by
  simp only [run, Registry.loading]
  split
  · exact ⟨none, b, rfl, id⟩
  · exact run_load h key b

theorem run_load_module (h : IsOutermost package) (hkey : '.' ∉ key.toList)
    (hmodule : isModule (String.join [package, ".", key]) = true) (b : Backends) :
    (load (String.join [package, ".", key])).run b =
      (.ok none, b.registerModule (String.join [package, ".", key])) := by
  have hsplit : (Text.splitAt '.' key.toList).map String.ofList = [key] := by
    rw [Text.splitAt_of_not_mem hkey, List.map_singleton, String.ofList_toList]
  rw [load_eq h, hsplit]
  simp only [loadInside, h.known, hmodule, Bool.not_true, Bool.false_eq_true, if_false]
  rw [run_bind_ok (run_modify ..)]
  rfl

theorem run_resolve {α : Type} (view : Backends → Registry α) (label : String)
    (h : IsOutermost package) (hkey : Registry.keyOf name = .ok key) (b : Backends) :
    ∃ hint b', (Registry.resolve view load name package label).run b =
      (match (view b').find? key with
        | some x => .ok x
        | none => .error (.unknownBackend label name.display (view b').sortedKeys hint), b') ∧
      (b.Own → b'.Own) := by
  obtain ⟨hint, b', hload, hown⟩ := run_loading view h key b
  exact ⟨hint, b', Registry.run_resolve label hkey hload, hown⟩

theorem run_resolve_module {α : Type} (view : Backends → Registry α) (label : String)
    (hkey : Registry.keyOf name = .ok key) (hne : key ≠ "")
    (hload : ∀ b, (load (String.join [package, ".", key])).run b =
      (.ok none, b.registerModule (String.join [package, ".", key])))
    (hregisters : ∀ b : Backends,
      ∃ x, (view (b.registerModule (String.join [package, ".", key]))).find? key = some x)
    (b : Backends) :
    ∃ x b', (Registry.resolve view load name package label).run b = (.ok x, b') ∧
      (view b').find? key = some x ∧ (b.Own → b'.Own) := by
  cases hx : (view b).find? key with
  | some x =>
    have hrun := Registry.run_resolve label hkey
      (Registry.run_loading_of_registered load package hx)
    rw [hx] at hrun
    exact ⟨x, b, hrun, hx, id⟩
  | none =>
    obtain ⟨x, hreg⟩ := hregisters b
    have hrun := Registry.run_resolve label hkey
      ((Registry.run_loading_of_missing hne hx).trans (hload b))
    rw [hreg] at hrun
    exact ⟨x, _, hrun, hreg, fun hb => hb.registerModule _⟩

/-- There is one catalog backend only, so its name leads there whatever has been loaded before. -/
theorem run_catalogBackend (hkey : Registry.keyOf name = .ok "static") (b : Backends) :
    ∃ b', (catalogBackend name).run b = (.ok .static, b') ∧ (b.Own → b'.Own) := by
  have hload := run_load_module isOutermost_catalog (by decide : '.' ∉ "static".toList)
    (by decide +kernel)
  obtain ⟨x, b', hrun, _, hown⟩ := run_resolve_module catalogs "catalog type" hkey (by decide)
    hload (fun b => ⟨.static, Registry.find?_insert_self ..⟩) b
  cases x
  exact ⟨b', hrun, hown⟩

theorem ownConsents_cases (h : (key, kind) ∈ ownConsents) :
    (key = "decline" ∧ kind = .decline) ∨ (key = "policy" ∧ kind = .policy) ∨
      (key = "handler" ∧ kind = .handler) := by
  simpa [ownConsents] using h

theorem ownConsents_unique {kind' : ConsentBackend} (h : (key, kind) ∈ ownConsents)
    (h' : (key, kind') ∈ ownConsents) : kind' = kind := by
  rcases ownConsents_cases h with ⟨rfl, rfl⟩ | ⟨rfl, rfl⟩ | ⟨rfl, rfl⟩ <;>
    simpa [ownConsents] using h'

theorem run_consentBackend (hmem : (key, kind) ∈ ownConsents)
    (hkey : Registry.keyOf name = .ok key) (hb : b.Own) :
    ∃ b', (consentBackend name).run b = (.ok kind, b') ∧ b'.Own := by
  have hdot : key ≠ "" ∧ '.' ∉ key.toList := by
    rcases ownConsents_cases hmem with ⟨rfl, rfl⟩ | ⟨rfl, rfl⟩ | ⟨rfl, rfl⟩ <;>
      exact ⟨by decide, by decide⟩
  have hmodule : isModule (String.join ["consent", ".", key]) = true := by
    rcases ownConsents_cases hmem with ⟨rfl, rfl⟩ | ⟨rfl, rfl⟩ | ⟨rfl, rfl⟩ <;> decide +kernel
  have hregisters : ∀ b : Backends,
      (b.registerModule (String.join ["consent", ".", key])).consents.find? key = some kind := by
    rcases ownConsents_cases hmem with ⟨rfl, rfl⟩ | ⟨rfl, rfl⟩ | ⟨rfl, rfl⟩ <;>
      exact fun b => Registry.find?_insert_self ..
  have hload := run_load_module isOutermost_consent hdot.2 hmodule
  -- what is found may have been registered before, but then it was the same
  obtain ⟨x, b', hrun, hx, hown⟩ := run_resolve_module consents "consent type" hkey hdot.1 hload
    (fun b => ⟨kind, hregisters b⟩) b
  have hx' := ownConsents_unique hmem ((hown hb).mem_of_find? hx)
  rw [hx'] at hrun
  exact ⟨b', hrun, hown hb⟩

theorem consentBackend_cases (hkey : Registry.keyOf name = .ok key) (hb : b.Own) :
    ∃ b', b'.Own ∧
      ((∃ kind, (key, kind) ∈ ownConsents ∧ (consentBackend name).run b = (.ok kind, b')) ∨
        ∃ available hint, (consentBackend name).run b =
          (.error (.unknownBackend "consent type" name.display available hint), b')) := by
  obtain ⟨hint, b', hrun, hown⟩ := run_resolve consents "consent type" isOutermost_consent hkey b
  refine ⟨b', hown hb, ?_⟩
  cases hx : b'.consents.find? key with
  | some kind =>
    rw [hx] at hrun
    exact .inl ⟨kind, (hown hb).mem_of_find? hx, hrun⟩
  | none =>
    rw [hx] at hrun
    exact .inr ⟨_, hint, hrun⟩

theorem catalogBackend_cases (hkey : Registry.keyOf name = .ok key) (hb : b.Own) :
    ∃ b', b'.Own ∧ ((catalogBackend name).run b = (.ok .static, b') ∨
      ∃ available hint, (catalogBackend name).run b =
        (.error (.unknownBackend "catalog type" name.display available hint), b')) := by
  obtain ⟨hint, b', hrun, hown⟩ := run_resolve catalogs "catalog type" isOutermost_catalog hkey b
  refine ⟨b', hown hb, ?_⟩
  cases hx : b'.catalogs.find? key with
  | some x =>
    cases x
    rw [hx] at hrun
    exact .inl hrun
  | none =>
    rw [hx] at hrun
    exact .inr ⟨_, hint, hrun⟩

end Backends

end CaptureArbiter
