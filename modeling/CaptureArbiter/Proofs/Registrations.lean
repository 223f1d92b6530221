import CaptureArbiter.Proofs.Names
import CaptureArbiter.Proofs.Paths
import Mathlib.Data.List.Induction

/-!
# Registrations

A registry is a map from the keys of names. Its keys are those registered so far, in the order of
their first registration, and a name leads to what was registered last under its key. Looking a name
up may load modules on the way, but it leaves the registry as it is.
-/

namespace CaptureArbiter

open Act

namespace Registry

variable {α : Type} {r : Registry α} {key : String}

theorem isSome_find?_iff : (r.find? key).isSome = true ↔ key ∈ r.keys := by
  simp [find?, keys]

theorem keys_insert (r : Registry α) (key : String) (x : α) :
    (r.insert key x).keys = if key ∈ r.keys then r.keys else r.keys ++ [key] := by
  cases h : r.find? key with
  | none =>
    have hnot : key ∉ r.keys := by
      rw [← isSome_find?_iff, h]
      simp
    rw [keys_insert_of_none h, if_neg hnot]
  | some y =>
    have hsome : (r.find? key).isSome = true := by rw [h]; rfl
    rw [keys_insert_of_some hsome, if_pos (isSome_find?_iff.mp hsome)]

def ofList (entries : List (String × α)) : Registry α :=
  entries.foldl (fun r e => r.insert e.1 e.2) {}

theorem ofList_concat (entries : List (String × α)) (e : String × α) :
    ofList (entries ++ [e]) = (ofList entries).insert e.1 e.2 := by
  rw [ofList, List.foldl_append]
  rfl

theorem keys_ofList (entries : List (String × α)) :
    (ofList entries).keys = (entries.map Prod.fst).eraseDups := by
  induction entries using List.reverseRecOn with
  | nil => rfl
  | append_singleton entries e ih =>
    rw [ofList_concat, keys_insert, ih, List.map_append, List.eraseDups_append]
    have hone : ([e.1].removeAll (entries.map Prod.fst)).eraseDups =
        if e.1 ∈ entries.map Prod.fst then [] else [e.1] := by
      by_cases h : e.1 ∈ entries.map Prod.fst <;> simp [List.removeAll, List.eraseDups_cons, h]
    rw [List.map_singleton, hone]
    by_cases h : e.1 ∈ entries.map Prod.fst
    · rw [if_pos (List.mem_eraseDups.mpr h), if_pos h, List.append_nil]
    · rw [if_neg (fun hmem => h (List.mem_eraseDups.mp hmem)), if_neg h]

theorem find?_ofList (entries : List (String × α)) (key : String) :
    (ofList entries).find? key = entries.reverse.lookup key := by
  -- from the end: the last entry decides alone if it has the key
  induction entries using List.reverseRecOn with
  | nil => rfl
  | append_singleton entries e ih =>
    rw [ofList_concat, List.reverse_append, List.reverse_singleton, List.singleton_append]
    by_cases h : key = e.1
    · subst h
      rw [find?_insert_self, List.lookup_cons_self]
    · have hne : (key == e.1) = false := by simpa using h
      rw [find?_insert_of_ne (Ne.symm h), ih, List.lookup_cons, hne]

end Registry

namespace NameOperation

/-- The key and the object of a registration. The name of one that fails has no key. -/
def registration? : NameOperation → Option (String × String)
  | .register name object => (Registry.keyOf name).toOption.map fun key => (key, object)
  | _ => none

end NameOperation

def registrations (ops : List NameOperation) : List (String × String) :=
  ops.filterMap NameOperation.registration?

namespace NameSession

variable {s : NameSession} {name : Value} {key package : String}

def after (s : NameSession) : List NameOperation → NameSession
  | [] => s
  | op :: ops => ((perform op).run s).2.after ops

theorem keeps_own {α : Type} (r : Registry String) (a : Act Backends α) :
    Keeps (fun s : NameSession => s.own = r) (onBackends a) := by
  have hany : Keeps (fun _ => True) a := fun _ _ => trivial
  exact .zoom (fun _ _ => trivial) (fun _ _ h _ => h) hany

theorem own_resolve (load : String → Act Backends (Option String)) (name : Value)
    (package label : String) (s : NameSession) :
    ((Registry.resolve own (fun path => onBackends (load path)) name package label).run s).2.own =
      s.own :=
  Registry.keeps_resolve (fun path => keeps_own s.own (load path)) name package label s rfl

theorem run_register_ok (object : String) (hkey : Registry.keyOf name = .ok key)
    (s : NameSession) :
    ((perform (.register name object)).run s).2.own = s.own.insert key object := by
  rw [perform, register, run_bind_ok (by rw [run_ofExcept, hkey])]
  rfl

theorem run_register_error {e : Failure} (object : String) (hkey : Registry.keyOf name = .error e)
    (s : NameSession) : (perform (.register name object)).run s = (.error e, s) := by
  rw [perform, register, run_bind_error (by rw [run_ofExcept, hkey])]

theorem own_perform (op : NameOperation) (s : NameSession) :
    ((perform op).run s).2.own =
      op.registration?.elim s.own fun e => s.own.insert e.1 e.2 := by
  cases op with
  | register name object =>
    cases hkey : Registry.keyOf name with
    | error e =>
      rw [run_register_error object hkey, NameOperation.registration?, hkey]
      rfl
    | ok key =>
      rw [run_register_ok object hkey, NameOperation.registration?, hkey]
      rfl
  | resolve name package label => exact own_resolve Backends.load name package label s
  | makeCatalog name =>
    have hkeeps := Keeps.bind (keeps_own s.own (Backends.catalogBackend name))
      fun kind => Keeps.pure kind.className
    exact hkeeps s rfl
  | makeConsent name =>
    have hkeeps := Keeps.bind (keeps_own s.own (Backends.consentBackend name))
      fun kind => Keeps.pure kind.className
    exact hkeeps s rfl

theorem own_after (s : NameSession) (ops : List NameOperation) :
    (s.after ops).own = (registrations ops).foldl (fun r e => r.insert e.1 e.2) s.own := by
  induction ops generalizing s with
  | nil => rfl
  | cons op ops ih =>
    rw [after, ih, own_perform]
    cases h : op.registration? <;> simp [registrations, h]

theorem run_resolve_found {object : String} (package label : String)
    (hkey : Registry.keyOf name = .ok key) (hfound : s.own.find? key = some object) :
    (perform (.resolve name package label)).run s = (.ok object, s) := by
  let load (path : String) := onBackends (Backends.load path)
  have hload : (Registry.loading own load package key).run s = (.ok none, s) :=
    Registry.run_loading_of_registered load package hfound
  rw [perform, Registry.run_resolve label hkey hload, hfound]

theorem run_resolve_missing (label : String) (hkey : Registry.keyOf name = .ok key)
    (h : Backends.IsOutermost package) (hmissing : s.own.find? key = none) :
    ∃ hint b, (perform (.resolve name package label)).run s =
      (.error (.unknownBackend label name.display s.own.sortedKeys hint),
        { s with backends := b }) := by
  let load (path : String) := onBackends (Backends.load path)
  -- the empty key names no module, and every other one is looked for in the package
  have hload : ∃ hint b, (Registry.loading own load package key).run s =
      (.ok hint, { s with backends := b }) := by
    by_cases hempty : key = ""
    · subst hempty
      exact ⟨none, s.backends, rfl⟩
    · obtain ⟨hint, b, hrun, _⟩ := Backends.run_load h key s.backends
      refine ⟨hint, b, ?_⟩
      rw [Registry.run_loading_of_missing hempty hmissing]
      show (onBackends _).run s = _
      rw [onBackends, run_zoom, hrun]
  obtain ⟨hint, b, hload⟩ := hload
  refine ⟨hint, b, ?_⟩
  have hrun := Registry.run_resolve label hkey hload
  simp only [hmissing] at hrun
  rw [perform]
  exact hrun

theorem run_resolve_error {e : Failure} (package label : String)
    (hkey : Registry.keyOf name = .error e) (s : NameSession) :
    (perform (.resolve name package label)).run s = (.error e, s) := by
  rw [perform, Registry.resolve, run_bind_error (by rw [run_ofExcept, hkey])]

end NameSession

theorem isOutermost_of_mem {package : String} (h : package ∈ ["catalog", "consent", "core"]) :
    Backends.IsOutermost package := by
  simp only [List.mem_cons, List.not_mem_nil, or_false] at h
  rcases h with rfl | rfl | rfl
  · exact Backends.isOutermost_catalog
  · exact Backends.isOutermost_consent
  · exact ⟨by decide, by decide +kernel⟩

open NameSession in
/-- From an empty registry, whatever has become of the library's own ones: the keys are those that
were registered, each where it came first. A name leads to what was registered last under its key,
and is a bad value if there is nothing. Looking up leaves the registry as it is, also when the
module that is loaded does something else to the library's registries or fails in some other way. -/
theorem registry_maps_keys (s : NameSession) (ops : List NameOperation) :
    let t := ({ s with own := {} } : NameSession).after ops
    let entries := registrations ops
    t.own.keys = (entries.map Prod.fst).eraseDups ∧
      t.own.keys.Nodup ∧
      (∀ name package label, package ∈ ["catalog", "consent", "core"] →
        let found := (perform (.resolve name package label)).run t
        (∀ object, found.1 = .ok object ↔
          ∃ key, Registry.keyOf name = .ok key ∧ entries.reverse.lookup key = some object) ∧
        FailsOnly .badValue found.1 ∧
        found.2.own = t.own) ∧
      ∀ (load : String → Act Backends (Option String)) name package label,
        ((Registry.resolve own (fun path => onBackends (load path)) name package
          label).run t).2.own = t.own := by
  intro t entries
  have hown : t.own = Registry.ofList entries := own_after _ ops
  have hkeys : t.own.keys = (entries.map Prod.fst).eraseDups := by
    rw [hown, Registry.keys_ofList]
  refine ⟨hkeys, hkeys ▸ Path.Folder.nodup_eraseDups _, ?_, fun load name package label =>
    own_resolve load name package label t⟩
  intro name package label hpackage found
  cases hkey : Registry.keyOf name with
  | error e =>
    have hfound : found = (.error e, t) := run_resolve_error package label hkey t
    rw [hfound]
    refine ⟨fun object => ?_, .error (Registry.kind_of_keyOf_error hkey), rfl⟩
    simp
  | ok key =>
    have hlatest : t.own.find? key = entries.reverse.lookup key := by
      rw [hown, Registry.find?_ofList]
    cases hx : entries.reverse.lookup key with
    | some x =>
      have hfound : found = (.ok x, t) :=
        run_resolve_found package label hkey (hlatest.trans hx)
      rw [hfound]
      refine ⟨fun object => ?_, .ok x, rfl⟩
      simp [hx]
    | none =>
      obtain ⟨hint, b, hmissing⟩ := run_resolve_missing label hkey
        (isOutermost_of_mem hpackage) (hlatest.trans hx)
      have hfound : found = (_, { t with backends := b }) := hmissing
      rw [hfound]
      refine ⟨fun object => ?_, .error rfl, rfl⟩
      simp [hx]

open NameSession in
/-- A name that is registered again in another spelling, one of no text, and the name of a backend,
whose module registers it elsewhere. -/
theorem registry_maps_keys_respelled :
    let ops : List NameOperation := [.register (.text " Mic\n") "old",
      .resolve (.text "policy.x") "consent" "kind", .register .null "nameless",
      .register (.text "MIC") "new", .register (.text "cam") "other"]
    let t := ({} : NameSession).after ops
    let lookup := perform (.resolve (.text "Static") "catalog" "kind")
    "catalog" ∈ ["catalog", "consent", "core"] ∧
      t.own.keys = ["mic", "", "cam"] ∧
      ((perform (.resolve (.text "mIc ") "catalog" "kind")).run t).1 = .ok "new" ∧
      (∃ e, (lookup.run t).1 = .error e ∧ e.kind = .badValue) ∧
      (lookup.run t).2.own = t.own ∧
      (lookup.run t).2.backends.catalogs.keys = ["static"] := by
  intro ops t lookup
  have hpackage : "catalog" ∈ ["catalog", "consent", "core"] := by simp
  have hentries : registrations ops =
      [("mic", "old"), ("", "nameless"), ("mic", "new"), ("cam", "other")] := by decide +kernel
  obtain ⟨hkeys, _, hresolve, _⟩ := registry_maps_keys {} ops
  rw [hentries] at hkeys hresolve
  have hmic : Registry.keyOf (.text "mIc ") = .ok "mic" := eq_ok_of_toOption (by decide +kernel)
  have hstatic : Registry.keyOf (.text "Static") = .ok "static" :=
    eq_ok_of_toOption (by decide +kernel)
  have hlatest : ([("mic", "old"), ("", "nameless"), ("mic", "new"), ("cam", "other")] :
      List (String × String)).reverse.lookup "mic" = some "new" := by decide
  have hnone : ([("mic", "old"), ("", "nameless"), ("mic", "new"), ("cam", "other")] :
      List (String × String)).reverse.lookup "static" = none := by decide
  have hfound := ((hresolve (.text "mIc ") "catalog" "kind" hpackage).1 "new").mpr
    ⟨"mic", hmic, hlatest⟩
  obtain ⟨hiff, hfails, hown⟩ := hresolve (.text "Static") "catalog" "kind" hpackage
  have hmissing : ¬Succeeds (lookup.run t).1 := by
    rintro ⟨object, hobject⟩
    obtain ⟨key, hkey, hlookup⟩ := (hiff object).mp hobject
    rw [hstatic, Except.ok.injEq] at hkey
    rw [← hkey, hnone] at hlookup
    cases hlookup
  have hregistered : (lookup.run t).2.backends.catalogs.keys = ["static"] := by decide +kernel
  refine ⟨hpackage, ?_, hfound, hfails.exists_of_not_succeeds hmissing, ?_, hregistered⟩
  · rw [hkeys]
    decide
  · simpa only [t, lookup] using hown

end CaptureArbiter
