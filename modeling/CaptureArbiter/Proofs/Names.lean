import CaptureArbiter.Proofs.Keeps
import CaptureArbiter.Proofs.Registered

/-!
# Names lead to the same backends at any time

Looking a name up may load modules on the way, also when nothing is found in the end. Whatever has
been loaded, the registries of the library hold its own backends only and lose none of them, so it
makes no difference to a name what was looked up before.
-/

namespace CaptureArbiter

open Act

namespace Registry

variable {α σ : Type} {P : σ → Prop} {r : Registry α} {key : String} {x : α}

theorem kind_of_keyOf_error {name : Value} {e : Failure} (h : keyOf name = .error e) :
    e.kind = .badValue := by
  have hfails : FailsOnly .badValue name.toTextOrEmpty := by
    unfold Value.toTextOrEmpty Value.toText
    split
    · split
      · exact .ok _
      · exact .error rfl
    · exact .ok _
  have hkey : FailsOnly .badValue (keyOf name) := .bind hfails fun _ _ => .ok _
  exact hkey.kind_eq e h

theorem keeps_resolve {view : σ → Registry α} {load : String → Act σ (Option String)}
    (hload : ∀ path, Keeps P (load path)) (name : Value) (package label : String) :
    Keeps P (resolve view load name package label) := by
  refine .bind (.ofExcept _) fun key => .bind_get fun s _ => ?_
  dsimp only
  split
  · refine .bind (.pure none) fun hint => .bind_get fun t _ => ?_
    cases (view t).find? key with
    | some x => exact .pure x
    | none => exact .fail _
  · refine .bind (hload _) fun hint => .bind_get fun t _ => ?_
    cases (view t).find? key with
    | some x => exact .pure x
    | none => exact .fail _

/-- What is registered again as what it was stays as it is, and a new key goes to the end. -/
theorem prefix_insert (h : ∀ e ∈ r.entries, e.1 = key → e = (key, x)) :
    r.entries <+: (r.insert key x).entries := by
  unfold insert
  split
  · have hsame : (r.entries.map fun e => if e.1 == key then (key, x) else e) = r.entries := by
      have hfix : ∀ e ∈ r.entries, (if e.1 == key then (key, x) else e) = id e := by
        intro e he
        by_cases hkey : e.1 = key
        · simp [h e he hkey]
        · simp [hkey]
      rw [List.map_congr_left hfix, List.map_id]
    simp only [hsame, List.prefix_rfl]
  · exact List.prefix_append ..

end Registry

namespace Backends

variable {b b' b'' : Backends} {name : Value}

/-- The registries hold the library's own backends only. -/
structure Known (b : Backends) : Prop where
  catalogs : ∀ e ∈ b.catalogs.entries, e = ("static", .static)
  consents : b.Own

/-- What was registered before is registered still, and what is new comes after it. -/
structure Extends (b b' : Backends) : Prop where
  catalogs : b.catalogs.entries <+: b'.catalogs.entries
  consents : b.consents.entries <+: b'.consents.entries

theorem known_empty : Known {} where
  catalogs _ he := nomatch he
  consents := own_empty

theorem Extends.refl (b : Backends) : b.Extends b := ⟨List.prefix_rfl, List.prefix_rfl⟩

theorem Extends.trans (h : b.Extends b') (h' : b'.Extends b'') : b.Extends b'' :=
  ⟨h.catalogs.trans h'.catalogs, h.consents.trans h'.consents⟩

theorem Known.registerModule (hb : b.Known) (path : String) :
    (b.registerModule path).Known ∧ b.Extends (b.registerModule path) := by
  have hown := hb.consents.registerModule path
  rcases b.registerModule_cases path with hsame | hstatic | ⟨key, kind, hmem, hconsent⟩
  · rw [hsame]
    exact ⟨hb, .refl b⟩
  · have hentries : ∀ e ∈ (b.catalogs.insert "static" .static).entries,
        e = ("static", .static) := by
      intro e he
      rcases Registry.mem_insert he with hold | hnew
      · exact hb.catalogs e hold
      · exact hnew
    have hprefix := Registry.prefix_insert fun e he _ => hb.catalogs e he
    rw [hstatic] at hown ⊢
    exact ⟨⟨hentries, hown⟩, hprefix, List.prefix_rfl⟩
  · have hprefix : b.consents.entries <+: (b.consents.insert key kind).entries := by
      refine Registry.prefix_insert fun e he hkey => ?_
      have hold : (key, e.2) ∈ ownConsents := hkey ▸ hb.consents e he
      have hkind := ownConsents_unique hold hmem
      exact Prod.ext hkey hkind.symm
    rw [hconsent] at hown ⊢
    exact ⟨⟨hb.catalogs, hown⟩, List.prefix_rfl, hprefix⟩

theorem keeps_load {P : Backends → Prop} (h : ∀ b path, P b → P (b.registerModule path))
    (path : String) : Keeps P (load path) := by
  have hinside : ∀ names loaded, Keeps P (loadInside loaded names) := by
    intro names
    induction names with
    | nil => exact fun _ => .pure none
    | cons name names ih =>
      intro loaded
      refine .ite (.pure _) (.ite (.pure _) ?_)
      exact .bind (.modify fun b hb => h b _ hb) fun _ => ih _
  unfold load
  split
  · exact .pure none
  · exact .fail _
  · exact .ite (hinside _ _) (.pure _)

theorem keeps_load_from (b : Backends) (path : String) :
    Keeps (fun b' => b'.Known ∧ b.Extends b') (load path) := by
  apply keeps_load
  intro b' path' h
  obtain ⟨hknown, hextends⟩ := h.1.registerModule path'
  exact ⟨hknown, h.2.trans hextends⟩

theorem failsOnly_resolve {α : Type} {package : String} (view : Backends → Registry α)
    (h : IsOutermost package) (name : Value) (label : String) (b : Backends) :
    FailsOnly .badValue ((Registry.resolve view load name package label).run b).1 := by
  cases hkey : Registry.keyOf name with
  | error e =>
    rw [Registry.resolve, run_bind_error (by rw [run_ofExcept, hkey])]
    exact .error (Registry.kind_of_keyOf_error hkey)
  | ok key =>
    obtain ⟨hint, b', hrun, _⟩ := run_resolve view label h hkey b
    rw [hrun]
    cases (view b').find? key with
    | some x => exact .ok x
    | none => exact .error rfl

theorem exists_key_of_resolve {α : Type} {view : Backends → Registry α} {package label : String}
    {x : α} (h : ((Registry.resolve view load name package label).run b).1 = .ok x) :
    ∃ key, Registry.keyOf name = .ok key := by
  cases hkey : Registry.keyOf name with
  | error e =>
    rw [Registry.resolve, run_bind_error (by rw [run_ofExcept, hkey])] at h
    cases h
  | ok key => exact ⟨key, rfl⟩

theorem catalogBackend_eq_ok_iff (hb : b.Known) :
    ((catalogBackend name).run b).1 = .ok .static ↔ Registry.keyOf name = .ok "static" := by
  constructor
  · intro hfound
    obtain ⟨key, hkey⟩ := exists_key_of_resolve hfound
    obtain ⟨hint, b', hrun, _⟩ := run_resolve catalogs "catalog type" isOutermost_catalog hkey b
    have hkeeps : Keeps (fun b' => b'.Known ∧ b.Extends b') (catalogBackend name) :=
      Registry.keeps_resolve (keeps_load_from b) _ _ _
    have hend := hkeeps b ⟨hb, .refl b⟩
    rw [catalogBackend, hrun] at hfound hend
    -- what is found stands under its key in the registry, where no other key is
    cases hx : b'.catalogs.find? key with
    | none =>
      rw [hx] at hfound
      cases hfound
    | some x =>
      have hentry := hend.1.catalogs _ (Registry.mem_of_find? hx)
      have hsame : key = "static" := congrArg Prod.fst hentry
      rw [hkey, hsame]
  · intro hkey
    obtain ⟨b', hrun, _⟩ := run_catalogBackend hkey b
    rw [hrun]

theorem consentBackend_eq_ok_iff (hb : b.Own) {kind : ConsentBackend} :
    ((consentBackend name).run b).1 = .ok kind ↔
      ∃ key, Registry.keyOf name = .ok key ∧ (key, kind) ∈ ownConsents := by
  constructor
  · intro hfound
    obtain ⟨key, hkey⟩ := exists_key_of_resolve hfound
    obtain ⟨b', _, ⟨kind', hmem, hrun⟩ | ⟨available, hint, hrun⟩⟩ := consentBackend_cases hkey hb
    · rw [hrun] at hfound
      cases hfound
      exact ⟨key, hkey, hmem⟩
    · rw [hrun] at hfound
      cases hfound
  · rintro ⟨key, hkey, hmem⟩
    obtain ⟨b', hrun, _⟩ := run_consentBackend hmem hkey hb
    rw [hrun]

end Backends

namespace NameSession

variable {s : NameSession} {P : Backends → Prop}

/-- The session after calls, each of them on a registry of its own choice. -/
def afterCalls (s : NameSession) : List (Registry String × NameOperation) → NameSession
  | [] => s
  | (own, op) :: calls => ((perform op).run { s with own }).2.afterCalls calls

theorem keeps_onBackends {α : Type} {a : Act Backends α} (ha : Keeps P a) :
    Keeps (fun s : NameSession => P s.backends) (onBackends a) :=
  .zoom (fun _ h => h) (fun _ _ _ h => h) ha

theorem keeps_perform (hload : ∀ path, Keeps P (Backends.load path)) (op : NameOperation) :
    Keeps (fun s : NameSession => P s.backends) (perform op) := by
  cases op with
  | register name object =>
    refine .bind (.ofExcept _) fun key => .bind_get fun s _ => ?_
    exact .bind (.modify fun _ h => h) fun _ => .pure object
  | resolve name package label =>
    exact Registry.keeps_resolve (fun path => keeps_onBackends (hload path)) name package label
  | makeCatalog name =>
    have hfind : Keeps P (Backends.catalogBackend name) := Registry.keeps_resolve hload _ _ _
    exact .bind (keeps_onBackends hfind) fun _ => .pure _
  | makeConsent name =>
    have hfind : Keeps P (Backends.consentBackend name) := Registry.keeps_resolve hload _ _ _
    exact .bind (keeps_onBackends hfind) fun _ => .pure _

theorem afterCalls_keeps (hload : ∀ path, Keeps P (Backends.load path)) (h : P s.backends)
    (calls : List (Registry String × NameOperation)) : P (s.afterCalls calls).backends := by
  induction calls generalizing s with
  | nil => exact h
  | cons call calls ih =>
    obtain ⟨own, op⟩ := call
    exact ih (keeps_perform hload op { s with own } h)

theorem known_afterCalls (h : s.backends.Known) (calls : List (Registry String × NameOperation)) :
    (s.afterCalls calls).backends.Known ∧ s.backends.Extends (s.afterCalls calls).backends :=
  afterCalls_keeps (Backends.keeps_load_from s.backends) ⟨h, .refl _⟩ calls

theorem run_makeCatalog (name : Value) (s : NameSession) :
    ((perform (.makeCatalog name)).run s).1 =
      ((Backends.catalogBackend name).run s.backends).1.map CatalogBackend.className := by
  rw [perform, run_bind_pure, onBackends, run_zoom]

theorem run_makeConsent (name : Value) (s : NameSession) :
    ((perform (.makeConsent name)).run s).1 =
      ((Backends.consentBackend name).run s.backends).1.map ConsentBackend.className := by
  rw [perform, run_bind_pure, onBackends, run_zoom]

end NameSession

/-- The classes that names of catalogs lead to. -/
def catalogClasses : List (String × String) := [("static", "StaticDeviceCatalog")]

def consentClasses : List (String × String) :=
  [("decline", "DeclineConsentAuthority"), ("handler", "HandlerConsentAuthority"),
    ("policy", "OriginPolicyConsentAuthority")]

theorem mem_consentClasses {key c : String} :
    (key, c) ∈ consentClasses ↔
      ∃ kind, (key, kind) ∈ Backends.ownConsents ∧ kind.className = c := by
  constructor
  · intro hmem
    simp only [consentClasses, List.mem_cons, List.not_mem_nil, or_false, Prod.mk.injEq] at hmem
    rcases hmem with ⟨rfl, rfl⟩ | ⟨rfl, rfl⟩ | ⟨rfl, rfl⟩
    · exact ⟨.decline, by simp [Backends.ownConsents], rfl⟩
    · exact ⟨.handler, by simp [Backends.ownConsents], rfl⟩
    · exact ⟨.policy, by simp [Backends.ownConsents], rfl⟩
  · rintro ⟨kind, hmem, rfl⟩
    rcases Backends.ownConsents_cases hmem with ⟨rfl, rfl⟩ | ⟨rfl, rfl⟩ | ⟨rfl, rfl⟩
    · simp [consentClasses, ConsentBackend.className, Consent.className]
    · simp [consentClasses, ConsentBackend.className, Consent.className]
    · simp [consentClasses, ConsentBackend.className, Consent.className]

/-- The answer to a name is the class of its key; a name of no key in the list is a bad value. -/
structure AnswersFrom (classes : List (String × String)) (name : Value)
    (answer : Except Failure String) : Prop where
  found : ∀ c, answer = .ok c ↔ ∃ key, Registry.keyOf name = .ok key ∧ (key, c) ∈ classes
  missing : FailsOnly .badValue answer

namespace NameSession

variable {s : NameSession}

theorem answers_makeCatalog (hs : s.backends.Known) (name : Value) :
    AnswersFrom catalogClasses name ((perform (.makeCatalog name)).run s).1 := by
  rw [run_makeCatalog]
  have hfails := Backends.failsOnly_resolve Backends.catalogs Backends.isOutermost_catalog name
    "catalog type" s.backends
  refine ⟨?_, hfails.map⟩
  intro c
  rw [map_eq_ok_iff]
  constructor
  · rintro ⟨kind, hfound, rfl⟩
    cases kind
    exact ⟨"static", (Backends.catalogBackend_eq_ok_iff hs).mp hfound, List.mem_singleton.mpr rfl⟩
  · rintro ⟨key, hkey, hmem⟩
    cases List.mem_singleton.mp hmem
    exact ⟨.static, (Backends.catalogBackend_eq_ok_iff hs).mpr hkey, rfl⟩

theorem answers_makeConsent (hs : s.backends.Own) (name : Value) :
    AnswersFrom consentClasses name ((perform (.makeConsent name)).run s).1 := by
  rw [run_makeConsent]
  have hfails := Backends.failsOnly_resolve Backends.consents Backends.isOutermost_consent name
    "consent type" s.backends
  refine ⟨?_, hfails.map⟩
  intro c
  rw [map_eq_ok_iff]
  constructor
  · rintro ⟨kind, hfound, hclass⟩
    obtain ⟨key, hkey, hmem⟩ := (Backends.consentBackend_eq_ok_iff hs).mp hfound
    exact ⟨key, hkey, mem_consentClasses.mpr ⟨kind, hmem, hclass⟩⟩
  · rintro ⟨key, hkey, hmem⟩
    obtain ⟨kind, hown, hclass⟩ := mem_consentClasses.mp hmem
    exact ⟨kind, (Backends.consentBackend_eq_ok_iff hs).mpr ⟨key, hkey, hown⟩, hclass⟩

end NameSession

/-- From empty registries, whatever has been looked up in whatever registries: a catalog is made if
the name is that of the static backend, an authority if the name is that of one of the three, each
of the class of its name, and every other name is a bad value. What is registered stays as it is,
and nothing else is ever registered. -/
theorem names_resolve_alike (calls more : List (Registry String × NameOperation)) :
    let s := ({} : NameSession).afterCalls calls
    let later := s.afterCalls more
    (∀ name, AnswersFrom catalogClasses name ((NameSession.perform (.makeCatalog name)).run s).1) ∧
      (∀ name, AnswersFrom consentClasses name
        ((NameSession.perform (.makeConsent name)).run s).1) ∧
      s.backends.Extends later.backends ∧
      (∀ key ∈ later.backends.catalogs.keys, key ∈ catalogClasses.map (·.1)) ∧
      (∀ key ∈ later.backends.consents.keys, key ∈ consentClasses.map (·.1)) := by
  intro s later
  obtain ⟨hknown, _⟩ := NameSession.known_afterCalls (s := {}) Backends.known_empty calls
  obtain ⟨hlater, hextends⟩ := NameSession.known_afterCalls hknown more
  refine ⟨NameSession.answers_makeCatalog hknown,
    NameSession.answers_makeConsent hknown.consents, hextends, ?_, ?_⟩
  · intro key hkey
    obtain ⟨e, he, rfl⟩ := List.mem_map.mp hkey
    rw [hlater.catalogs e he]
    exact List.mem_singleton.mpr rfl
  · intro key hkey
    obtain ⟨e, he, rfl⟩ := List.mem_map.mp hkey
    have hclass := mem_consentClasses.mpr ⟨e.2, hlater.consents e he, rfl⟩
    exact List.mem_map_of_mem hclass

/-- Look-ups that find nothing load backends on their way, as those of other registries do. -/
example :
    let other : Registry String := { entries := [("screen", "picker")] }
    let s := ({} : NameSession).afterCalls [(other, .makeCatalog (.text "static.x")),
      (other, .resolve (.text " Policy ") "consent" "kind"), (other, .makeConsent (.text "base"))]
    s.backends.catalogs.keys = ["static"] ∧ s.backends.consents.keys = ["policy"] := by
  decide +kernel

end CaptureArbiter
