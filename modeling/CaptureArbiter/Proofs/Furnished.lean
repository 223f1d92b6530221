import CaptureArbiter.Proofs.Handling
import CaptureArbiter.Proofs.Registered
import CaptureArbiter.Proofs.Written
import CaptureArbiter.Settings.Service

/-!
# Furnished services

A service that is built from settings has the catalog and the authority that their blocks describe,
and nothing else changes in its office. The library's own backends make an authority that does what
the settings say, and that asks no application unless a handler was brought along.
-/

namespace CaptureArbiter

open Act

theorem Act.exists_of_run_bind_ok {σ α β : Type} {a : Act σ α} {f : α → Act σ β} {s : σ} {y : β}
    (h : ((a >>= f).run s).1 = .ok y) :
    ∃ x t, a.run s = (.ok x, t) ∧ ((f x).run t).1 = .ok y := by
  rw [run_bind] at h
  cases ha : a.run s with
  | mk r t =>
    rw [ha] at h
    cases r with
    | error e => cases h
    | ok x => exact ⟨x, t, rfl, h⟩

theorem Act.failsOnly_bind {σ α β : Type} {kind : FailureKind} {a : Act σ α} {f : α → Act σ β}
    {s : σ} (ha : FailsOnly kind (a.run s).1)
    (hf : ∀ x t, a.run s = (.ok x, t) → FailsOnly kind ((f x).run t).1) :
    FailsOnly kind ((a >>= f).run s).1 := by
  rw [run_bind]
  cases hrun : a.run s with
  | mk r t =>
    rw [hrun] at ha
    cases r with
    | error e => exact .error (ha.kind_eq e rfl)
    | ok x => exact hf x t hrun

namespace Backends

variable {b b' : Backends} {block : CatalogBlock} {c : Catalog} {key : String}

theorem run_makeCatalog (hblock : Catalog.ofBlock block = .ok c)
    (hbackend : (catalogBackend block.backend).run b = (.ok .static, b')) :
    (makeCatalog block).run b = (.ok c, b') := by
  rw [makeCatalog, run_bind_ok (by rw [run_ofExcept, hblock]), run_bind_ok hbackend]
  rfl

theorem failsOnly_makeCatalog (hblock : Catalog.ofBlock block = .ok c)
    (hkey : Registry.keyOf block.backend = .ok key) (hb : b.Own) :
    FailsOnly .badValue ((makeCatalog block).run b).1 ∧ ((makeCatalog block).run b).2.Own := by
  obtain ⟨b', hb', hbackend⟩ := catalogBackend_cases hkey hb
  rcases hbackend with hbackend | ⟨available, hint, hbackend⟩
  · rw [run_makeCatalog hblock hbackend]
    exact ⟨.ok c, hb'⟩
  · rw [makeCatalog, run_bind_ok (by rw [run_ofExcept, hblock]), run_bind_error hbackend]
    exact ⟨.error rfl, hb'⟩

theorem run_makeConsent {block : ConsentBlock} {origins : List String} {kind : ConsentBackend}
    (handler : Option (Option (List Play))) (horigins : Consent.readOrigins block = .ok origins)
    (hbackend : (consentBackend block.backend).run b = (.ok kind, b')) :
    (makeConsent block handler).run b = (authority origins handler kind, b') := by
  rw [makeConsent, run_bind_ok (by rw [run_ofExcept, horigins]), run_bind_ok hbackend]
  rfl

variable {kind : ConsentBackend} {origins : List String}
  {handler : Option (Option (List Play))}

theorem authority_ok (origins : List String) (h : handler = none ∨ kind = .handler) :
    ∃ c, authority origins handler kind = .ok c := by
  rcases h with rfl | rfl
  · cases kind <;> exact ⟨_, rfl⟩
  · exact ⟨_, rfl⟩

theorem failsOnly_makeConsent {block : ConsentBlock}
    (horigins : Consent.readOrigins block = .ok origins)
    (hkey : Registry.keyOf block.backend = .ok key) (hhandler : handler = none ∨ key = "handler")
    (hb : b.Own) : FailsOnly .badValue ((makeConsent block handler).run b).1 := by
  obtain ⟨b', _, hbackend⟩ := consentBackend_cases hkey hb
  rcases hbackend with ⟨kind, hmem, hbackend⟩ | ⟨available, hint, hbackend⟩
  · have htakes : handler = none ∨ kind = .handler := by
      rcases hhandler with hnone | rfl
      · exact .inl hnone
      · exact .inr (ownConsents_unique (by simp [ownConsents]) hmem)
    obtain ⟨c, hauthority⟩ := authority_ok origins htakes
    rw [run_makeConsent handler horigins hbackend]
    exact .of_ok hauthority
  · rw [makeConsent, run_bind_ok (by rw [run_ofExcept, horigins]), run_bind_error hbackend]
    exact .error rfl

theorem configured_authority {c : Consent} (hmem : (key, kind) ∈ ownConsents)
    (h : authority origins none kind = .ok c) : (∃ blocked, c.ConfiguredWith blocked) ∧ c.Idle := by
  rcases ownConsents_cases hmem with ⟨_, rfl⟩ | ⟨_, rfl⟩ | ⟨_, rfl⟩
  · cases h
    exact ⟨⟨[], rfl⟩, fun script hs => nomatch hs⟩
  · cases h
    exact ⟨⟨origins, rfl⟩, fun script hs => nomatch hs⟩
  · cases h
    exact ⟨⟨[], rfl⟩, fun script hs => nomatch hs⟩

theorem configured_makeConsent {block : ConsentBlock} {c : Consent}
    (horigins : Consent.readOrigins block = .ok origins)
    (hkey : Registry.keyOf block.backend = .ok key) (hb : b.Own)
    (h : ((makeConsent block none).run b).1 = .ok c) :
    (∃ blocked, c.ConfiguredWith blocked) ∧ c.Idle := by
  obtain ⟨b', _, hbackend⟩ := consentBackend_cases hkey hb
  rcases hbackend with ⟨kind, hmem, hbackend⟩ | ⟨available, hint, hbackend⟩
  · rw [run_makeConsent none horigins hbackend] at h
    exact configured_authority hmem h
  · rw [makeConsent, run_bind_ok (by rw [run_ofExcept, horigins]), run_bind_error hbackend] at h
    cases h

end Backends

theorem Registry.keyOf_text (name : String) :
    keyOf (.text name) = .ok (Text.lower (Text.trim name)) :=
  bind_ok (Value.toTextOrEmpty_text name)

theorem Catalog.members_list (items : List Value) : members (.list items) = .ok items := by
  cases items <;> rfl

theorem Consent.readOrigins_texts {block : ConsentBlock} {origins : List String}
    (h : block.blockedOrigins = .list (origins.map .text)) : readOrigins block = .ok origins := by
  have htexts : ∀ v ∈ origins.map Value.text, v.toText = .ok v.display := by
    intro v hv
    obtain ⟨origin, _, rfl⟩ := List.mem_map.mp hv
    rfl
  have hsame : (origins.map Value.text).map Value.display = origins := by
    simp [Function.comp_def, Value.display_text]
  rw [readOrigins, h, bind_ok (Catalog.members_list _), mapM_eq_ok htexts, hsame]

namespace Settings

variable {s : Settings} {handler : Option (List Play)} {o o' : Office} {b b₁ b₂ : Backends}
  {catalog : Catalog} {consent : Consent} {takes : Bool}

/-- What is furnished after the handler has been found to be in order. -/
def assemble (s : Settings) (handler : Option (List Play)) (o : Office) : Act Backends Office := do
  let catalog ← Backends.makeCatalog s.catalog
  let consent ← Backends.makeConsent s.consent (handler.map some)
  return { o with catalog, consent, desk := o.desk.noted [s.serviceNote catalog] }

theorem takesHandler_text {name : String} (h : s.consent.backend = .text name) :
    s.takesHandler = .ok (Text.lower (Text.trim name) == "handler") := by
  rw [takesHandler, h]
  rfl

theorem run_furnish_none : (s.furnish none o).run b = (s.assemble none o).run b := rfl

theorem run_furnish_some {script : List Play} :
    (s.furnish (some script) o).run b = match s.takesHandler with
      | .error e => (.error e, b)
      | .ok takes =>
        if takes then (s.assemble (some script) o).run b
        else (.error (.handlerNotUsed s.consent.backend), b) := by
  cases htakes : s.takesHandler with
  | error e =>
    rw [furnish, htakes]
    rfl
  | ok takes =>
    rw [furnish, htakes]
    cases takes <;> rfl

theorem run_furnish (htakes : s.takesHandler = .ok takes) :
    (s.furnish handler o).run b =
      if handler.isSome && !takes then (.error (.handlerNotUsed s.consent.backend), b)
      else (s.assemble handler o).run b := by
  cases handler with
  | none => exact run_furnish_none
  | some script =>
    rw [run_furnish_some, htakes]
    cases takes <;> rfl

theorem exists_of_furnish_ok (h : ((s.furnish handler o).run b).1 = .ok o') :
    ∃ catalog consent b₁ b₂, (Backends.makeCatalog s.catalog).run b = (.ok catalog, b₁) ∧
      (Backends.makeConsent s.consent (handler.map some)).run b₁ = (.ok consent, b₂) ∧
      o' = { o with catalog, consent, desk := o.desk.noted [s.serviceNote catalog] } := by
  have hassembled : ((s.assemble handler o).run b).1 = .ok o' := by
    cases handler with
    | none => exact h
    | some script =>
      rw [run_furnish_some] at h
      cases htakes : s.takesHandler with
      | error e =>
        rw [htakes] at h
        cases h
      | ok takes =>
        rw [htakes] at h
        cases takes with
        | false => cases h
        | true => exact h
  rw [assemble] at hassembled
  obtain ⟨catalog, b₁, hcatalog, hrest⟩ := exists_of_run_bind_ok hassembled
  obtain ⟨consent, b₂, hconsent, hdone⟩ := exists_of_run_bind_ok hrest
  cases hdone
  exact ⟨catalog, consent, b₁, b₂, hcatalog, hconsent, rfl⟩

theorem run_furnish_of_taken (htakes : s.takesHandler = .ok takes)
    (htaken : handler = none ∨ takes = true) :
    (s.furnish handler o).run b = (s.assemble handler o).run b := by
  rw [run_furnish htakes]
  rcases htaken with rfl | rfl
  · rfl
  · rw [Bool.not_true, Bool.and_false]
    rfl

theorem run_assemble (hcatalog : (Backends.makeCatalog s.catalog).run b = (.ok catalog, b₁))
    (hconsent : (Backends.makeConsent s.consent (handler.map some)).run b₁ = (.ok consent, b₂)) :
    (s.assemble handler o).run b =
      (.ok { o with catalog, consent, desk := o.desk.noted [s.serviceNote catalog] }, b₂) := by
  rw [assemble, run_bind_ok hcatalog, run_bind_ok hconsent]
  rfl

end Settings

end CaptureArbiter
