import CaptureArbiter.Failure

/-!
# Readings

A reading of plain data gives a result or fails. One that is made of parts succeeds if all its parts
do, and fails as the first of them that fails: so it fails in one way only if each part does, given
what the parts before have read.
-/

namespace CaptureArbiter

variable {α β : Type} {x : Except Failure α} {f : α → Except Failure β}

theorem exists_of_bind_ok {b : β} (h : (x >>= f) = .ok b) : ∃ a, x = .ok a ∧ f a = .ok b := by
  cases x with
  | error e => cases h
  | ok a => exact ⟨a, rfl, h⟩

theorem bind_ok {a : α} (h : x = .ok a) : (x >>= f) = f a := by
  rw [h]
  rfl

/-- A reading gives a result. -/
def Succeeds (x : Except Failure α) : Prop := ∃ a, x = .ok a

theorem succeeds_ok (a : α) : Succeeds (.ok a) := ⟨a, rfl⟩

theorem not_succeeds_error (e : Failure) : ¬Succeeds (.error e : Except Failure α) := by
  rintro ⟨a, h⟩
  cases h

theorem succeeds_bind_iff : Succeeds (x >>= f) ↔ ∃ a, x = .ok a ∧ Succeeds (f a) := by
  cases x with
  | error e => exact ⟨fun h => absurd h (not_succeeds_error e), fun ⟨a, h, _⟩ => by cases h⟩
  | ok a => exact ⟨fun h => ⟨a, rfl, h⟩, fun ⟨b, h, hb⟩ => by cases h; exact hb⟩

theorem succeeds_bind_iff_and {P : Prop} (hf : ∀ a, x = .ok a → (Succeeds (f a) ↔ P)) :
    Succeeds (x >>= f) ↔ Succeeds x ∧ P := by
  rw [succeeds_bind_iff]
  constructor
  · rintro ⟨a, hx, ha⟩
    exact ⟨⟨a, hx⟩, (hf a hx).mp ha⟩
  · rintro ⟨⟨a, hx⟩, hP⟩
    exact ⟨a, hx, (hf a hx).mpr hP⟩

theorem succeeds_bind_iff_of_value {P : Prop} {b : α} (hx : ∀ a, x = .ok a ↔ P ∧ a = b) :
    Succeeds (x >>= f) ↔ P ∧ Succeeds (f b) := by
  rw [succeeds_bind_iff]
  constructor
  · rintro ⟨a, ha, hsucceeds⟩
    obtain ⟨hP, rfl⟩ := (hx a).mp ha
    exact ⟨hP, hsucceeds⟩
  · rintro ⟨hP, hsucceeds⟩
    exact ⟨b, (hx b).mpr ⟨hP, rfl⟩, hsucceeds⟩

theorem succeeds_bind_iff_left (hf : ∀ a, x = .ok a → Succeeds (f a)) :
    Succeeds (x >>= f) ↔ Succeeds x := by
  rw [succeeds_bind_iff_and fun a ha => iff_true_intro (hf a ha), and_true]

theorem map_eq_ok_iff {g : α → β} {b : β} : x.map g = .ok b ↔ ∃ a, x = .ok a ∧ g a = b := by
  cases x <;> simp [Except.map]

theorem eq_ok_of_toOption {a : α} (h : x.toOption = some a) : x = .ok a := by
  cases x with
  | error e => cases h
  | ok b =>
    cases h
    rfl

theorem mapM_eq_ok {f : α → Except Failure β} {g : α → β} {xs : List α}
    (h : ∀ x ∈ xs, f x = .ok (g x)) : xs.mapM f = .ok (xs.map g) := by
  induction xs with
  | nil => rfl
  | cons x xs ih =>
    have hx := h x (List.mem_cons_self ..)
    have hxs := ih fun y hy => h y (List.mem_cons_of_mem _ hy)
    rw [List.mapM_cons, bind_ok hx, bind_ok hxs]
    rfl

theorem exists_of_mem_mapM {xs : List α} {ys : List β} (h : xs.mapM f = .ok ys) :
    ∀ y ∈ ys, ∃ x ∈ xs, f x = .ok y := by
  induction xs generalizing ys with
  | nil =>
    rw [List.mapM_nil] at h
    cases h
    intro y hy
    cases hy
  | cons x xs ih =>
    rw [List.mapM_cons] at h
    obtain ⟨z, hz, h⟩ := exists_of_bind_ok h
    obtain ⟨zs, hzs, h⟩ := exists_of_bind_ok h
    cases h
    intro y hy
    rcases List.mem_cons.mp hy with rfl | hy
    · exact ⟨x, List.mem_cons_self .., hz⟩
    · obtain ⟨w, hw, hwy⟩ := ih hzs y hy
      exact ⟨w, List.mem_cons_of_mem _ hw, hwy⟩

/-- Every failure is of the given kind. -/
structure FailsOnly (kind : FailureKind) (x : Except Failure α) : Prop where
  kind_eq : ∀ e, x = .error e → e.kind = kind

variable {kind : FailureKind}

theorem FailsOnly.ok (a : α) : FailsOnly kind (.ok a) where
  kind_eq e h := by cases h

theorem FailsOnly.of_ok {a : α} (h : x = .ok a) : FailsOnly kind x := by
  rw [h]
  exact .ok a

theorem FailsOnly.error {e : Failure} (h : e.kind = kind) :
    FailsOnly kind (.error e : Except Failure α) where
  kind_eq e' he := by
    cases he
    exact h

theorem FailsOnly.exists_of_not_succeeds (hx : FailsOnly kind x) (h : ¬Succeeds x) :
    ∃ e, x = .error e ∧ e.kind = kind := by
  cases x with
  | error e => exact ⟨e, rfl, hx.kind_eq e rfl⟩
  | ok a => exact absurd (succeeds_ok a) h

theorem FailsOnly.map {g : α → β} (hx : FailsOnly kind x) : FailsOnly kind (x.map g) := by
  cases x with
  | error e => exact .error (hx.kind_eq e rfl)
  | ok a => exact .ok (g a)

theorem FailsOnly.bind (hx : FailsOnly kind x) (hf : ∀ a, x = .ok a → FailsOnly kind (f a)) :
    FailsOnly kind (x >>= f) := by
  cases x with
  | error e => exact .error (hx.kind_eq e rfl)
  | ok a => exact hf a rfl

end CaptureArbiter
