import CaptureArbiter.Act

/-!
# What actions keep

An action keeps an invariant if no run of it leads out of the invariant, whether the run gives a
result or fails. A compound action keeps what its parts keep, and an action on a part of the state
keeps an invariant of the whole that comes down to one of the part.
-/

namespace CaptureArbiter.Act

variable {σ τ α β : Type} {P : σ → Prop}

/-- Every run that starts in the invariant ends in it. -/
def Keeps (P : σ → Prop) (a : Act σ α) : Prop := ∀ s, P s → P (a.run s).2

namespace Keeps

theorem pure (x : α) : Keeps P (Pure.pure x : Act σ α) := fun _ h => h

theorem fail (e : Failure) : Keeps P (Act.fail e : Act σ α) := fun _ h => h

theorem ofExcept (r : Except Failure α) : Keeps P (Act.ofExcept r) := fun _ h => h

theorem modify {f : σ → σ} (h : ∀ s, P s → P (f s)) : Keeps P (Act.modify f) := h

theorem bind {a : Act σ α} {f : α → Act σ β} (ha : Keeps P a) (hf : ∀ x, Keeps P (f x)) :
    Keeps P (a >>= f) := by
  intro s hs
  have hmid := ha s hs
  cases hr : a.run s with
  | mk r t =>
    rw [hr] at hmid
    cases r with
    | ok x =>
      rw [run_bind_ok hr]
      exact hf x t hmid
    | error e =>
      rw [run_bind_error hr]
      exact hmid

theorem bind_get {f : σ → Act σ β} (hf : ∀ s, P s → Keeps P (f s)) : Keeps P (Act.get >>= f) := by
  intro s hs
  rw [run_bind_ok (run_get s)]
  exact hf s hs s hs

theorem attempt {a : Act σ α} (ha : Keeps P a) : Keeps P (Act.attempt a) := ha

theorem each {f : α → Act σ Unit} {xs : List α} (h : ∀ x ∈ xs, Keeps P (f x)) :
    Keeps P (Act.each f xs) := by
  induction xs with
  | nil => exact Keeps.pure ()
  | cons x xs ih =>
    have hx := h x (List.mem_cons_self ..)
    have hxs := ih fun y hy => h y (List.mem_cons_of_mem _ hy)
    exact Keeps.bind hx fun _ => hxs

theorem zoom {Q : τ → Prop} {view : τ → σ} {put : σ → τ → τ} {a : Act σ α}
    (hview : ∀ t, Q t → P (view t)) (hput : ∀ t s, Q t → P s → Q (put s t)) (ha : Keeps P a) :
    Keeps Q (Act.zoom view put a) := by
  intro t ht
  rw [run_zoom]
  exact hput t _ ht (ha (view t) (hview t ht))

theorem ite {c : Prop} [Decidable c] {a b : Act σ α} (ha : Keeps P a) (hb : Keeps P b) :
    Keeps P (if c then a else b) := by
  split
  · exact ha
  · exact hb

end Keeps

end CaptureArbiter.Act
