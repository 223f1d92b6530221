import CaptureArbiter.Failure

/-!
# Actions that may fail

An action works on a state, gives a result or fails, and leaves a state behind in either case: what
was done before a failure stays done. The lemmas say what each way of building an action does to
result and state, so that later proofs need not unfold them.
-/

namespace CaptureArbiter

/-- An action on a state that may fail. -/
def Act (σ α : Type) : Type := σ → Except Failure α × σ

namespace Act

variable {σ τ α β : Type}

def run (a : Act σ α) (s : σ) : Except Failure α × σ := a s

def bind (a : Act σ α) (f : α → Act σ β) : Act σ β := fun s =>
  match a.run s with
  | (.ok x, t) => (f x).run t
  | (.error e, t) => (.error e, t)

instance : Monad (Act σ) where
  pure x := fun s => (.ok x, s)
  bind := bind

def get : Act σ σ := fun s => (.ok s, s)

def modify (f : σ → σ) : Act σ Unit := fun s => (.ok (), f s)

def fail (e : Failure) : Act σ α := fun s => (.error e, s)

def ofExcept (r : Except Failure α) : Act σ α := fun s => (r, s)

/-- Runs an action and gives its failure as a result. -/
def attempt (a : Act σ α) : Act σ (Except Failure α) := fun s =>
  let (r, t) := a.run s
  (.ok r, t)

def zoom (view : τ → σ) (put : σ → τ → τ) (a : Act σ α) : Act τ α := fun t =>
  let (r, s) := a.run (view t)
  (r, put s t)

/-- Runs an action for each member of a list, until one fails. -/
def each (f : α → Act σ Unit) : List α → Act σ Unit
  | [] => pure ()
  | x :: xs => do
    f x
    each f xs

@[simp] theorem run_pure (x : α) (s : σ) : (pure x : Act σ α).run s = (.ok x, s) := rfl

@[simp] theorem run_get (s : σ) : (get : Act σ σ).run s = (.ok s, s) := rfl

@[simp] theorem run_modify (f : σ → σ) (s : σ) : (modify f).run s = (.ok (), f s) := rfl

@[simp] theorem run_fail (e : Failure) (s : σ) :
    (fail e : Act σ α).run s = (.error e, s) := rfl

@[simp] theorem run_ofExcept (r : Except Failure α) (s : σ) : (ofExcept r).run s = (r, s) := rfl

@[simp] theorem run_attempt (a : Act σ α) (s : σ) :
    (attempt a).run s = (.ok (a.run s).1, (a.run s).2) := rfl

@[simp] theorem run_zoom (view : τ → σ) (put : σ → τ → τ) (a : Act σ α) (t : τ) :
    (zoom view put a).run t = ((a.run (view t)).1, put (a.run (view t)).2 t) := rfl

theorem run_bind (a : Act σ α) (f : α → Act σ β) (s : σ) :
    (a >>= f).run s = match a.run s with
      | (.ok x, t) => (f x).run t
      | (.error e, t) => (.error e, t) := rfl

theorem run_bind_ok {a : Act σ α} {f : α → Act σ β} {s t : σ} {x : α}
    (h : a.run s = (.ok x, t)) : (a >>= f).run s = (f x).run t := by
  rw [run_bind, h]

theorem run_bind_ofExcept (r : Except Failure α) (f : α → Act σ β) (s : σ) :
    (ofExcept r >>= f).run s = match r with
      | .ok x => (f x).run s
      | .error e => (.error e, s) := by
  cases r <;> rfl

theorem run_bind_error {a : Act σ α} {f : α → Act σ β} {s t : σ} {e : Failure}
    (h : a.run s = (.error e, t)) : (a >>= f).run s = (.error e, t) := by
  rw [run_bind, h]

theorem run_bind_pure (a : Act σ α) (f : α → β) (s : σ) :
    ((do return f (← a)) : Act σ β).run s = ((a.run s).1.map f, (a.run s).2) := by
  rw [run_bind]
  cases a.run s with
  | mk r t => cases r <;> rfl

theorem run_ite (c : Prop) [Decidable c] (a b : Act σ α) (s : σ) :
    (if c then a else b).run s = if c then a.run s else b.run s := by
  split <;> rfl

end Act

end CaptureArbiter
