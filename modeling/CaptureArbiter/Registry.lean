import CaptureArbiter.Act
import CaptureArbiter.Note
import CaptureArbiter.Text.LetterCase
import CaptureArbiter.Value.Reading

/-!
# Registries of names

A registry maps keys to what is registered under them, in order of first registration. Names are
compared without surrounding blanks and without regard to case. A name that is not registered may
still be found by loading the module that would register it.
-/

namespace CaptureArbiter

structure Registry (α : Type) where
  entries : List (String × α) := []

namespace Registry

variable {α σ : Type}

def keyOf (name : Value) : Except Failure String := do
  return Text.lower (Text.trim (← name.toTextOrEmpty))

def keys (r : Registry α) : List String := r.entries.map (·.1)

def sortedKeys (r : Registry α) : List String := r.keys.mergeSort fun a b => !decide (b < a)

def find? (r : Registry α) (key : String) : Option α :=
  (r.entries.find? fun e => e.1 == key).map (·.2)

/-- Registers something under a key; the latest registration of a key counts. -/
def insert (r : Registry α) (key : String) (x : α) : Registry α :=
  if (r.find? key).isSome then ⟨r.entries.map fun e => if e.1 == key then (key, x) else e⟩
  else ⟨r.entries ++ [(key, x)]⟩

/-- Finds what is registered under a name. If nothing is, the module of that name in `package` is
loaded first, which gives the reason if there is no such module. -/
def resolve (view : σ → Registry α) (load : String → Act σ (Option String)) (name : Value)
    (package label : String) : Act σ α := do
  let key ← Act.ofExcept (keyOf name)
  let registered := (view (← Act.get)).find? key
  let hint ← if key == "" || registered.isSome then pure none
    else load (String.join [package, ".", key])
  let registry := view (← Act.get)
  match registry.find? key with
  | some x => return x
  | none => Act.fail (.unknownBackend label name.display registry.sortedKeys hint)

theorem keys_insert_of_some {r : Registry α} {key : String} {x : α}
    (h : (r.find? key).isSome = true) : (r.insert key x).keys = r.keys := by
  simp only [insert, h, if_true, keys, List.map_map]
  apply List.map_congr_left
  intro e _
  by_cases he : e.1 = key <;> simp [he]

theorem keys_insert_of_none {r : Registry α} {key : String} {x : α}
    (h : r.find? key = none) : (r.insert key x).keys = r.keys ++ [key] := by
  simp [insert, h, keys]

theorem find?_map_replace (entries : List (String × α)) (key other : String) (x : α) :
    (entries.map fun e => if e.1 == key then (key, x) else e).find? (·.1 == other) =
      (entries.find? (·.1 == other)).map fun e => if e.1 == key then (key, x) else e := by
  rw [List.find?_map]
  congr 2
  funext e
  by_cases he : e.1 = key <;> simp [he]

theorem find?_insert_self (r : Registry α) (key : String) (x : α) :
    (r.insert key x).find? key = some x := by
  unfold insert find?
  cases h : r.entries.find? (·.1 == key) with
  | none => simp [List.find?_append, h]
  | some e =>
    have he : e.1 = key := by simpa using List.find?_some h
    rw [if_pos (by simp), find?_map_replace, h]
    simp [he]

theorem find?_insert_of_ne {r : Registry α} {key other : String} {x : α} (h : key ≠ other) :
    (r.insert key x).find? other = r.find? other := by
  unfold insert find?
  split
  · rw [find?_map_replace]
    cases ho : r.entries.find? (·.1 == other) with
    | none => rfl
    | some e =>
      have he : e.1 = other := by simpa using List.find?_some ho
      simp [he, Ne.symm h]
  · simp [List.find?_append, h]

end Registry

end CaptureArbiter
