/-!
# Splitting at a separator

A text with `n` separators has `n + 1` parts, some of which may be empty; joined with the separator
they give the text again.
-/

namespace CaptureArbiter.Text

def splitAt (separator : Char) : List Char → List (List Char)
  | [] => [[]]
  | c :: cs =>
    if c == separator then [] :: splitAt separator cs
    else match splitAt separator cs with
      | [] => [[c]]
      | part :: parts => (c :: part) :: parts

theorem splitAt_ne_nil (separator : Char) (cs : List Char) : splitAt separator cs ≠ [] := by
  induction cs with
  | nil => simp [splitAt]
  | cons c cs ih =>
    simp only [splitAt]
    split
    · simp
    · split <;> simp

theorem splitAt_append {separator : Char} {front : List Char} (h : separator ∉ front)
    (rest : List Char) :
    splitAt separator (front ++ separator :: rest) = front :: splitAt separator rest := by
  induction front with
  | nil => simp [splitAt]
  | cons c cs ih =>
    have hc : (c == separator) = false := by
      have hne : separator ≠ c := fun he => h (he ▸ List.mem_cons_self ..)
      simpa using Ne.symm hne
    have hcs := ih fun hmem => h (List.mem_cons_of_mem _ hmem)
    simp only [List.cons_append, splitAt, hc, Bool.false_eq_true, if_false, hcs]

theorem splitAt_of_not_mem {separator : Char} {cs : List Char} (h : separator ∉ cs) :
    splitAt separator cs = [cs] := by
  induction cs with
  | nil => rfl
  | cons c cs ih =>
    have hc : (c == separator) = false := by
      have hne : separator ≠ c := fun he => h (he ▸ List.mem_cons_self ..)
      simpa using Ne.symm hne
    have hcs := ih fun hmem => h (List.mem_cons_of_mem _ hmem)
    simp only [splitAt, hc, Bool.false_eq_true, if_false, hcs]

theorem splitAt_intercalate {separator : Char} {parts : List (List Char)} (hne : parts ≠ [])
    (h : ∀ part ∈ parts, separator ∉ part) :
    splitAt separator ([separator].intercalate parts) = parts := by
  induction parts with
  | nil => exact absurd rfl hne
  | cons part parts ih =>
    have hpart := h part (List.mem_cons_self ..)
    have hrest : ∀ p ∈ parts, separator ∉ p := fun p hp => h p (List.mem_cons_of_mem _ hp)
    cases parts with
    | nil => rw [List.intercalate_singleton, splitAt_of_not_mem hpart]
    | cons p ps =>
      rw [List.intercalate_cons_cons, List.append_assoc, List.singleton_append,
        splitAt_append hpart, ih (List.cons_ne_nil p ps) hrest]

theorem intercalate_splitAt (separator : Char) (cs : List Char) :
    [separator].intercalate (splitAt separator cs) = cs := by
  induction cs with
  | nil => rfl
  | cons c cs ih =>
    cases h : splitAt separator cs with
    | nil => exact absurd h (splitAt_ne_nil separator cs)
    | cons part parts =>
      rw [h] at ih
      by_cases hc : c = separator
      · subst hc
        simp only [splitAt, h, beq_self_eq_true, if_true]
        cases parts <;> simp_all [List.intercalate]
      · simp only [splitAt, h, beq_iff_eq, hc, if_false]
        cases parts <;> simp_all [List.intercalate]

end CaptureArbiter.Text
