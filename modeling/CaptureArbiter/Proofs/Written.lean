import CaptureArbiter.Proofs.Readings
import CaptureArbiter.Value.Reading
import Mathlib.Data.String.Lemmas

/-!
# Written values

The text that is asked of a value is its display text if the value counts as true, and empty else. A
value that counts as true never has an empty display text, so an empty text is as good as none. What
is looked up in a writable value is writable, and then it gives a text. An entry that is written
into a mapping is what is looked up under its key, and nothing else changes.
-/

namespace CaptureArbiter

namespace Value

/-- The text of a value, empty for a value that counts as false. -/
def written (v : Value) : String := if v.isTruthy then v.display else ""

theorem toTextOrEmpty_text (s : String) : toTextOrEmpty (.text s) = .ok s := by
  by_cases hs : s = ""
  · subst hs
    rfl
  · simp [toTextOrEmpty, isTruthy, toText_text, hs]

theorem toText_eq_ok {v : Value} {t : String} (h : v.toText = .ok t) : t = v.display := by
  unfold toText at h
  split at h
  · exact (Except.ok.inj h).symm
  · cases h

theorem toTextOrEmpty_eq_ok {v : Value} {t : String} (h : v.toTextOrEmpty = .ok t) :
    t = v.written := by
  unfold toTextOrEmpty at h
  unfold written
  split at h
  · next hv => rw [if_pos hv, toText_eq_ok h]
  · next hv => rw [if_neg hv, ← Except.ok.inj h]

theorem join_ne_empty {s : String} {parts : List String} (hmem : s ∈ parts) (hs : s ≠ "") :
    String.join parts ≠ "" := by
  intro h
  have hnil : parts.flatMap String.toList = [] := by
    rw [← String.toList_join, h]
    rfl
  have hempty := List.flatMap_eq_nil_iff.mp hnil s hmem
  exact hs (String.toList_eq_nil_iff.mp hempty)

theorem bracketed_ne_empty {left right : String} {parts : List String} (h : left ≠ "") :
    bracketed left parts right ≠ "" :=
  join_ne_empty (List.mem_cons_self ..) h

theorem ofList_ne_empty {cs : List Char} (h : cs ≠ []) : String.ofList cs ≠ "" := by
  intro hc
  exact h (String.ofList_eq_empty_iff.mp hc)

theorem ofInt_ne_empty (n : Int) : Decimal.ofInt n ≠ "" := by
  cases n with
  | ofNat n => exact ofList_ne_empty (Decimal.natChars_ne_nil n)
  | negSucc n => exact ofList_ne_empty (List.cons_ne_nil _ _)

theorem positional_ne_nil (digits : List Char) (point : Int) :
    Shortest.Layout.positional digits point ≠ [] := by
  unfold Shortest.Layout.positional
  split
  · exact List.cons_ne_nil _ _
  · simp

theorem scientific_ne_nil (layout : Shortest.Layout) (digits : List Char) (point : Int) :
    layout.scientific digits point ≠ [] := by
  simp [Shortest.Layout.scientific]

theorem floatText_ne_empty (layout : Shortest.Layout) (x : Binary64) :
    Shortest.text layout x ≠ "" := by
  cases x with
  | nan => exact (by decide : "nan" ≠ "")
  | infinite negative => cases negative <;> simp [Shortest.text]
  | finite negative m e =>
    simp only [Shortest.text]
    split
    · exact ofList_ne_empty (by simp)
    · apply ofList_ne_empty
      -- the sign may be missing, but either layout of the digits has characters
      apply List.append_ne_nil_of_right_ne_nil
      split
      · exact positional_ne_nil _ _
      · exact scientific_ne_nil _ _ _

theorem isoDate_ne_empty (d : Date) : Stamp.isoDate d ≠ "" :=
  join_ne_empty (s := "-") (by simp) (by decide)

theorem iso_ne_empty (t : Stamp) : t.iso ≠ "" := by
  cases t with
  | date d => exact isoDate_ne_empty d
  | moment d h m s micro offset => exact join_ne_empty (List.mem_cons_self ..) (isoDate_ne_empty d)

/-- A value that counts as true has a text. -/
theorem display_ne_empty {v : Value} (h : v.isTruthy = true) : v.display ≠ "" := by
  cases v with
  | null => cases h
  | bool b => cases b <;> decide
  | int n => exact ofInt_ne_empty n
  | float x => exact floatText_ne_empty _ x
  | text s =>
    intro hs
    rw [display_text] at hs
    subst hs
    cases h
  | list items => exact bracketed_ne_empty (by decide)
  | map entries => exact bracketed_ne_empty (by decide)
  | stamp t => exact iso_ne_empty t
  | bytes data => exact ofList_ne_empty (List.cons_ne_nil _ _)
  | set members =>
    cases members with
    | nil => cases h
    | cons m ms => exact bracketed_ne_empty (by decide)
  | pair a b => exact bracketed_ne_empty (by decide)
  | loop ofMap inside => cases ofMap <;> exact bracketed_ne_empty (by decide)

theorem written_eq_empty_iff {v : Value} : v.written = "" ↔ v.isTruthy = false := by
  unfold written
  split
  · next hv => simp [hv, display_ne_empty hv]
  · next hv => simpa using hv

/-- A text that is not empty is the display text of a value that counts as true. -/
theorem isTruthy_of_written_ne {v : Value} (h : v.written ≠ "") :
    v.isTruthy = true ∧ v.written = v.display := by
  have hv : v.isTruthy = true := by simpa [written_eq_empty_iff] using h
  exact ⟨hv, if_pos hv⟩

theorem toText_of_writable {v : Value} (h : v.isWritable = true) : v.toText = .ok v.display :=
  if_pos h

theorem toTextOrEmpty_of_writable {v : Value} (h : v.isWritable = true) :
    v.toTextOrEmpty = .ok v.written := by
  unfold toTextOrEmpty written
  split
  · exact toText_of_writable h
  · rfl

theorem isWritable_of_mem_map {es : List (Value × Value)} (h : areEntriesWritable es = true) :
    ∀ e ∈ es, e.1.isWritable = true ∧ e.2.isWritable = true := by
  induction es with
  | nil =>
    intro e he
    cases he
  | cons first es ih =>
    simp only [areEntriesWritable, Bool.and_eq_true] at h
    intro e he
    rcases List.mem_cons.mp he with rfl | he
    · exact h.1
    · exact ih h.2 e he

theorem isWritable_lookup {es : List (Value × Value)} (h : areEntriesWritable es = true)
    (name : String) {default : Value} (hdefault : default.isWritable = true) :
    ((lookup? es name).getD default).isWritable = true := by
  unfold lookup?
  cases he : es.find? fun e => sameKey (.text name) e.1 with
  | none => exact hdefault
  | some e => exact (isWritable_of_mem_map h e (List.mem_of_find?_eq_some he)).2

theorem isWritable_entryOrNull {es : List (Value × Value)} (h : areEntriesWritable es = true)
    (name : String) : (entryOrNull es name).isWritable = true :=
  isWritable_lookup h name rfl

theorem sameKey_text_iff {name : String} {k : Value} :
    sameKey (.text name) k = true ↔ k = .text name := by
  have htext : wholeNumber? (.text name) = none := rfl
  cases k with
  | text s =>
    rw [sameKey_text, beq_iff_eq, text.injEq]
    exact eq_comm
  | _ =>
    simp only [sameKey, htext]
    split <;> simp_all

variable {es : List (Value × Value)} {key name : String} {v : Value}

theorem lookup?_cons (e : Value × Value) (es : List (Value × Value)) :
    lookup? (e :: es) name = if sameKey (.text name) e.1 then some e.2 else lookup? es name := by
  rw [lookup?, List.find?_cons]
  cases sameKey (.text name) e.1 <;> rfl

theorem lookup?_eq_none_iff :
    lookup? es name = none ↔ es.any (fun e => sameKey (.text name) e.1) = false := by
  simp [lookup?]

theorem lookup?_eq_some_iff (hkeys : (es.map Prod.fst).Nodup) :
    lookup? es name = some v ↔ (.text name, v) ∈ es := by
  induction es with
  | nil => exact iff_of_false nofun nofun
  | cons e es ih =>
    rw [List.map_cons, List.nodup_cons] at hkeys
    rw [lookup?_cons, List.mem_cons]
    by_cases hname : sameKey (.text name) e.1 = true
    · have hkey := sameKey_text_iff.mp hname
      have hnot : (.text name, v) ∉ es := fun hmem =>
        hkeys.1 (hkey ▸ List.mem_map_of_mem hmem)
      rw [if_pos hname, or_iff_left hnot, Option.some.injEq, Prod.ext_iff, hkey,
        and_iff_right rfl]
      exact eq_comm
    · have hne : (.text name, v) ≠ e := fun heq => hname (sameKey_text_iff.mpr (heq ▸ rfl))
      rw [if_neg hname, or_iff_right hne, ih hkeys.2]

theorem lookup?_eq_of_perm {es' : List (Value × Value)} (hperm : es.Perm es')
    (hkeys : (es.map Prod.fst).Nodup) (name : String) : lookup? es name = lookup? es' name := by
  have hkeys' : (es'.map Prod.fst).Nodup := (hperm.map _).nodup_iff.mp hkeys
  ext v
  rw [lookup?_eq_some_iff hkeys, lookup?_eq_some_iff hkeys', hperm.mem_iff]

theorem lookup?_replaced :
    lookup? (es.map fun e => if sameKey (.text key) e.1 then (e.1, v) else e) name =
      (lookup? es name).map fun w => if name = key then v else w := by
  induction es with
  | nil => rfl
  | cons e es ih =>
    have hkey : (if sameKey (.text key) e.1 then (e.1, v) else e).1 = e.1 := by
      split <;> rfl
    rw [List.map_cons, lookup?_cons, lookup?_cons, hkey, ih]
    by_cases hname : sameKey (.text name) e.1 = true
    · have hsame : sameKey (.text key) e.1 = true ↔ name = key := by
        rw [sameKey_text_iff, sameKey_text_iff.mp hname, text.injEq]
      rw [if_pos hname, if_pos hname, Option.map_some, apply_ite Prod.snd]
      simp only [hsame]
    · rw [if_neg hname, if_neg hname]

theorem lookup?_concat :
    lookup? (es ++ [(.text key, v)]) name =
      (lookup? es name).or (if name = key then some v else none) := by
  induction es with
  | nil =>
    rw [List.nil_append, lookup?_cons, lookup?_nil, sameKey_text, Option.none_or]
    simp only [beq_iff_eq]
  | cons e es ih =>
    rw [List.cons_append, lookup?_cons, lookup?_cons, ih]
    split <;> rfl

theorem lookup?_putEntry :
    lookup? (putEntry es (.text key) v) name = if name = key then some v else lookup? es name := by
  unfold putEntry
  by_cases hany : es.any (fun e => sameKey (.text key) e.1) = true
  · rw [if_pos hany, lookup?_replaced]
    by_cases hname : name = key
    · subst hname
      have hsome : lookup? es name ≠ none := fun hnone => by
        rw [lookup?_eq_none_iff.mp hnone] at hany
        cases hany
      obtain ⟨w, hw⟩ := Option.ne_none_iff_exists'.mp hsome
      simp only [hw, Option.map_some, if_true]
    · simp only [hname, if_false, Option.map_id']
  · rw [if_neg hany, lookup?_concat]
    by_cases hname : name = key
    · subst hname
      rw [lookup?_eq_none_iff.mpr (Bool.eq_false_iff.mpr hany), Option.none_or]
    · rw [if_neg hname, if_neg hname, Option.or_none]

theorem entryOrNull_putEntry :
    entryOrNull (putEntry es (.text key) v) name =
      if name = key then v else entryOrNull es name := by
  rw [entryOrNull, lookup?_putEntry, entryOrNull]
  split <;> rfl

end Value

end CaptureArbiter
