import CaptureArbiter.Proofs.DigitRuns
import Mathlib.Data.Nat.Digits.Defs

/-!
# The grammar of source ids

A text names a source of the desktop just if it spells one, to the letter: the word of a kind, and
after a colon each one or two signed runs of ASCII digits. The numbers of the source are what these
digits are worth in base ten. Blanks, plus signs, underscores, digits of other scripts, line ends
and further parts are not passed over; they make a text name nothing.
-/

namespace CaptureArbiter

/-- The first digit is the most significant one, while lists of digits in base ten start with the
least significant one. -/
theorem IntegerText.valueOfDigits_eq_ofDigits {ds : List Char}
    (hd : ∀ c ∈ ds, c.isDigit = true) :
    valueOfDigits ds = Nat.ofDigits 10 (ds.reverse.map fun c => c.toNat - '0'.toNat) := by
  induction ds using List.reverseRecOn with
  | nil => rfl
  | append_singleton ds c ih =>
    have hds := ih fun x hx => hd x (List.mem_append_left _ hx)
    have hc := hd c (List.mem_append_right _ (List.mem_singleton.mpr rfl))
    have hzero : '0'.toNat = 48 := rfl
    rw [Decimal.valueOfDigits_concat, digitValue_of_isDigit hc, hds, List.reverse_append,
      List.reverse_singleton, List.singleton_append, List.map_cons, Nat.ofDigits_cons, hzero]
    exact Nat.add_comm _ _

namespace Text

variable {separator : Char} {parts : List (List Char)}

theorem mem_intercalate {c : Char} (h : c ∈ [separator].intercalate parts) :
    c = separator ∨ ∃ part ∈ parts, c ∈ part := by
  induction parts with
  | nil => simp at h
  | cons part parts ih =>
    cases parts with
    | nil =>
      rw [List.intercalate_singleton] at h
      exact .inr ⟨part, List.mem_cons_self .., h⟩
    | cons p ps =>
      rw [List.intercalate_cons_cons, List.append_assoc, List.singleton_append, List.mem_append,
        List.mem_cons] at h
      rcases h with hpart | hsep | hrest
      · exact .inr ⟨part, List.mem_cons_self .., hpart⟩
      · exact .inl hsep
      · rcases ih hrest with hsep | ⟨q, hq, hc⟩
        · exact .inl hsep
        · exact .inr ⟨q, List.mem_cons_of_mem _ hq, hc⟩

theorem count_intercalate (h : ∀ part ∈ parts, separator ∉ part) :
    ([separator].intercalate parts).count separator = parts.length - 1 := by
  induction parts with
  | nil => rfl
  | cons part parts ih =>
    have hpart := List.count_eq_zero.mpr (h part (List.mem_cons_self ..))
    have hrest := ih fun p hp => h p (List.mem_cons_of_mem _ hp)
    cases parts with
    | nil =>
      rw [List.intercalate_singleton, hpart]
      rfl
    | cons p ps =>
      rw [List.intercalate_cons_cons, List.append_assoc, List.singleton_append, List.count_append,
        List.count_cons_self, hpart, hrest]
      simp only [List.length_cons]
      omega

end Text

namespace DesktopId

def Numeral.decimal (n : Numeral) : Int :=
  let magnitude : Nat := Nat.ofDigits 10 (n.digits.reverse.map fun c => c.toNat - '0'.toNat)
  if n.minus then -magnitude else magnitude

theorem Numeral.value_eq_decimal (n : Numeral) : n.value = n.decimal := by
  simp only [value, decimal, IntegerText.valueOfDigits_eq_ofDigits n.isDigit]

namespace SourceKind

variable (k : SourceKind) (id window : Int)

theorem typeName_make : (k.make id window).typeName.toList = k.word := by
  cases k <;> rfl

theorem sourceId_make : (k.make id window).sourceId = id := by
  cases k <;> rfl

theorem windowId_make : (k.make id window).windowId = window := by
  cases k <;> rfl

end SourceKind

def IsSourceChar (c : Char) : Prop :=
  c = ':' ∨ c = '-' ∨ c.isDigit = true ∨ ∃ k : SourceKind, c ∈ k.word

namespace Spelling

variable (x : Spelling)

theorem typeName_source : x.source.typeName.toList = x.kind.word := x.kind.typeName_make _ _

theorem sourceId_source : x.source.sourceId = x.id.decimal := by
  rw [source, SourceKind.sourceId_make, Numeral.value_eq_decimal]

theorem windowId_source : x.source.windowId = (x.window.map Numeral.decimal).getD 0 := by
  rw [source, SourceKind.windowId_make]
  cases x.window with
  | none => rfl
  | some w => exact w.value_eq_decimal

theorem length_numbers_le : x.numbers.length ≤ 2 := by
  simp only [numbers, numerals, List.length_map, List.length_cons]
  cases x.window <;> simp

theorem count_colon_le : x.text.toList.count ':' ≤ 2 := by
  have hcount := Text.count_intercalate x.colon_not_mem_part
  have hlength := x.length_numbers_le
  rw [text, String.toList_ofList, hcount, List.length_cons]
  omega

theorem isSourceChar_of_mem {c : Char} (h : c ∈ x.text.toList) : IsSourceChar c := by
  rw [text, String.toList_ofList] at h
  rcases Text.mem_intercalate h with hcolon | ⟨part, hpart, hc⟩
  · exact .inl hcolon
  · rcases List.mem_cons.mp hpart with rfl | hnumber
    · exact .inr (.inr (.inr ⟨x.kind, hc⟩))
    · obtain ⟨n, -, rfl⟩ := List.mem_map.mp hnumber
      rcases Numeral.isDigit_of_mem_chars hc with hminus | hdigit
      · exact .inr (.inl hminus)
      · exact .inr (.inr (.inl hdigit))

end Spelling

end DesktopId

open DesktopId in
/-- A text with short runs of digits is read as a source just if it is a spelling. Then the source
is of the kind of the word, and its ids are the signed decimal values of the numbers, zero for a
number that is missing. No other characters occur in such a text, and no more than two colons. -/
theorem source_ids_by_grammar (s : String) (h : HasShortDigitRuns s) :
    ∃ d, parse s = .ok d ∧ (d.isNone = false ↔ ∃ x : Spelling, x.text = s) ∧
      (∀ x : Spelling, x.text = s → d.typeName.toList = x.kind.word ∧ d.sourceId = x.id.decimal ∧
        d.windowId = (x.window.map Numeral.decimal).getD 0) ∧
      (d.isNone = false → s.toList.count ':' ≤ 2 ∧ ∀ c ∈ s.toList, IsSourceChar c) := by
  have hread : ∀ x : Spelling, x.text = s → parse s = .ok x.source := by
    rintro x rfl
    exact Spelling.parse_text fun hlong => not_isOverlong_of_shortDigitRuns h ⟨x, rfl, hlong⟩
  by_cases hs : ∃ x : Spelling, x.text = s
  · obtain ⟨x, rfl⟩ := hs
    have hx := hread x rfl
    refine ⟨x.source, hx, ⟨fun _ => ⟨x, rfl⟩, fun _ => x.isNone_source⟩, fun y hy => ?_,
      fun _ => ?_⟩
    · -- a text is read in one way, so all its spellings stand for one source
      have hsame : x.source = y.source := Except.ok.inj (hx.symm.trans (hread y hy))
      rw [hsame]
      exact ⟨y.typeName_source, y.sourceId_source, y.windowId_source⟩
    · exact ⟨x.count_colon_le, fun c hc => x.isSourceChar_of_mem hc⟩
  · have hno : ∀ x : Spelling, x.text ≠ s := fun x hx => hs ⟨x, hx⟩
    refine ⟨.none, parse_of_not_spelling hno, ⟨nofun, fun hsome => absurd hsome hs⟩, ?_, nofun⟩
    exact fun x hx => absurd hx (hno x)

/-- A window with a padded number and a minus before a zero; a plus sign names nothing. -/
theorem source_ids_by_grammar_padded :
    HasShortDigitRuns "window:-012:-0" ∧ HasShortDigitRuns "window:+12" ∧
      (∃ x : DesktopId.Spelling, x.text = "window:-012:-0" ∧ x.id.decimal = -12 ∧
        (x.window.map DesktopId.Numeral.decimal).getD 0 = 0) ∧
      ∀ x : DesktopId.Spelling, x.text ≠ "window:+12" := by
  have hpadded : HasShortDigitRuns "window:-012:-0" := fun run hrun _ =>
    hrun.length_le.trans (by decide)
  have hplus : HasShortDigitRuns "window:+12" := fun run hrun _ => hrun.length_le.trans (by decide)
  obtain ⟨d, hd, hspelled, hvalues, _⟩ := source_ids_by_grammar _ hpadded
  obtain ⟨e, he, hnone, _⟩ := source_ids_by_grammar _ hplus
  have hwindow : DesktopId.parse "window:-012:-0" = .ok (.window (-12) 0) := rfl
  have hnothing : DesktopId.parse "window:+12" = .ok .none := rfl
  rw [hwindow, Except.ok.injEq] at hd
  rw [hnothing, Except.ok.injEq] at he
  subst hd he
  obtain ⟨x, hx⟩ := hspelled.mp rfl
  obtain ⟨_, hid, hpart⟩ := hvalues x hx
  refine ⟨hpadded, hplus, ⟨x, hx, hid.symm, hpart.symm⟩, fun y hy => ?_⟩
  exact absurd (hnone.mpr ⟨y, hy⟩) nofun

end CaptureArbiter
