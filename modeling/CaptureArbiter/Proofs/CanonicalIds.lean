import CaptureArbiter.Proofs.DigitRuns

/-!
# Canonical ids of desktop sources

Writing a source and reading it are inverse to each other, on numbers that are short enough to be
read. So the written id is a canonical form: of all the texts that are read as one source, with a
window or without, with leading zeros or a minus before a zero, it is the one that is written again.
-/

namespace CaptureArbiter

namespace DesktopId

/-- Neither number of the source has more digits than are read. -/
def IsShort (d : DesktopId) : Prop :=
  d.sourceId.natAbs < Nat.pow 10 IntegerText.digitLimit ∧
    d.windowId.natAbs < Nat.pow 10 IntegerText.digitLimit

variable {d e : DesktopId} {s : String}

theorem parse_empty : parse "" = .ok .none := rfl

theorem Spelling.not_isOverlong_canonical {k : SourceKind} {id window : Int}
    (hid : id.natAbs < Nat.pow 10 IntegerText.digitLimit)
    (hwindow : window.natAbs < Nat.pow 10 IntegerText.digitLimit) :
    ¬(canonical k id window).IsOverlong := by
  rintro ⟨n, hn, hlong⟩
  have hcases : n = .ofInt id ∨ n = .ofInt window := by
    simpa only [canonical, numerals, Option.toList_some, List.mem_cons, List.not_mem_nil,
      or_false] using hn
  rcases hcases with rfl | rfl
  · exact Numeral.not_isOverlong_ofInt hid hlong
  · exact Numeral.not_isOverlong_ofInt hwindow hlong

theorem parse_toText (hd : d.isNone = false) (hs : d.IsShort) : parse d.toText = .ok d := by
  obtain ⟨k, hk⟩ := exists_make hd
  have hread := Spelling.parse_text (Spelling.not_isOverlong_canonical (k := k) hs.1 hs.2)
  rw [Spelling.text_canonical, Spelling.source_canonical, ← hk] at hread
  exact hread

theorem toText_injective (hd : d.isNone = false) (he : e.isNone = false) (hds : d.IsShort)
    (hes : e.IsShort) (h : d.toText = e.toText) : d = e := by
  have hread : Except.ok d = parse e.toText := by rw [← h, parse_toText hd hds]
  rw [parse_toText he hes] at hread
  exact Except.ok.inj hread

theorem toText_eq_empty_iff : d.toText = "" ↔ d = .none := by
  constructor
  · intro hempty
    cases hd : d.isNone with
    | true =>
      cases d with
      | none => rfl
      | screen | window => cases hd
    | false =>
      obtain ⟨k, hk⟩ := exists_make hd
      have hsplit := Spelling.splitAt_text (.canonical k d.sourceId d.windowId)
      rw [Spelling.text_canonical, ← hk, hempty] at hsplit
      cases k <;> cases hsplit
  · rintro rfl
    exact toText_none

theorem Spelling.isShort_source {x : Spelling} (h : ¬x.IsOverlong) : x.source.IsShort := by
  have hnumerals : ∀ n ∈ x.numerals, n.value.natAbs < Nat.pow 10 IntegerText.digitLimit :=
    fun n hn => Numeral.natAbs_value_lt fun hlong => h ⟨n, hn, hlong⟩
  have hid := hnumerals x.id (List.mem_cons_self ..)
  have hwindow :
      ((x.window.map Numeral.value).getD 0).natAbs < Nat.pow 10 IntegerText.digitLimit := by
    cases hw : x.window with
    | none => exact Decimal.one_le_pow IntegerText.digitLimit
    | some w => exact hnumerals w (List.mem_cons_of_mem _ (Option.mem_toList.mpr hw))
  rw [source]
  cases x.kind with
  | screen => exact ⟨hid, hwindow⟩
  | window => exact ⟨hid, hwindow⟩

theorem parse_toText_of_parse (h : parse s = .ok d) : parse d.toText = .ok d := by
  rcases parse_cases s with ⟨x, -, hx, hread⟩ | ⟨-, n, -, hread⟩ | ⟨-, hread⟩
  · rw [h] at hread
    cases hread
    exact parse_toText x.isNone_source (Spelling.isShort_source hx)
  · rw [h] at hread
    cases hread
  · rw [h] at hread
    cases hread
    exact parse_empty

end DesktopId

open DesktopId in
/-- Sources with short numbers are read from what is written for them, and no two are written alike.
A text with short runs of digits is read as some source; what is written for that is read as it,
is what is written for what is read from it, and is empty for no source only. -/
theorem written_ids_are_canonical :
    (∀ d : DesktopId, d.isNone = false → d.IsShort → parse d.toText = .ok d) ∧
      (∀ d e : DesktopId, d.isNone = false → e.isNone = false → d.IsShort → e.IsShort →
        d.toText = e.toText → d = e) ∧
      ∀ s, HasShortDigitRuns s → ∃ d, parse s = .ok d ∧ parse d.toText = parse s ∧
        (parse d.toText).map toText = .ok d.toText ∧ (d.toText = "" ↔ d = .none) := by
  refine ⟨fun d hd hs => parse_toText hd hs, fun d e hd he hds hes h => ?_, fun s hs => ?_⟩
  · exact toText_injective hd he hds hes h
  · obtain ⟨d, hread⟩ := parse_ok hs
    have hagain := parse_toText_of_parse hread
    refine ⟨d, hread, ?_, ?_, toText_eq_empty_iff⟩
    · rw [hagain, hread]
    · rw [hagain]
      rfl

/-- A window with a negative number, and a text with leading zeros and without a window. -/
theorem written_ids_are_canonical_padded :
    let window := DesktopId.window (-12) 5
    let padded := DesktopId.screen (-7) 0
    window.toText = "window:-12:5" ∧ DesktopId.parse window.toText = .ok window ∧
      HasShortDigitRuns "screen:-007" ∧ DesktopId.parse "screen:-007" = .ok padded ∧
      padded.toText = "screen:-7:0" ∧ DesktopId.parse padded.toText = .ok padded := by
  intro window padded
  obtain ⟨hwritten, _, hread⟩ := written_ids_are_canonical
  have hshort : window.IsShort := by
    have hlarge : Nat.pow 10 2 ≤ Nat.pow 10 IntegerText.digitLimit :=
      Decimal.pow_le_pow (by decide)
    exact ⟨Nat.lt_of_lt_of_le (by decide) hlarge, Nat.lt_of_lt_of_le (by decide) hlarge⟩
  have hruns : HasShortDigitRuns "screen:-007" := fun run hrun _ =>
    hrun.length_le.trans (by decide)
  have hpadded : DesktopId.parse "screen:-007" = .ok padded := rfl
  obtain ⟨d, hd, hagain, _⟩ := hread "screen:-007" hruns
  rw [hpadded, Except.ok.injEq] at hd
  subst hd
  exact ⟨by decide +kernel, hwritten window rfl hshort, hruns, hpadded, by decide +kernel,
    hagain.trans hpadded⟩

end CaptureArbiter
