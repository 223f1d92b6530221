import CaptureArbiter.Screen
import CaptureArbiter.Proofs.Spellings

/-!
# Numbers in screen requests

The numbers of a desktop source are read unless they have too many digits. So a screen request is
granted its devices unless it names a source with an overlong number, and it does not do that if the
id that it names has no overlong run of digits.
-/

namespace CaptureArbiter

/-- No run of ASCII digits in the text is longer than the limit on numbers that are read. -/
def HasShortDigitRuns (s : String) : Prop :=
  ∀ run, run <:+: s.toList → (∀ c ∈ run, c.isDigit = true) → run.length ≤ IntegerText.digitLimit

/-- The request is for a desktop source that is named by a number of more digits than are read. -/
def Request.NamesOverlong (r : Request) : Prop :=
  r.video = .desktopVideo ∧ DesktopId.IsOverlong r.videoDeviceId

theorem Text.infix_intercalate (separator : List Char) {part : List Char} {parts : List (List Char)}
    (h : part ∈ parts) : part <:+: separator.intercalate parts := by
  induction parts with
  | nil => cases h
  | cons p ps ih =>
    cases ps with
    | nil =>
      have hpart : part = separator.intercalate [p] :=
        (List.mem_singleton.mp h).trans List.intercalate_singleton.symm
      exact hpart.subst (motive := fun cs => part <:+: cs) (List.infix_refl part)
    | cons q qs =>
      rw [List.intercalate_cons_cons]
      rcases List.mem_cons.mp h with rfl | h
      · exact ((List.prefix_append _ _).trans (List.prefix_append _ _)).isInfix
      · exact (ih h).trans (List.suffix_append _ _).isInfix

namespace DesktopId

theorem Spelling.digits_infix_text {x : Spelling} {n : Numeral} (h : n ∈ x.numerals) :
    n.digits <:+: x.text.toList := by
  have hpart : n.chars ∈ x.kind.word :: x.numbers :=
    List.mem_cons_of_mem _ (List.mem_map_of_mem h)
  rw [text, String.toList_ofList]
  exact n.digits_infix_chars.trans (Text.infix_intercalate [':'] hpart)

theorem not_isOverlong_of_shortDigitRuns {s : String} (h : HasShortDigitRuns s) :
    ¬IsOverlong s := by
  rintro ⟨x, rfl, n, hn, hlong⟩
  have hshort := h n.digits (Spelling.digits_infix_text hn) n.isDigit
  exact absurd hlong (Nat.not_lt.mpr hshort)

theorem parse_ok {s : String} (h : HasShortDigitRuns s) : ∃ d, parse s = .ok d :=
  parse_of_not_isOverlong (not_isOverlong_of_shortDigitRuns h)

end DesktopId

namespace Screen

variable {r : Request}

theorem desktopTarget_ok {s : String} (h : ¬DesktopId.IsOverlong s) :
    ∃ target, desktopTarget s = .ok target := by
  obtain ⟨d, hd⟩ := DesktopId.parse_of_not_isOverlong h
  rw [desktopTarget, hd]
  split
  · exact ⟨DesktopId.fullDesktop.toText, rfl⟩
  · exact ⟨d.toText, rfl⟩

theorem grant_of_not_namesOverlong (h : ¬r.NamesOverlong) : ∃ devices, grant r = .ok devices := by
  have hvideo : ∃ devices, videoDevices r = .ok devices := by
    unfold videoDevices
    split
    · exact ⟨_, rfl⟩
    · next hv =>
      obtain ⟨target, htarget⟩ := desktopTarget_ok fun hlong => h ⟨hv, hlong⟩
      rw [htarget]
      exact ⟨[⟨.desktopVideo, target, "Screen"⟩], rfl⟩
    · exact ⟨_, rfl⟩
  obtain ⟨devices, hd⟩ := hvideo
  exact ⟨arrange (audioDevices r) devices, by rw [grant, hd]; rfl⟩

theorem grant_of_namesOverlong (h : r.NamesOverlong) :
    ∃ digits, IntegerText.digitLimit < digits ∧ grant r = .error (.integerTextTooLong digits) := by
  obtain ⟨hv, hlong⟩ := h
  obtain ⟨digits, hdigits, hparse⟩ := DesktopId.parse_of_isOverlong hlong
  have hnamed : (r.videoDeviceId == "") = false := by
    rw [beq_eq_false_iff_ne]
    intro hempty
    rw [hempty] at hparse
    cases hparse
  refine ⟨digits, hdigits, ?_⟩
  simp only [grant, videoDevices, hv, desktopTarget, hnamed, Bool.false_eq_true, if_false, hparse]
  rfl

theorem grant_ok (h : r.video = .desktopVideo → HasShortDigitRuns r.videoDeviceId) :
    ∃ devices, grant r = .ok devices :=
  grant_of_not_namesOverlong fun ⟨hv, hlong⟩ =>
    DesktopId.not_isOverlong_of_shortDigitRuns (h hv) hlong

end Screen

end CaptureArbiter
