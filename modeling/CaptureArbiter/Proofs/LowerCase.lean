import CaptureArbiter.Text.CharacterClass
import CaptureArbiter.Text.LetterCase
import Mathlib.Data.List.Basic

/-!
# Lower case

What a text is lowered to has nothing left to be lowered. Blanks and slashes stay as they are, and
no other character becomes one. The case table is read as two sets of code points, those it moves
and those it moves them to; what the proofs need of it is that these sets do not meet.
-/

namespace CaptureArbiter.Text

/-- The set of code points as the bits of one number, so that large sets are compared at once. -/
def bits (codes : List Nat) : Nat := codes.foldr (fun code set => 1 <<< code ||| set) 0

theorem testBit_bits (codes : List Nat) (code : Nat) :
    (bits codes).testBit code = codes.contains code := by
  induction codes with
  | nil => simp [bits]
  | cons other codes ih =>
    rw [bits, List.foldr_cons, ← bits, Nat.testBit_or, ih, List.contains_cons]
    congr 1
    rw [Nat.one_shiftLeft, Nat.testBit_two_pow, Bool.eq_iff_iff, decide_eq_true_eq, beq_iff_eq]
    exact eq_comm

theorem disjoint_of_bits {codes others : List Nat} (h : bits codes &&& bits others = 0) :
    ∀ code ∈ codes, code ∉ others := by
  intro code hcode hother
  have hbit : (bits codes &&& bits others).testBit code = true := by
    rw [Nat.testBit_and, testBit_bits, testBit_bits]
    simp [hcode, hother]
  rw [h, Nat.zero_testBit] at hbit
  cases hbit

namespace CaseRun

def members (run : CaseRun) : List Nat :=
  List.range' run.first ((run.last - run.first) / run.stride + 1) run.stride

def image (run : CaseRun) (code : Nat) : Nat := (code + run.shift).toNat

variable {run : CaseRun} {runs : List CaseRun} {code : Nat}

theorem mem_members (h : run.holds code = true) : code ∈ run.members := by
  simp only [holds, Bool.and_eq_true, decide_eq_true_eq, beq_iff_eq] at h
  obtain ⟨⟨hfirst, hlast⟩, hstride⟩ := h
  rw [members, List.mem_range']
  refine ⟨(code - run.first) / run.stride, ?_, ?_⟩
  · have hle : (code - run.first) / run.stride ≤ (run.last - run.first) / run.stride :=
      Nat.div_le_div_right (by omega)
    omega
  · have hdiv := Nat.div_add_mod (code - run.first) run.stride
    omega

theorem map_cases (runs : List CaseRun) (code : Nat) :
    map runs code = code ∨
      ∃ run ∈ runs, code ∈ run.members ∧ map runs code = run.image code := by
  unfold map
  cases h : runs.find? (·.holds code) with
  | none => exact .inl rfl
  | some run =>
    have hholds : run.holds code = true := by simpa using List.find?_some h
    exact .inr ⟨run, List.mem_of_find?_eq_some h, mem_members hholds, rfl⟩

end CaseRun

def lowered : List Nat := lowerRuns.flatMap CaseRun.members

def lowerImages : List Nat := lowerRuns.flatMap fun run => run.members.map run.image

/-- The code points of the slash and of the blanks. -/
def edges : List Nat :=
  [0x2f, 9, 10, 11, 12, 13, 28, 29, 30, 31, 32, 0x85, 0xa0, 0x1680, 0x2000, 0x2001, 0x2002, 0x2003,
    0x2004, 0x2005, 0x2006, 0x2007, 0x2008, 0x2009, 0x200a, 0x2028, 0x2029, 0x202f, 0x205f, 0x3000]

theorem not_mem_lowered_of_mem_images : ∀ code ∈ lowerImages, code ∉ lowered :=
  disjoint_of_bits (by decide +kernel)

theorem not_mem_lowered_of_mem_edges : ∀ code ∈ edges, code ∉ lowered :=
  disjoint_of_bits (by decide +kernel)

-- The dotted capital I has a lower case of two characters, which the table cannot give.
theorem not_mem_images_of_mem_edges : ∀ code ∈ 0x130 :: edges, code ∉ lowerImages :=
  disjoint_of_bits (by decide +kernel)

theorem isValidChar_of_mem_images : ∀ code ∈ lowerImages, code.isValidChar := by decide +kernel

theorem sigma_mem_lowered : 0x3a3 ∈ lowered := by decide +kernel

def lowerCode (c : Char) : Char := Char.ofNat (CaseRun.map lowerRuns c.toNat)

/-- A character that is its own lower case, wherever it stands. -/
structure IsLowered (c : Char) : Prop where
  not_sigma : c ≠ '\u03a3'
  not_dotted : c ≠ '\u0130'
  stays : lowerCode c = c

theorem lowerCode_cases (c : Char) :
    lowerCode c = c ∨ c.toNat ∈ lowered ∧ (lowerCode c).toNat ∈ lowerImages := by
  rcases CaseRun.map_cases lowerRuns c.toNat with hsame | ⟨run, hrun, hmem, himage⟩
  · left
    rw [lowerCode, hsame, Char.ofNat_toNat]
  · right
    have himages : CaseRun.map lowerRuns c.toNat ∈ lowerImages := by
      rw [himage]
      exact List.mem_flatMap.2 ⟨run, hrun, List.mem_map_of_mem hmem⟩
    have hcode : (lowerCode c).toNat = CaseRun.map lowerRuns c.toNat := by
      rw [lowerCode, Char.ofNat, dif_pos (isValidChar_of_mem_images _ himages)]
      rfl
    rw [hcode]
    exact ⟨List.mem_flatMap.2 ⟨run, hrun, hmem⟩, himages⟩

theorem lowerCode_of_not_mem {c : Char} (h : c.toNat ∉ lowered) : lowerCode c = c := by
  rcases lowerCode_cases c with hsame | ⟨hmem, _⟩
  · exact hsame
  · exact absurd hmem h

theorem isLowered_of_mem_images {c : Char} (h : c.toNat ∈ lowerImages) : IsLowered c where
  not_sigma := by
    rintro rfl
    exact not_mem_lowered_of_mem_images _ h sigma_mem_lowered
  not_dotted := by
    rintro rfl
    exact not_mem_images_of_mem_edges 0x130 (by simp) h
  stays := lowerCode_of_not_mem (not_mem_lowered_of_mem_images _ h)

theorem toLower_eq_lowerCode :
    ∀ code < 128, (Char.ofNat code).toLower = lowerCode (Char.ofNat code) := by
  decide +kernel

variable {before after cs : List Char} {c d : Char}

theorem lowerChar_of_ne (hsigma : c ≠ '\u03a3') (hdotted : c ≠ '\u0130') :
    lowerChar before c after = [lowerCode c] := by
  by_cases hascii : c.toNat < 128
  · have hcode := toLower_eq_lowerCode c.toNat hascii
    rw [Char.ofNat_toNat] at hcode
    simp [lowerChar, hascii, hcode]
  · simp [lowerChar, hascii, hsigma, hdotted, lowerCode]

theorem lowerChar_of_isLowered (h : IsLowered c) : lowerChar before c after = [c] := by
  rw [lowerChar_of_ne h.not_sigma h.not_dotted, h.stays]

theorem mem_lowerChar (h : d ∈ lowerChar before c after) :
    c = '\u03a3' ∧ (d = '\u03c2' ∨ d = '\u03c3') ∨ c = '\u0130' ∧ (d = 'i' ∨ d = '\u0307') ∨
      c ≠ '\u03a3' ∧ c ≠ '\u0130' ∧ d = lowerCode c := by
  by_cases hsigma : c = '\u03a3'
  · left
    refine ⟨hsigma, ?_⟩
    rw [hsigma] at h
    have hone : d = if reachesCased before && !reachesCased after then '\u03c2' else '\u03c3' :=
      List.mem_singleton.1 h
    split at hone
    · exact .inl hone
    · exact .inr hone
  by_cases hdotted : c = '\u0130'
  · right
    left
    refine ⟨hdotted, ?_⟩
    rw [hdotted] at h
    have htwo : d ∈ ['i', '\u0307'] := h
    simpa using htwo
  · rw [lowerChar_of_ne hsigma hdotted, List.mem_singleton] at h
    exact .inr (.inr ⟨hsigma, hdotted, h⟩)

theorem lowerChar_ne_nil (before : List Char) (c : Char) (after : List Char) :
    lowerChar before c after ≠ [] := by
  unfold lowerChar
  split
  · simp
  split
  · simp
  split
  · simp
  · simp

theorem isLowered_of_mem_lowerChar (h : d ∈ lowerChar before c after) : IsLowered d := by
  rcases mem_lowerChar h with ⟨_, rfl | rfl⟩ | ⟨_, rfl | rfl⟩ | ⟨hsigma, hdotted, rfl⟩
  · exact ⟨by decide, by decide, by decide +kernel⟩
  · exact isLowered_of_mem_images (by decide +kernel)
  · exact isLowered_of_mem_images (by decide +kernel)
  · exact ⟨by decide, by decide, by decide +kernel⟩
  · rcases lowerCode_cases c with hsame | ⟨_, himage⟩
    · rw [hsame]
      exact ⟨hsigma, hdotted, hsame⟩
    · exact isLowered_of_mem_images himage

/-- Blanks and slashes stay, and nothing else becomes one. -/
theorem eq_of_mem_lowerChar (h : d ∈ lowerChar before c after)
    (hedge : c.toNat ∈ edges ∨ d.toNat ∈ edges) : d = c := by
  rcases mem_lowerChar h with ⟨rfl, rfl | rfl⟩ | ⟨rfl, rfl | rfl⟩ | ⟨_, _, rfl⟩
  · exact absurd hedge (by decide)
  · exact absurd hedge (by decide)
  · exact absurd hedge (by decide)
  · exact absurd hedge (by decide)
  · rcases lowerCode_cases c with hsame | ⟨hlowered, himage⟩
    · exact hsame
    · rcases hedge with hedge | hedge
      · exact absurd hlowered (not_mem_lowered_of_mem_edges _ hedge)
      · exact absurd himage (not_mem_images_of_mem_edges _ (List.mem_cons_of_mem _ hedge))

theorem mem_edges_of_isBlank (h : isBlank c = true) : c.toNat ∈ edges := by
  simp only [isBlank, Bool.or_eq_true, Bool.and_eq_true, decide_eq_true_eq, beq_iff_eq] at h
  simp only [edges, List.mem_cons, List.not_mem_nil, or_false]
  omega

theorem isBlank_of_mem_lowerChar (h : d ∈ lowerChar before c after) : isBlank d = isBlank c := by
  by_cases hblank : isBlank c = true ∨ isBlank d = true
  · rw [eq_of_mem_lowerChar h (hblank.imp mem_edges_of_isBlank mem_edges_of_isBlank)]
  · simp only [not_or, Bool.not_eq_true] at hblank
    rw [hblank.1, hblank.2]

theorem eq_slash_of_mem_lowerChar (h : d ∈ lowerChar before c after) (hslash : d = '/') :
    c = '/' := by
  have hedge : d.toNat ∈ edges := by
    rw [hslash]
    decide
  rw [← eq_of_mem_lowerChar h (.inr hedge), hslash]

theorem isLowered_of_mem_lowerFrom (h : d ∈ lowerFrom before cs) : IsLowered d := by
  induction cs generalizing before with
  | nil => cases h
  | cons c rest ih =>
    rw [lowerFrom, List.mem_append] at h
    rcases h with hhead | hrest
    · exact isLowered_of_mem_lowerChar hhead
    · exact ih hrest

theorem lowerFrom_of_isLowered (h : ∀ c ∈ cs, IsLowered c) : lowerFrom before cs = cs := by
  induction cs generalizing before with
  | nil => rfl
  | cons c rest ih =>
    rw [lowerFrom, lowerChar_of_isLowered (h c (by simp)),
      ih fun d hd => h d (List.mem_cons_of_mem c hd)]
    rfl

theorem lowerFrom_append (before cs : List Char) (c : Char) :
    ∃ front, lowerFrom before (cs ++ [c]) = front ++ lowerChar (cs.reverse ++ before) c [] := by
  induction cs generalizing before with
  | nil => exact ⟨[], by simp [lowerFrom]⟩
  | cons d cs ih =>
    obtain ⟨front, hfront⟩ := ih (d :: before)
    refine ⟨lowerChar before d (cs ++ [c]) ++ front, ?_⟩
    rw [List.cons_append, lowerFrom, hfront, List.append_assoc, List.reverse_cons,
      List.append_assoc]
    rfl

theorem mem_of_lowerFrom_cons {rest : List Char} (h : lowerFrom before (c :: cs) = d :: rest) :
    d ∈ lowerChar before c cs := by
  obtain ⟨e, tail, hlower⟩ := List.exists_cons_of_ne_nil (lowerChar_ne_nil before c cs)
  rw [lowerFrom, hlower, List.cons_append, List.cons.injEq] at h
  rw [hlower, ← h.1]
  exact List.mem_cons_self

theorem mem_of_lowerFrom_concat {front : List Char}
    (h : lowerFrom before (cs ++ [c]) = front ++ [d]) :
    d ∈ lowerChar (cs.reverse ++ before) c [] := by
  obtain ⟨passed, hpassed⟩ := lowerFrom_append before cs c
  have hne := lowerChar_ne_nil (cs.reverse ++ before) c []
  have hlast : (lowerChar (cs.reverse ++ before) c []).getLast? = some d := by
    rw [← List.getLast?_append_of_ne_nil passed hne, ← hpassed, h, List.getLast?_concat]
  exact List.mem_of_getLast? hlast

theorem lowerFrom_ne_nil (h : cs ≠ []) : lowerFrom before cs ≠ [] := by
  cases cs with
  | nil => exact absurd rfl h
  | cons c cs =>
    rw [lowerFrom]
    exact List.append_ne_nil_of_left_ne_nil (lowerChar_ne_nil before c cs) _

end CaptureArbiter.Text
