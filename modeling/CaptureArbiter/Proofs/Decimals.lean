import CaptureArbiter.Value.Reading
import Mathlib.Data.List.Basic
import Mathlib.Data.List.Induction
import Mathlib.Data.List.TakeWhile

/-!
# Decimal notation is read back

ASCII digits are read as the number that they are in base ten, with leading zeros and all, unless
there are too many of them; a sign before them counts and white space around them does not. A number
is written with the digits that are read back as it, and with as few of them as there are below the
next power of ten.
-/

namespace CaptureArbiter

namespace Text

variable {p : Char → Bool} {front rest : List Char}

theorem takeWhile_front (hfront : ∀ c ∈ front, p c = true) (hrest : ∀ c ∈ rest.head?, p c = false) :
    (front ++ rest).takeWhile p = front := by
  rw [List.takeWhile_append_of_pos hfront]
  cases rest with
  | nil => rw [List.takeWhile_nil, List.append_nil]
  | cons c rest =>
    rw [List.takeWhile_cons_of_neg (Bool.eq_false_iff.mp (hrest c rfl)), List.append_nil]

theorem dropWhile_front (hfront : ∀ c ∈ front, p c = true) (hrest : ∀ c ∈ rest.head?, p c = false) :
    (front ++ rest).dropWhile p = rest := by
  rw [List.dropWhile_append_of_pos hfront]
  cases rest with
  | nil => rfl
  | cons c rest => exact List.dropWhile_cons_of_neg (Bool.eq_false_iff.mp (hrest c rfl))

end Text

namespace IntegerText

theorem toNat_of_isDigit {c : Char} (h : c.isDigit = true) : 48 ≤ c.toNat ∧ c.toNat ≤ 57 := by
  simp only [Char.isDigit, ge_iff_le, Bool.and_eq_true, decide_eq_true_eq, UInt32.le_iff_toNat_le]
    at h
  exact h

theorem foldScript_of_lt {c : Char} (h : c.toNat < 128) : foldScript c = c := by
  simp only [foldScript, h, if_true]

theorem toNat_of_isPadding {c : Char} (h : isPadding c = true) : c.toNat ≤ 32 := by
  simp only [isPadding, Bool.or_eq_true, beq_iff_eq, Bool.and_eq_true, decide_eq_true_eq] at h
  rcases h with rfl | h
  · decide
  · omega

theorem not_isPadding_of_lt {c : Char} (h : 32 < c.toNat) : isPadding c = false := by
  rw [Bool.eq_false_iff]
  intro hc
  have hle := toNat_of_isPadding hc
  omega

theorem digitValue_of_isDigit {c : Char} (h : c.isDigit = true) : digitValue c = c.toNat - 48 := by
  obtain ⟨hlo, hhi⟩ := toNat_of_isDigit h
  simp only [digitValue, hlo, hhi, decide_true, Bool.and_self, if_true]

theorem isDigitOf_of_isDigit {c : Char} (h : c.isDigit = true) : isDigitOf 10 c = true := by
  obtain ⟨hlo, hhi⟩ := toNat_of_isDigit h
  rw [isDigitOf, digitValue_of_isDigit h, decide_eq_true_eq]
  omega

theorem ne_underscore_of_isDigit {c : Char} (h : c.isDigit = true) : c ≠ '_' := by
  rintro rfl
  exact absurd h (by decide)

theorem isSeparated_digits {ds : List Char} (hd : ∀ c ∈ ds, c.isDigit = true) :
    isSeparated false ds = true := by
  induction ds with
  | nil => rfl
  | cons c ds ih =>
    have hc := ne_underscore_of_isDigit (hd c (List.mem_cons_self ..))
    have hrest := ih fun x hx => hd x (List.mem_cons_of_mem _ hx)
    simp only [isSeparated, beq_iff_eq, hc, if_false, hrest]

theorem isSeparated_digits_of_ne_nil {ds : List Char} (hd : ∀ c ∈ ds, c.isDigit = true)
    (hne : ds ≠ []) : isSeparated true ds = true := by
  cases ds with
  | nil => exact absurd rfl hne
  | cons c ds =>
    have hc := ne_underscore_of_isDigit (hd c (List.mem_cons_self ..))
    have hrest := isSeparated_digits fun x hx => hd x (List.mem_cons_of_mem _ hx)
    simp only [isSeparated, beq_iff_eq, hc, if_false, hrest]

/-- The value of ASCII digits. -/
def valueOfDigits (ds : List Char) : Nat := Decimal.digitsValue 10 (ds.map digitValue)

theorem not_inRun_of_isPadding {c : Char} (h : isPadding c = true) :
    (isDigitOf 10 c || c == '_') = false := by
  have hle := toNat_of_isPadding h
  have hvalue : digitValue c = 36 := by
    have hdigit : ¬48 ≤ c.toNat := by omega
    have hlower : ¬97 ≤ c.toNat := by omega
    have hupper : ¬65 ≤ c.toNat := by omega
    simp only [digitValue, hdigit, hlower, hupper, decide_false, Bool.false_and,
      Bool.false_eq_true, if_false]
  have hmark : (c == '_') = false := by
    rw [beq_eq_false_iff_ne]
    rintro rfl
    exact absurd hle (by decide)
  rw [isDigitOf, hvalue, hmark]
  rfl

theorem readMagnitude_digits {ds rest : List Char} (hd : ∀ c ∈ ds, c.isDigit = true)
    (hne : ds ≠ []) (hrest : ∀ c ∈ rest, isPadding c = true) :
    readMagnitude 10 (ds ++ rest) =
      if digitLimit < ds.length then .error (.tooLong ds.length)
      else .ok (valueOfDigits ds, rest) := by
  have hrun : ∀ c ∈ ds, (isDigitOf 10 c || c == '_') = true := fun c hc => by
    rw [isDigitOf_of_isDigit (hd c hc), Bool.true_or]
  have hend : ∀ c ∈ rest.head?, (isDigitOf 10 c || c == '_') = false := fun c hc =>
    not_inRun_of_isPadding (hrest c (List.mem_of_mem_head? hc))
  have hfilter : ds.filter (· != '_') = ds :=
    List.filter_eq_self.mpr fun c hc => by
      rw [bne_iff_ne]
      exact ne_underscore_of_isDigit (hd c hc)
  simp only [readMagnitude, Text.takeWhile_front hrun hend, Text.dropWhile_front hrun hend,
    hfilter,
    isSeparated_digits_of_ne_nil hd hne, if_true, List.length_map, beq_self_eq_true, Bool.true_and,
    decide_eq_true_eq, valueOfDigits]

theorem map_foldScript_ascii {cs : List Char} (h : ∀ c ∈ cs, c.toNat < 128) :
    cs.map foldScript = cs := by
  have hfold : ∀ c ∈ cs, foldScript c = id c := fun c hc => foldScript_of_lt (h c hc)
  rw [List.map_congr_left hfold, List.map_id]

/-- The blanks that may surround a number: all blanks but the four separators of information. -/
def isWhiteSpace (c : Char) : Bool := Text.isBlank c && !(28 ≤ c.toNat && c.toNat ≤ 31)

theorem isPadding_foldScript {c : Char} (h : isWhiteSpace c = true) :
    isPadding (foldScript c) = true := by
  simp only [isWhiteSpace, Bool.and_eq_true, Bool.not_eq_true', Bool.and_eq_false_iff,
    decide_eq_false_iff_not] at h
  obtain ⟨hblank, hseparator⟩ := h
  by_cases hascii : c.toNat < 128
  · rw [foldScript_of_lt hascii]
    have hspace : c.toNat = 32 → c = ' ' := fun hc => Char.toNat_inj.mp hc
    simp only [Text.isBlank, Bool.or_eq_true, Bool.and_eq_true, decide_eq_true_eq, beq_iff_eq]
      at hblank
    simp only [isPadding, Bool.or_eq_true, beq_iff_eq, Bool.and_eq_true, decide_eq_true_eq]
    by_cases h32 : c.toNat = 32
    · exact .inl (hspace h32)
    · right
      omega
  · simp only [foldScript, hascii, if_false, hblank, if_true]
    rfl

theorem isPadding_of_mem_map {cs : List Char} (h : ∀ c ∈ cs, isWhiteSpace c = true) :
    ∀ c ∈ cs.map foldScript, isPadding c = true := by
  intro c hc
  obtain ⟨d, hd, rfl⟩ := List.mem_map.mp hc
  exact isPadding_foldScript (h d hd)

/-- What may stand between the white space and the digits of a number. -/
inductive Sign where
  | none
  | plus
  | minus

namespace Sign

def chars : Sign → List Char
  | none => []
  | plus => ['+']
  | minus => ['-']

def apply : Sign → Nat → Int
  | minus, n => -n
  | _, n => n

theorem toNat_of_mem_chars {sign : Sign} {c : Char} (h : c ∈ sign.chars) :
    32 < c.toNat ∧ c.toNat < 128 := by
  cases sign with
  | none => cases h
  | plus => exact List.mem_singleton.mp h ▸ by decide
  | minus => exact List.mem_singleton.mp h ▸ by decide

end Sign

theorem splitSign_chars (sign : Sign) {ds rest : List Char} (hd : ∀ c ∈ ds, c.isDigit = true)
    (hne : ds ≠ []) :
    splitSign (sign.chars ++ (ds ++ rest)) = (sign matches .minus, ds ++ rest) := by
  cases sign with
  | plus => rfl
  | minus => rfl
  | none =>
    obtain ⟨c, ds, rfl⟩ := List.exists_cons_of_ne_nil hne
    have hc := hd c (List.mem_cons_self ..)
    rw [Sign.chars, List.nil_append, List.cons_append]
    unfold splitSign
    split
    · next heq =>
      rw [(List.cons.inj heq).1] at hc
      exact absurd hc (by decide)
    · next heq =>
      rw [(List.cons.inj heq).1] at hc
      exact absurd hc (by decide)
    · rfl

theorem dropMark_ten (cs : List Char) : dropMark 10 cs = cs := by
  unfold dropMark
  split <;> rfl

variable {front back ds : List Char}

theorem readChars_padded (sign : Sign) (hfront : ∀ c ∈ front, isWhiteSpace c = true)
    (hback : ∀ c ∈ back, isWhiteSpace c = true) (hd : ∀ c ∈ ds, c.isDigit = true) (hne : ds ≠ []) :
    readChars 10 (front ++ (sign.chars ++ ds ++ back)) =
      if digitLimit < ds.length then .error (.tooLong ds.length)
      else .ok (sign.apply (valueOfDigits ds)) := by
  have hbounds : ∀ c ∈ sign.chars ++ ds, 32 < c.toNat ∧ c.toNat < 128 := fun c hc => by
    rcases List.mem_append.mp hc with hsign | hdigit
    · exact Sign.toNat_of_mem_chars hsign
    · have hrange := toNat_of_isDigit (hd c hdigit)
      omega
  have hfold : (sign.chars ++ ds).map foldScript = sign.chars ++ ds :=
    map_foldScript_ascii fun c hc => (hbounds c hc).2
  have hhead : ∀ c ∈ (sign.chars ++ ds ++ back.map foldScript).head?, isPadding c = false := by
    rw [List.head?_append_of_ne_nil _ (List.append_ne_nil_of_right_ne_nil _ hne)]
    exact fun c hc => not_isPadding_of_lt (hbounds c (List.mem_of_mem_head? hc)).1
  have hbody : ((front ++ (sign.chars ++ ds ++ back)).map foldScript).dropWhile isPadding =
      sign.chars ++ (ds ++ back.map foldScript) := by
    rw [List.map_append, List.map_append, hfold,
      Text.dropWhile_front (isPadding_of_mem_map hfront) hhead, List.append_assoc]
  have hrest := isPadding_of_mem_map hback
  simp only [readChars, hbody, splitSign_chars sign hd hne, dropMark_ten,
    readMagnitude_digits hd hne hrest]
  by_cases hlong : digitLimit < ds.length
  · simp only [hlong, if_true]
  · simp only [hlong, if_false, List.all_eq_true.mpr hrest, if_true]
    cases sign <;> rfl

theorem readChars_signed (sign : Sign) (hd : ∀ c ∈ ds, c.isDigit = true) (hne : ds ≠ []) :
    readChars 10 (sign.chars ++ ds) =
      if digitLimit < ds.length then .error (.tooLong ds.length)
      else .ok (sign.apply (valueOfDigits ds)) := by
  have hread : readChars 10 ([] ++ (sign.chars ++ ds ++ [])) = _ :=
    readChars_padded sign nofun nofun hd hne
  rwa [List.nil_append, List.append_nil] at hread

end IntegerText

open IntegerText

namespace Decimal

theorem toNat_digitChar {d : Nat} (h : d < 10) : (digitChar d).toNat = 48 + d := by
  have hvalid : (48 + d).isValidChar := by
    left
    omega
  rw [digitChar, Char.ofNat, dif_pos hvalid]
  rfl

theorem isDigit_digitChar {d : Nat} (h : d < 10) : (digitChar d).isDigit = true := by
  have hnat := toNat_digitChar h
  simp only [Char.isDigit, ge_iff_le, Bool.and_eq_true, decide_eq_true_eq, UInt32.le_iff_toNat_le]
  change 48 ≤ (digitChar d).toNat ∧ (digitChar d).toNat ≤ 57
  omega

theorem isDigit_natChars (n : Nat) : ∀ c ∈ natChars n, c.isDigit = true := by
  induction n using natChars.induct with
  | case1 n hn =>
    intro c hc
    rw [natChars, if_pos hn, List.mem_singleton] at hc
    rw [hc]
    exact isDigit_digitChar hn
  | case2 n hn ih =>
    intro c hc
    rw [natChars, if_neg hn, List.mem_append, List.mem_singleton] at hc
    rcases hc with hc | rfl
    · exact ih c hc
    · exact isDigit_digitChar (Nat.mod_lt n (by omega))

theorem valueOfDigits_concat (ds : List Char) (c : Char) :
    valueOfDigits (ds ++ [c]) = 10 * valueOfDigits ds + digitValue c := by
  simp only [valueOfDigits, List.map_append, List.map_cons, List.map_nil, digitsValue_append,
    List.foldl_cons, List.foldl_nil]

theorem digitValue_digitChar {d : Nat} (h : d < 10) : digitValue (digitChar d) = d := by
  have hnat := toNat_digitChar h
  rw [digitValue_of_isDigit (isDigit_digitChar h)]
  omega

theorem valueOfDigits_natChars (n : Nat) : valueOfDigits (natChars n) = n := by
  induction n using natChars.induct with
  | case1 n hn =>
    have hone := valueOfDigits_concat [] (digitChar n)
    rw [List.nil_append, digitValue_digitChar hn] at hone
    rw [natChars, if_pos hn, hone]
    simp only [valueOfDigits, digitsValue, List.map_nil, List.foldl_nil]
    omega
  | case2 n hn ih =>
    have hlast := digitValue_digitChar (Nat.mod_lt n (by omega : 10 > 0))
    rw [natChars, if_neg hn, valueOfDigits_concat, ih, hlast]
    omega

theorem one_le_pow (k : Nat) : 1 ≤ Nat.pow 10 k := Nat.pow_pos (by decide)

theorem pow_le_pow {j k : Nat} (h : j ≤ k) : Nat.pow 10 j ≤ Nat.pow 10 k :=
  Nat.pow_le_pow_right (by decide) h

theorem length_natChars_le {n k : Nat} (hk : 0 < k) (hn : n < Nat.pow 10 k) :
    (natChars n).length ≤ k := by
  induction n using natChars.induct generalizing k with
  | case1 n hsmall =>
    rw [natChars, if_pos hsmall]
    exact hk
  | case2 n hlarge ih =>
    obtain ⟨j, rfl⟩ : ∃ j, k = j + 1 := ⟨k - 1, by omega⟩
    have hpow : Nat.pow 10 (j + 1) = Nat.pow 10 j * 10 := rfl
    have hj : 0 < j := by
      rcases Nat.eq_zero_or_pos j with rfl | hj
      · have hone : Nat.pow 10 0 = 1 := rfl
        omega
      · exact hj
    have hlength := ih hj (by omega)
    rw [natChars, if_neg hlarge, List.length_append, List.length_singleton]
    omega

theorem valueOfDigits_lt {ds : List Char} (hd : ∀ c ∈ ds, c.isDigit = true) :
    valueOfDigits ds < Nat.pow 10 ds.length := by
  induction ds using List.reverseRecOn with
  | nil => exact Nat.one_pos
  | append_singleton ds c ih =>
    have hds := ih fun x hx => hd x (List.mem_append_left _ hx)
    have hc := hd c (List.mem_append_right _ (List.mem_singleton.mpr rfl))
    obtain ⟨_, hhi⟩ := toNat_of_isDigit hc
    have hpow : Nat.pow 10 (ds.length + 1) = Nat.pow 10 ds.length * 10 := rfl
    rw [valueOfDigits_concat, digitValue_of_isDigit hc, List.length_append, List.length_singleton]
    omega

end Decimal

end CaptureArbiter
