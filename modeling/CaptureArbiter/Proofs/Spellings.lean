import CaptureArbiter.DesktopId
import CaptureArbiter.Proofs.Decimals

/-!
# How desktop sources are spelled

A source is spelled by the word of its kind, its number and perhaps the number of its window, with
colons between them. Reading a spelling gives the source that it stands for, unless a number in it
has more digits than are read; any other text is read as no source. A written source is spelled with
both numbers and the fewest digits.
-/

namespace CaptureArbiter.DesktopId

open IntegerText (valueOfDigits digitLimit)

/-- A written number: ASCII digits, perhaps after a minus sign. -/
structure Numeral where
  minus : Bool
  digits : List Char
  digits_ne_nil : digits ≠ []
  isDigit : ∀ c ∈ digits, c.isDigit = true

namespace Numeral

def chars (n : Numeral) : List Char := if n.minus then '-' :: n.digits else n.digits

def value (n : Numeral) : Int :=
  if n.minus then -(valueOfDigits n.digits : Int) else valueOfDigits n.digits

/-- Does the numeral have more digits than are read? -/
def IsOverlong (n : Numeral) : Prop := digitLimit < n.digits.length

theorem isDigit_of_mem_chars {n : Numeral} {c : Char} (h : c ∈ n.chars) :
    c = '-' ∨ c.isDigit = true := by
  unfold chars at h
  split at h
  · rcases List.mem_cons.mp h with hminus | hdigit
    · exact .inl hminus
    · exact .inr (n.isDigit c hdigit)
  · exact .inr (n.isDigit c h)

theorem colon_not_mem_chars (n : Numeral) : ':' ∉ n.chars := fun h => by
  rcases isDigit_of_mem_chars h with hminus | hdigit
  · exact absurd hminus (by decide)
  · exact absurd hdigit (by decide)

theorem digits_infix_chars (n : Numeral) : n.digits <:+: n.chars := by
  unfold chars
  split
  · exact (List.suffix_cons '-' n.digits).isInfix
  · exact List.infix_refl n.digits

theorem isSignedNumber_digits {ds : List Char} (hne : ds ≠ []) (hd : ∀ c ∈ ds, c.isDigit = true) :
    isSignedNumber ds = true := by
  have hall := List.all_eq_true.mpr hd
  have hfull := List.isEmpty_eq_false_iff.mpr hne
  unfold isSignedNumber
  split
  · next rest =>
    have hminus := hd '-' (List.mem_cons_self ..)
    exact absurd hminus (by decide)
  · simp only [hall, hfull, Bool.not_false, Bool.and_true]

theorem isSignedNumber_chars (n : Numeral) : isSignedNumber n.chars = true := by
  have hall := List.all_eq_true.mpr n.isDigit
  have hne := List.isEmpty_eq_false_iff.mpr n.digits_ne_nil
  unfold chars
  split
  · simp only [isSignedNumber, hall, hne, Bool.not_false, Bool.and_true]
  · exact isSignedNumber_digits n.digits_ne_nil n.isDigit

theorem exists_of_isSignedNumber {cs : List Char} (h : isSignedNumber cs = true) :
    ∃ n : Numeral, n.chars = cs := by
  unfold isSignedNumber at h
  split at h
  · next rest =>
    simp only [Bool.and_eq_true, Bool.not_eq_true', List.isEmpty_eq_false_iff,
      List.all_eq_true] at h
    exact ⟨⟨true, rest, h.1, h.2⟩, rfl⟩
  · simp only [Bool.and_eq_true, Bool.not_eq_true', List.isEmpty_eq_false_iff,
      List.all_eq_true] at h
    exact ⟨⟨false, cs, h.1, h.2⟩, rfl⟩

theorem readChars_chars (n : Numeral) :
    IntegerText.readChars 10 n.chars =
      if digitLimit < n.digits.length then .error (.tooLong n.digits.length) else .ok n.value := by
  unfold chars value
  split
  · exact IntegerText.readChars_signed .minus n.isDigit n.digits_ne_nil
  · exact IntegerText.readChars_signed .none n.isDigit n.digits_ne_nil

theorem readInteger_chars {n : Numeral} (h : ¬n.IsOverlong) :
    Value.readInteger 10 (String.ofList n.chars) = .ok n.value := by
  have hread : IntegerText.readChars 10 n.chars = .ok n.value := n.readChars_chars.trans (if_neg h)
  rw [Value.readInteger, IntegerText.read, String.toList_ofList, hread, Value.orFailure]

theorem readInteger_chars_of_isOverlong {n : Numeral} (h : n.IsOverlong) :
    Value.readInteger 10 (String.ofList n.chars) =
      .error (.integerTextTooLong n.digits.length) := by
  have hread : IntegerText.readChars 10 n.chars = .error (.tooLong n.digits.length) :=
    n.readChars_chars.trans (if_pos h)
  rw [Value.readInteger, IntegerText.read, String.toList_ofList, hread, Value.orFailure]

/-- A numeral for each number, with the fewest digits. -/
def ofInt (n : Int) : Numeral where
  minus := decide (n < 0)
  digits := Decimal.natChars n.natAbs
  digits_ne_nil := Decimal.natChars_ne_nil n.natAbs
  isDigit := Decimal.isDigit_natChars n.natAbs

theorem chars_ofInt (n : Int) : (ofInt n).chars = Decimal.intChars n := by
  cases n with
  | ofNat n => rfl
  | negSucc n =>
    have hsign : Int.negSucc n < 0 := by omega
    simp only [chars, ofInt, hsign, decide_true, if_true, Decimal.intChars, Int.natAbs_negSucc]

theorem value_ofInt (n : Int) : (ofInt n).value = n := by
  unfold value
  simp only [ofInt, decide_eq_true_eq, Decimal.valueOfDigits_natChars]
  split <;> omega

theorem not_isOverlong_ofInt {n : Int} (h : n.natAbs < Nat.pow 10 digitLimit) :
    ¬(ofInt n).IsOverlong := by
  have hlength := Decimal.length_natChars_le (by decide : 0 < digitLimit) h
  exact Nat.not_lt.mpr hlength

theorem natAbs_value_lt {n : Numeral} (h : ¬n.IsOverlong) :
    n.value.natAbs < Nat.pow 10 digitLimit := by
  have hlength : n.digits.length ≤ digitLimit := Nat.not_lt.mp h
  have hvalue : n.value.natAbs = valueOfDigits n.digits := by
    unfold value
    split <;> omega
  calc n.value.natAbs = valueOfDigits n.digits := hvalue
    _ < Nat.pow 10 n.digits.length := Decimal.valueOfDigits_lt n.isDigit
    _ ≤ Nat.pow 10 digitLimit := Decimal.pow_le_pow hlength

end Numeral

inductive SourceKind where
  | screen
  | window

namespace SourceKind

def word : SourceKind → List Char
  | screen => "screen".toList
  | window => "window".toList

def make : SourceKind → Int → Int → DesktopId
  | screen => .screen
  | window => .window

theorem colon_not_mem_word (k : SourceKind) : ':' ∉ k.word := by
  cases k <;> decide

theorem ofTypeName?_word (k : SourceKind) : ofTypeName? k.word = some k.make := by
  cases k <;> rfl

theorem exists_of_ofTypeName? {word : List Char} {make : Int → Int → DesktopId}
    (h : ofTypeName? word = some make) : ∃ k : SourceKind, k.word = word ∧ k.make = make := by
  unfold ofTypeName? at h
  split at h
  · next hword => exact ⟨screen, (beq_iff_eq.mp hword).symm, Option.some.inj h⟩
  · split at h
    · next hword => exact ⟨window, (beq_iff_eq.mp hword).symm, Option.some.inj h⟩
    · cases h

theorem isNone_make (k : SourceKind) (id window : Int) : (k.make id window).isNone = false := by
  cases k <;> rfl

end SourceKind

/-- The parts of a text that names a source. -/
structure Spelling where
  kind : SourceKind
  id : Numeral
  window : Option Numeral

namespace Spelling

def numerals (x : Spelling) : List Numeral := x.id :: x.window.toList

/-- The parts of the text after the word of the kind. -/
def numbers (x : Spelling) : List (List Char) := x.numerals.map Numeral.chars

def text (x : Spelling) : String :=
  String.ofList ([':'].intercalate (x.kind.word :: x.numbers))

/-- The source that a spelling stands for. -/
def source (x : Spelling) : DesktopId :=
  x.kind.make x.id.value ((x.window.map Numeral.value).getD 0)

def IsOverlong (x : Spelling) : Prop := ∃ n ∈ x.numerals, n.IsOverlong

theorem text_of_no_window (k : SourceKind) (n : Numeral) :
    text ⟨k, n, Option.none⟩ = String.ofList (k.word ++ ':' :: n.chars) := by
  simp only [text, numbers, numerals, Option.toList_none, List.map_cons, List.map_nil,
    List.intercalate_cons_cons, List.intercalate_singleton, List.append_assoc,
    List.singleton_append]

theorem colon_not_mem_part (x : Spelling) : ∀ part ∈ x.kind.word :: x.numbers, ':' ∉ part := by
  intro part hpart
  rcases List.mem_cons.mp hpart with rfl | hnumber
  · exact x.kind.colon_not_mem_word
  · obtain ⟨n, -, rfl⟩ := List.mem_map.mp hnumber
    exact n.colon_not_mem_chars

theorem splitAt_text (x : Spelling) :
    Text.splitAt ':' x.text.toList = x.kind.word :: x.numbers := by
  rw [text, String.toList_ofList]
  exact Text.splitAt_intercalate (List.cons_ne_nil _ _) x.colon_not_mem_part

theorem parse_text_eq (x : Spelling) : parse x.text = readNumbers x.kind.make x.numbers := by
  rw [parse, splitAt_text]
  simp only [SourceKind.ofTypeName?_word]

/-- A spelling without overlong numbers is read as the source that it stands for. -/
theorem parse_text {x : Spelling} (h : ¬x.IsOverlong) : parse x.text = .ok x.source := by
  have hnumerals : ∀ n ∈ x.numerals, ¬n.IsOverlong := fun n hn hlong => h ⟨n, hn, hlong⟩
  rw [parse_text_eq, numbers, source]
  unfold numerals at hnumerals ⊢
  cases hw : x.window with
  | none =>
    have hid := Numeral.readInteger_chars (hnumerals x.id (List.mem_cons_self ..))
    simp only [Option.toList_none, List.map_cons, List.map_nil, readNumbers,
      Numeral.isSignedNumber_chars, if_true, hid]
    rfl
  | some w =>
    have hmem : w ∈ x.id :: x.window.toList := by
      rw [hw]
      exact List.mem_cons_of_mem _ (List.mem_singleton.mpr rfl)
    have hid := Numeral.readInteger_chars (hnumerals x.id (List.mem_cons_self ..))
    have hwindow := Numeral.readInteger_chars (hnumerals w hmem)
    simp only [Option.toList_some, List.map_cons, List.map_nil, readNumbers,
      Numeral.isSignedNumber_chars, Bool.and_self, if_true, hid, hwindow]
    rfl

/-- A spelling with an overlong number is refused, with the length of such a number. -/
theorem parse_text_of_isOverlong {x : Spelling} (h : x.IsOverlong) :
    ∃ n ∈ x.numerals, n.IsOverlong ∧
      parse x.text = .error (.integerTextTooLong n.digits.length) := by
  rw [parse_text_eq, numbers]
  unfold IsOverlong at h
  unfold numerals at h ⊢
  by_cases hid : x.id.IsOverlong
  · have hread := Numeral.readInteger_chars_of_isOverlong hid
    refine ⟨x.id, List.mem_cons_self .., hid, ?_⟩
    cases x.window with
    | none =>
      simp only [Option.toList_none, List.map_cons, List.map_nil, readNumbers,
        Numeral.isSignedNumber_chars, if_true, hread]
      rfl
    | some w =>
      simp only [Option.toList_some, List.map_cons, List.map_nil, readNumbers,
        Numeral.isSignedNumber_chars, Bool.and_self, if_true, hread]
      rfl
  · obtain ⟨n, hn, hlong⟩ := h
    have hwindow : n ∈ x.window.toList := by
      rcases List.mem_cons.mp hn with rfl | hn
      · exact absurd hlong hid
      · exact hn
    have hw : x.window = some n := Option.mem_toList.mp hwindow
    have hreadId := Numeral.readInteger_chars hid
    have hread := Numeral.readInteger_chars_of_isOverlong hlong
    refine ⟨n, hn, hlong, ?_⟩
    simp only [hw, Option.toList_some, List.map_cons, List.map_nil, readNumbers,
      Numeral.isSignedNumber_chars, Bool.and_self, if_true, hreadId, hread]
    rfl

theorem isNone_source (x : Spelling) : x.source.isNone = false := x.kind.isNone_make _ _

end Spelling

theorem exists_spelling_of_splitAt {s : String} {k : SourceKind} (numerals : List Numeral)
    (h : Text.splitAt ':' s.toList = k.word :: numerals.map Numeral.chars)
    (hlength : numerals.length = 1 ∨ numerals.length = 2) : ∃ x : Spelling, x.text = s := by
  have hjoined := Text.intercalate_splitAt ':' s.toList
  rw [h] at hjoined
  have htext : ∀ x : Spelling, x.kind = k → x.numerals = numerals → x.text = s := by
    intro x hk hn
    rw [Spelling.text, Spelling.numbers, hk, hn, hjoined, String.ofList_toList]
  match numerals, hlength with
  | [id], _ => exact ⟨⟨k, id, Option.none⟩, htext _ rfl rfl⟩
  | [id, w], _ => exact ⟨⟨k, id, some w⟩, htext _ rfl rfl⟩

/-- A text that is no spelling names no source. -/
theorem parse_of_not_spelling {s : String} (h : ∀ x : Spelling, x.text ≠ s) :
    parse s = .ok .none := by
  unfold parse
  split
  · rfl
  · next word numbers hsplit =>
    split
    · next make hmake =>
      obtain ⟨k, rfl, rfl⟩ := SourceKind.exists_of_ofTypeName? hmake
      -- what is not refused for its shape would make up a spelling
      match numbers with
      | [] => rfl
      | [id] =>
        rw [readNumbers]
        split
        · next hid =>
          obtain ⟨n, rfl⟩ := Numeral.exists_of_isSignedNumber hid
          obtain ⟨x, hx⟩ := exists_spelling_of_splitAt [n] hsplit (.inl rfl)
          exact absurd hx (h x)
        · rfl
      | [id, w] =>
        rw [readNumbers]
        split
        · next hboth =>
          obtain ⟨hid, hw⟩ := Bool.and_eq_true_iff.mp hboth
          obtain ⟨n, rfl⟩ := Numeral.exists_of_isSignedNumber hid
          obtain ⟨m, rfl⟩ := Numeral.exists_of_isSignedNumber hw
          obtain ⟨x, hx⟩ := exists_spelling_of_splitAt [n, m] hsplit (.inr rfl)
          exact absurd hx (h x)
        · rfl
      | _ :: _ :: _ :: _ => rfl
    · rfl

/-- Does the text spell a source with a number of more digits than are read? -/
def IsOverlong (s : String) : Prop := ∃ x : Spelling, x.text = s ∧ x.IsOverlong

theorem parse_cases (s : String) :
    (∃ x : Spelling, x.text = s ∧ ¬x.IsOverlong ∧ parse s = .ok x.source) ∨
    (IsOverlong s ∧ ∃ digits, digitLimit < digits ∧
      parse s = .error (.integerTextTooLong digits)) ∨
    ((∀ x : Spelling, x.text ≠ s) ∧ parse s = .ok .none) := by
  by_cases hs : ∃ x : Spelling, x.text = s
  · obtain ⟨x, rfl⟩ := hs
    by_cases hx : x.IsOverlong
    · obtain ⟨n, -, hn, hparse⟩ := Spelling.parse_text_of_isOverlong hx
      exact .inr (.inl ⟨⟨x, rfl, hx⟩, n.digits.length, hn, hparse⟩)
    · exact .inl ⟨x, rfl, hx, Spelling.parse_text hx⟩
  · have hno : ∀ x : Spelling, x.text ≠ s := fun x hx => hs ⟨x, hx⟩
    exact .inr (.inr ⟨hno, parse_of_not_spelling hno⟩)

theorem parse_of_not_isOverlong {s : String} (h : ¬IsOverlong s) : ∃ d, parse s = .ok d := by
  rcases parse_cases s with ⟨x, -, -, hx⟩ | ⟨hlong, -⟩ | ⟨-, hnone⟩
  · exact ⟨x.source, hx⟩
  · exact absurd hlong h
  · exact ⟨.none, hnone⟩

theorem parse_of_isOverlong {s : String} (h : IsOverlong s) :
    ∃ digits, digitLimit < digits ∧ parse s = .error (.integerTextTooLong digits) := by
  obtain ⟨x, rfl, hx⟩ := h
  obtain ⟨n, -, hn, hparse⟩ := Spelling.parse_text_of_isOverlong hx
  exact ⟨n.digits.length, hn, hparse⟩

/-- How a source with the numbers is written. -/
def Spelling.canonical (k : SourceKind) (id window : Int) : Spelling :=
  ⟨k, .ofInt id, some (.ofInt window)⟩

theorem Spelling.source_canonical (k : SourceKind) (id window : Int) :
    (canonical k id window).source = k.make id window := by
  simp only [canonical, source, Option.map_some, Option.getD_some, Numeral.value_ofInt]

theorem SourceKind.toText_make (k : SourceKind) (id window : Int) :
    (k.make id window).toText =
      ":".intercalate [String.ofList k.word, Decimal.ofInt id, Decimal.ofInt window] := by
  cases k with
  | screen => rfl
  | window => rfl

theorem Spelling.text_canonical (k : SourceKind) (id window : Int) :
    (canonical k id window).text = (k.make id window).toText := by
  have hcolon : ":".toList = [':'] := rfl
  rw [SourceKind.toText_make, ← String.toList_inj, String.toList_intercalate, text,
    String.toList_ofList]
  simp only [numbers, numerals, canonical, Option.toList_some, List.map_cons, List.map_nil,
    Numeral.chars_ofInt, Decimal.ofInt, String.toList_ofList, hcolon]

theorem exists_make {d : DesktopId} (h : d.isNone = false) :
    ∃ k : SourceKind, d = k.make d.sourceId d.windowId := by
  cases d with
  | none => cases h
  | screen id w => exact ⟨.screen, rfl⟩
  | window id w => exact ⟨.window, rfl⟩

end CaptureArbiter.DesktopId
