import CaptureArbiter.Proofs.Decimals
import CaptureArbiter.Proofs.Written
import CaptureArbiter.Request
import Mathlib.Data.List.Forall2

/-!
# Spelled requests

A request is read back from whatever mapping spells it. Ids are spelled as integers or in decimal
notation, with a sign and white space around it; the names of enumerations are spelled in either
case, with hyphens for underscores and blanks around them. A text that is no spelling of a name is
refused.
-/

namespace CaptureArbiter

namespace IntegerText

/-- The text is the decimal notation of the number, perhaps after a sign and between white space. -/
inductive Spells : Int → String → Prop
  | mk {front back : List Char} (sign : Sign) {n : Nat} (hshort : n < Nat.pow 10 digitLimit)
      (hfront : front.all isWhiteSpace = true) (hback : back.all isWhiteSpace = true) :
      Spells (sign.apply n)
        (String.ofList (front ++ (sign.chars ++ Decimal.natChars n ++ back)))

theorem readInteger_of_spells {n : Int} {s : String} (h : Spells n s) :
    Value.readInteger 10 s = .ok n := by
  obtain @⟨front, back, sign, m, hshort, hfront, hback⟩ := h
  have hlength := Decimal.length_natChars_le (by decide : 0 < digitLimit) hshort
  have hread := readChars_padded sign (List.all_eq_true.mp hfront) (List.all_eq_true.mp hback)
    (Decimal.isDigit_natChars m) (Decimal.natChars_ne_nil m)
  rw [if_neg (Nat.not_lt.mpr hlength), Decimal.valueOfDigits_natChars] at hread
  rw [Value.readInteger, read, String.toList_ofList, hread, Value.orFailure]

end IntegerText

theorem Text.trimWhere_padded {p : Char → Bool} {front cs back : List Char}
    (hfront : ∀ c ∈ front, p c = true) (hback : ∀ c ∈ back, p c = true)
    (hcs : ∀ c ∈ cs, p c = false) (hne : cs ≠ []) : trimWhere p (front ++ (cs ++ back)) = cs := by
  have hhead : ∀ c ∈ (cs ++ back).head?, p c = false := by
    rw [List.head?_append_of_ne_nil _ hne]
    exact fun c hc => hcs c (List.mem_of_mem_head? hc)
  have hback' : ∀ c ∈ back.reverse, p c = true := fun c hc => hback c (List.mem_reverse.mp hc)
  have hlast : ∀ c ∈ cs.reverse.head?, p c = false := fun c hc =>
    hcs c (List.mem_reverse.mp (List.mem_of_mem_head? hc))
  rw [trimWhere, dropWhile_front hfront hhead, dropTrailing, List.reverse_append,
    dropWhile_front hback' hlast, List.reverse_reverse]

namespace Request

def nameLetters : List Char := "ABCDEFGHIJKLMNOPQRSTUVWXYZ_".toList

def letterSpellings (l : Char) : List Char := if l == '_' then ['_', '-'] else [l, l.toLower]

/-- The text is the name between blanks, each letter in either case and each separator in either
form. -/
inductive SpellsName (name : String) : String → Prop
  | mk {front cs back : List Char} (hfront : front.all Text.isBlank = true)
      (hback : back.all Text.isBlank = true)
      (hletters : List.Forall₂ (fun c l => c ∈ letterSpellings l) cs name.toList) :
      SpellsName name (String.ofList (front ++ (cs ++ back)))

def isPlainName (name : String) : Bool :=
  !name.toList.isEmpty && name.toList.all fun l => nameLetters.contains l

theorem read_letterSpellings {l c : Char} (hl : l ∈ nameLetters) (hc : c ∈ letterSpellings l) :
    Text.isBlank c = false ∧
      (Text.upperChar c).map (fun c => if c == '-' then '_' else c) = [l] := by
  have hall : (nameLetters.all fun l => (letterSpellings l).all fun c =>
      !Text.isBlank c &&
        (Text.upperChar c).map (fun c => if c == '-' then '_' else c) == [l]) = true := by
    decide +kernel
  have hread := List.all_eq_true.mp (List.all_eq_true.mp hall l hl) c hc
  simpa using hread

theorem map_upper_of_letters {cs ls : List Char}
    (hletters : List.Forall₂ (fun c l => c ∈ letterSpellings l) cs ls)
    (hplain : ∀ l ∈ ls, l ∈ nameLetters) :
    (∀ c ∈ cs, Text.isBlank c = false) ∧
      (cs.flatMap Text.upperChar).map (fun c => if c == '-' then '_' else c) = ls := by
  induction hletters with
  | nil => exact ⟨nofun, rfl⟩
  | cons hc hletters ih =>
    obtain ⟨hblank, hupper⟩ := read_letterSpellings (hplain _ (List.mem_cons_self ..)) hc
    obtain ⟨hblanks, huppers⟩ := ih fun l hl => hplain l (List.mem_cons_of_mem _ hl)
    refine ⟨List.forall_mem_cons.mpr ⟨hblank, hblanks⟩, ?_⟩
    rw [List.flatMap_cons, List.map_append, hupper, huppers, List.singleton_append]

theorem canonicalName_of_spells {name s : String} (hname : isPlainName name = true)
    (h : SpellsName name s) : canonicalName s = name := by
  simp only [isPlainName, Bool.and_eq_true, Bool.not_eq_true', List.isEmpty_eq_false_iff,
    List.all_eq_true, List.contains_iff_mem] at hname
  obtain @⟨front, cs, back, hfront, hback, hletters⟩ := h
  obtain ⟨hblank, hupper⟩ := map_upper_of_letters hletters hname.2
  have hne : cs ≠ [] := by
    rintro rfl
    exact hname.1 (List.forall₂_nil_left_iff.mp hletters)
  rw [canonicalName, Text.trim, String.toList_ofList,
    Text.trimWhere_padded (List.all_eq_true.mp hfront) (List.all_eq_true.mp hback) hblank hne,
    Text.upper, String.toList_ofList, String.toList_ofList, hupper, String.ofList_toList]

theorem canonicalName_empty : canonicalName "" = "" := by
  simp [canonicalName, Text.trim_empty, Text.upper_empty]

/-- The names of an enumeration are plain and tell its members apart. -/
structure HasPlainNames (α : Type) [Named α] : Prop where
  isPlainName : ∀ a : α, isPlainName (Named.name a) = true
  ofName?_name : ∀ a : α, Named.ofName? (Named.name a) = some a

theorem hasPlainNames_streamKind : HasPlainNames StreamKind where
  isPlainName k := by cases k <;> decide +kernel
  ofName?_name := StreamKind.ofName?_name

theorem hasPlainNames_requestKind : HasPlainNames RequestKind where
  isPlainName k := by cases k <;> decide +kernel
  ofName?_name := RequestKind.ofName?_name

section Members

variable {α : Type} [Named α] {missing a : α} {field s : String} {v : Value}

/-- The value stands for the member: it spells its name, or is nothing and the member is the one
that stands for nothing. -/
inductive SpellsMember (missing a : α) : Value → Prop
  | name {s : String} (h : SpellsName (Named.name a) s) : SpellsMember missing a (.text s)
  | null (h : a = missing) : SpellsMember missing a .null
  | empty (h : a = missing) : SpellsMember missing a (.text "")

theorem readMember_text (hs : s ≠ "") :
    readMember missing field (.text s) =
      match Named.ofName? (canonicalName s) with
      | some a => .ok a
      | none =>
        .error (.unknownChoice field (.text s) ((Named.members : List α).map Named.name)) := by
  unfold readMember
  split
  · next heq => cases heq
  · next heq => exact absurd (Value.text.inj heq) hs
  · rw [Value.toText_text, bind_ok rfl]
    cases (Named.ofName? (canonicalName s) : Option α) <;> rfl

theorem readMember_of_spells (hα : HasPlainNames α) (h : SpellsMember missing a v) :
    readMember missing field v = .ok a := by
  cases h with
  | @name s h =>
    have hcanonical := canonicalName_of_spells (hα.isPlainName a) h
    have hs : s ≠ "" := by
      rintro rfl
      have hplain := hα.isPlainName a
      rw [← hcanonical, canonicalName_empty] at hplain
      cases hplain
    rw [readMember_text hs, hcanonical, hα.ofName?_name]
  | null h => rw [h, readMember_null]
  | empty h =>
    rw [h]
    rfl

theorem readMember_of_no_name (missing : α) (field : String) (hs : s ≠ "")
    (hname : canonicalName s ∉ (Named.members : List α).map Named.name) :
    readMember missing field (.text s) =
      .error (.unknownChoice field (.text s) ((Named.members : List α).map Named.name)) := by
  have hnone : (Named.ofName? (canonicalName s) : Option α) = none := by
    refine List.find?_eq_none.mpr fun a ha heq => hname ?_
    exact List.mem_map.mpr ⟨a, ha, beq_iff_eq.mp heq⟩
  rw [readMember_text hs, hnone]

end Members

/-- The value of an id field, if there is one, stands for the integer. -/
inductive SpellsId (n : Int) : Option Value → Prop
  | int : SpellsId n (some (.int n))
  | text {s : String} (h : IntegerText.Spells n s) : SpellsId n (some (.text s))
  | missing (h : n = 0) : SpellsId n none

inductive SpellsText (t : String) : Value → Prop
  | text : SpellsText t (.text t)
  | null (h : t = "") : SpellsText t .null

/-- The fields spell the request, each by itself and in any order. -/
structure IsSpelledBy (r : Request) (fields : List (Value × Value)) : Prop where
  processId : SpellsId r.processId (Value.lookup? fields "render_process_id")
  frameId : SpellsId r.frameId (Value.lookup? fields "render_frame_id")
  audio : SpellsMember .noService r.audio (Value.entryOrNull fields "audio_type")
  video : SpellsMember .noService r.video (Value.entryOrNull fields "video_type")
  kind : SpellsMember .generateStream r.kind (Value.entryOrNull fields "request_type")
  audioDeviceId : SpellsText r.audioDeviceId (Value.entryOrNull fields "requested_audio_device_id")
  videoDeviceId : SpellsText r.videoDeviceId (Value.entryOrNull fields "requested_video_device_id")
  securityOrigin : SpellsText r.securityOrigin (Value.entryOrNull fields "security_origin")

variable {fields : List (Value × Value)} {r : Request} {s : String} {v : Value}

theorem toInt_of_spells {n : Int} {v : Option Value} (h : SpellsId n v) :
    (v.getD (.int 0)).toInt = .ok n := by
  cases h with
  | int => rfl
  | text h => exact IntegerText.readInteger_of_spells h
  | missing h =>
    rw [h]
    rfl

theorem toTextOrEmpty_of_spells {t : String} (h : SpellsText t v) : v.toTextOrEmpty = .ok t := by
  cases h with
  | text => exact Value.toTextOrEmpty_text t
  | null h =>
    rw [h]
    rfl

/-- The kind of a request is read like the other members, but every value that counts as false
stands for the default. -/
def readKind (v : Value) : Except Failure RequestKind :=
  if v.isTruthy then readMember .generateStream "request_type" v else .ok .generateStream

theorem readKind_text :
    readKind (.text s) = readMember .generateStream "request_type" (.text s) := by
  by_cases hs : s = ""
  · rw [hs]
    rfl
  · have htruthy : (Value.text s).isTruthy = true := bne_iff_ne.mpr hs
    rw [readKind, if_pos htruthy]

theorem readKind_of_spells {k : RequestKind} (h : SpellsMember .generateStream k v) :
    readKind v = .ok k := by
  cases h with
  | @name s h =>
    rw [readKind_text]
    exact readMember_of_spells hasPlainNames_requestKind (.name h)
  | null h =>
    rw [h]
    rfl
  | empty h =>
    rw [h]
    rfl

theorem ofMapping_eq (fields : List (Value × Value)) :
    ofMapping fields = do
      let processId ← ((Value.lookup? fields "render_process_id").getD (.int 0)).toInt
      let frameId ← ((Value.lookup? fields "render_frame_id").getD (.int 0)).toInt
      let audio ← readMember .noService "audio_type" (Value.entryOrNull fields "audio_type")
      let video ← readMember .noService "video_type" (Value.entryOrNull fields "video_type")
      let kind ← readKind (Value.entryOrNull fields "request_type")
      let audioDeviceId ← (Value.entryOrNull fields "requested_audio_device_id").toTextOrEmpty
      let videoDeviceId ← (Value.entryOrNull fields "requested_video_device_id").toTextOrEmpty
      let securityOrigin ← (Value.entryOrNull fields "security_origin").toTextOrEmpty
      return ⟨processId, frameId, audio, video, kind, audioDeviceId, videoDeviceId,
        securityOrigin⟩ := by
  by_cases hkind : (Value.entryOrNull fields "request_type").isTruthy = true
  · simp only [ofMapping, readKind, hkind, if_true]
  · simp only [ofMapping, readKind, hkind]
    rfl

/-- Every spelling of a request is read as the request. -/
theorem ofMapping_of_isSpelledBy (h : r.IsSpelledBy fields) : ofMapping fields = .ok r := by
  rw [ofMapping_eq, bind_ok (toInt_of_spells h.processId), bind_ok (toInt_of_spells h.frameId),
    bind_ok (readMember_of_spells hasPlainNames_streamKind h.audio),
    bind_ok (readMember_of_spells hasPlainNames_streamKind h.video),
    bind_ok (readKind_of_spells h.kind), bind_ok (toTextOrEmpty_of_spells h.audioDeviceId),
    bind_ok (toTextOrEmpty_of_spells h.videoDeviceId),
    bind_ok (toTextOrEmpty_of_spells h.securityOrigin)]
  rfl

inductive ChoiceField where
  | audio
  | video
  | kind

def ChoiceField.name : ChoiceField → String
  | audio => "audio_type"
  | video => "video_type"
  | kind => "request_type"

def ChoiceField.choices : ChoiceField → List String
  | audio | video => (Named.members : List StreamKind).map Named.name
  | kind => (Named.members : List RequestKind).map Named.name

/-- A text that is no spelling of a name is refused in the place of any name. -/
theorem ofMapping_of_no_name (h : r.IsSpelledBy fields) (field : ChoiceField) (hs : s ≠ "")
    (hname : canonicalName s ∉ field.choices) :
    ofMapping (Value.putEntry fields (.text field.name) (.text s)) =
      .error (.unknownChoice field.name (.text s) field.choices) := by
  have hprocess := toInt_of_spells h.processId
  have hframe := toInt_of_spells h.frameId
  rw [ofMapping_eq]
  -- the fields in front of the replaced one are read as before, and the first fault is reported
  cases field <;>
    simp only [ChoiceField.name, Value.lookup?_putEntry, Value.entryOrNull_putEntry,
      String.reduceEq, if_false, if_true, bind_ok hprocess, bind_ok hframe]
  case audio =>
    rw [readMember_of_no_name _ _ hs hname]
    rfl
  case video =>
    rw [bind_ok (readMember_of_spells hasPlainNames_streamKind h.audio),
      readMember_of_no_name _ _ hs hname]
    rfl
  case kind =>
    rw [bind_ok (readMember_of_spells hasPlainNames_streamKind h.audio),
      bind_ok (readMember_of_spells hasPlainNames_streamKind h.video), readKind_text,
      readMember_of_no_name _ _ hs hname]
    rfl

end Request

open Request in
/-- Whatever mapping spells a request is read as this request. If one of its names is replaced by a
text that is not empty and that trimming, raising and replacing hyphens do not turn into a name of
the enumeration, then the reading fails for a bad value, with the field and the names to choose
from. -/
theorem requests_read_as_spelled (r : Request) (fields : List (Value × Value))
    (h : r.IsSpelledBy fields) :
    ofMapping fields = .ok r ∧
      ∀ (field : ChoiceField) (s : String), s ≠ "" → canonicalName s ∉ field.choices →
        ∃ e : Failure, e = .unknownChoice field.name (.text s) field.choices ∧ e.kind = .badValue ∧
          ofMapping (Value.putEntry fields (.text field.name) (.text s)) = .error e :=
  ⟨ofMapping_of_isSpelledBy h, fun field _ hs hname =>
    ⟨_, rfl, rfl, ofMapping_of_no_name h field hs hname⟩⟩

open Request in
/-- A request in a mixed spelling, and a name with a blank for a separator. -/
theorem requests_read_as_spelled_mixed :
    let fields := [(.text "security_origin", .text "https://a"),
      (.text "video_type", .text "\tgum-Desktop_video-CAPTURE \n"),
      (.text "render_process_id", .text "\u3000-70 "), (.text "render_frame_id", .int 3),
      (.text "request_type", .text "open-device_pepper-only")]
    let r : Request := ⟨-70, 3, .noService, .desktopVideo, .openPepper, "", "", "https://a"⟩
    r.IsSpelledBy fields ∧ ofMapping fields = .ok r ∧
      ∃ e, ofMapping (Value.putEntry fields (.text "audio_type") (.text "no service")) = .error e ∧
        e.kind = .badValue := by
  intro fields r
  have hdigits : Decimal.natChars 70 = ['7', '0'] := by
    simp [Decimal.natChars]
    decide
  have hshort : 70 < Nat.pow 10 IntegerText.digitLimit :=
    Nat.lt_of_lt_of_le (by decide : 70 < Nat.pow 10 2) (Decimal.pow_le_pow (by decide))
  have hid : IntegerText.Spells (-70) "\u3000-70 " := by
    have hmk := @IntegerText.Spells.mk ['\u3000'] [' '] .minus 70 hshort rfl rfl
    rw [hdigits] at hmk
    exact hmk
  have hvideo : SpellsName "GUM_DESKTOP_VIDEO_CAPTURE" "\tgum-Desktop_video-CAPTURE \n" :=
    @SpellsName.mk _ ['\t'] "gum-Desktop_video-CAPTURE".toList [' ', '\n'] rfl rfl
      (by decide +kernel)
  have hkind : SpellsName "OPEN_DEVICE_PEPPER_ONLY" "open-device_pepper-only" :=
    @SpellsName.mk _ [] "open-device_pepper-only".toList [] rfl rfl (by decide +kernel)
  have hspelled : r.IsSpelledBy fields := {
    processId := .text hid
    frameId := .int
    audio := .null rfl
    video := .name hvideo
    kind := .name hkind
    audioDeviceId := .null rfl
    videoDeviceId := .null rfl
    securityOrigin := .text }
  obtain ⟨hread, hrefused⟩ := requests_read_as_spelled r fields hspelled
  obtain ⟨e, _, hkind, hfails⟩ := hrefused .audio "no service" (by decide) (by decide +kernel)
  exact ⟨hspelled, hread, e, hfails, hkind⟩

end CaptureArbiter
