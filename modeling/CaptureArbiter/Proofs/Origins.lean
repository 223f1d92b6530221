import CaptureArbiter.Proofs.LowerCase
import CaptureArbiter.Proofs.Verdict
import Mathlib.Data.List.DropRight

/-!
# Origins and their normal form

The form in which origins are compared is its own normal form, except where a blank stands in front
of the slashes that end the origin: blanks are trimmed before slashes are, so that this blank is
left at the end and trimmed only when the form is taken again. Every other origin may be exchanged
for its normal form, among those blocked and in a request.
-/

namespace CaptureArbiter

namespace Text

variable {p : Char → Bool} {before cs tail : List Char} {c : Char}

theorem dropTrailing_append (h : ∀ c ∈ tail, p c = true) :
    dropTrailing p (cs ++ tail) = dropTrailing p cs := by
  induction tail generalizing cs with
  | nil => rw [List.append_nil]
  | cons d tail ih =>
    have hd : p d = true := h d (by simp)
    have htail : ∀ c ∈ tail, p c = true := fun c hc => h c (List.mem_cons_of_mem d hc)
    calc dropTrailing p (cs ++ d :: tail)
      _ = dropTrailing p ((cs ++ [d]) ++ tail) := by rw [List.append_assoc, List.singleton_append]
      _ = dropTrailing p (cs ++ [d]) := ih htail
      _ = dropTrailing p cs := List.rdropWhile_concat_pos p cs d hd

theorem dropTrailing_concat (h : p c = false) : dropTrailing p (cs ++ [c]) = cs ++ [c] :=
  List.rdropWhile_concat_neg p cs c (by simp [h])

theorem dropTrailing_isPrefix (p : Char → Bool) (cs : List Char) : dropTrailing p cs <+: cs :=
  List.rdropWhile_prefix p cs

theorem dropTrailing_split (p : Char → Bool) (cs : List Char) :
    ∃ tail, cs = dropTrailing p cs ++ tail ∧ ∀ c ∈ tail, p c = true :=
  ⟨cs.rtakeWhile p, List.rdropWhile_append_rtakeWhile.symm, fun _ => List.mem_rtakeWhile_imp⟩

theorem not_of_dropTrailing_eq {front : List Char} (h : dropTrailing p cs = front ++ [c]) :
    p c = false := by
  have hne : cs.rdropWhile p ≠ [] := by
    show dropTrailing p cs ≠ []
    simp [h]
  have hlast : ¬p ((cs.rdropWhile p).getLast hne) = true := List.rdropWhile_last_not p cs hne
  have hc : (cs.rdropWhile p).getLast hne = c := by
    simp [show cs.rdropWhile p = front ++ [c] from h]
  rw [hc] at hlast
  simpa using hlast

theorem not_of_dropWhile_eq {rest : List Char} (h : cs.dropWhile p = c :: rest) : p c = false := by
  have hpos : 0 < (cs.dropWhile p).length := by simp [h]
  have hhead := List.dropWhile_get_zero_not p cs hpos
  simpa [h] using hhead

def EndsInBlank (cs : List Char) : Prop := ∃ front c, cs = front ++ [c] ∧ isBlank c = true

/-- The characters of an origin's normal form before they are lowered. -/
def strip (cs : List Char) : List Char := dropTrailing (· == '/') (trimWhere isBlank cs)

/-- No blank at the start and no slash at the end. -/
structure Stripped (cs : List Char) : Prop where
  head : ∀ c rest, cs = c :: rest → isBlank c = false
  last : ∀ front c, cs = front ++ [c] → c ≠ '/'

theorem strip_isPrefix (cs : List Char) : strip cs <+: cs.dropWhile isBlank := by
  have hslashes : strip cs <+: trimWhere isBlank cs := dropTrailing_isPrefix _ _
  have hblanks : trimWhere isBlank cs <+: cs.dropWhile isBlank := dropTrailing_isPrefix _ _
  exact hslashes.trans hblanks

theorem mem_of_mem_strip (h : c ∈ strip cs) : c ∈ cs :=
  (List.dropWhile_suffix isBlank).subset ((strip_isPrefix cs).subset h)

theorem stripped_strip (cs : List Char) : Stripped (strip cs) where
  head c rest h := by
    obtain ⟨tail, htail⟩ := strip_isPrefix cs
    rw [h, List.cons_append] at htail
    exact not_of_dropWhile_eq htail.symm
  last front c h := by
    simpa using not_of_dropTrailing_eq h

theorem Stripped.lowerFrom (h : Stripped cs) : Stripped (lowerFrom before cs) where
  head d rest hd := by
    cases cs with
    | nil => cases hd
    | cons c cs =>
      rw [isBlank_of_mem_lowerChar (mem_of_lowerFrom_cons hd)]
      exact h.head c cs rfl
  last front d hd hslash := by
    rcases List.eq_nil_or_concat cs with rfl | ⟨init, c, rfl⟩
    · simp [Text.lowerFrom] at hd
    · rw [List.concat_eq_append] at h hd
      exact h.last init c rfl (eq_slash_of_mem_lowerChar (mem_of_lowerFrom_concat hd) hslash)

theorem endsInBlank_lowerFrom : EndsInBlank (lowerFrom before cs) ↔ EndsInBlank cs := by
  rcases List.eq_nil_or_concat cs with rfl | ⟨init, c, rfl⟩
  · rfl
  rw [List.concat_eq_append]
  constructor
  · intro ⟨front, d, hd, hblank⟩
    have hc : isBlank d = isBlank c := isBlank_of_mem_lowerChar (mem_of_lowerFrom_concat hd)
    exact ⟨init, c, rfl, hc.symm.trans hblank⟩
  · intro ⟨_, c', heq, hblank⟩
    obtain ⟨rfl, rfl⟩ := List.append_singleton_inj.1 heq
    have hne : lowerFrom before (init ++ [c]) ≠ [] := lowerFrom_ne_nil (by simp)
    have hd := (List.dropLast_concat_getLast hne).symm
    have hc := isBlank_of_mem_lowerChar (mem_of_lowerFrom_concat hd)
    exact ⟨_, _, hd, hc.trans hblank⟩

theorem strip_eq_self_iff (h : Stripped cs) : strip cs = cs ↔ ¬EndsInBlank cs := by
  have hhead : cs.dropWhile isBlank = cs := by
    cases cs with
    | nil => rfl
    | cons c rest => simp [h.head c rest rfl]
  rw [strip, trimWhere, hhead]
  constructor
  · rintro hsame ⟨front, c, rfl, hblank⟩
    -- Trimmed of its last character, the text would have to be as long as before.
    have hlast : dropTrailing isBlank (front ++ [c]) = dropTrailing isBlank front :=
      dropTrailing_append (by simpa using hblank)
    have hfront : dropTrailing (· == '/') (dropTrailing isBlank front) <+: front :=
      (dropTrailing_isPrefix _ _).trans (dropTrailing_isPrefix _ _)
    rw [hlast] at hsame
    have hle := hfront.length_le
    rw [hsame, List.length_append, List.length_singleton] at hle
    omega
  · intro hends
    rcases List.eq_nil_or_concat cs with rfl | ⟨front, c, rfl⟩
    · rfl
    rw [List.concat_eq_append] at *
    have hblank : isBlank c = false := by
      rw [← Bool.not_eq_true]
      exact fun hblank => hends ⟨front, c, rfl, hblank⟩
    rw [dropTrailing_concat hblank, dropTrailing_concat (by simpa using h.last front c rfl)]

end Text

open Text

/-- A blank stands in front of the slashes that end the origin, blanks behind them not counted. -/
def BlankBeforeSlashes (o : String) : Prop :=
  ∃ front blank slashes padding, o.toList = front ++ [blank] ++ slashes ++ padding ∧
    (∃ c ∈ front, isBlank c = false) ∧ isBlank blank = true ∧
    slashes ≠ [] ∧ (∀ c ∈ slashes, c = '/') ∧ ∀ c ∈ padding, isBlank c = true

theorem toList_normalOrigin (o : String) :
    (normalOrigin o).toList = lowerFrom [] (strip o.toList) := by
  simp only [normalOrigin, lower, dropTrailingSlashes, trim, String.toList_ofList, strip]

theorem blankBeforeSlashes_of_strip {o : String} (h : EndsInBlank (strip o.toList)) :
    BlankBeforeSlashes o := by
  obtain ⟨body, blank, hbody, hblank⟩ := h
  obtain ⟨slashes, hslashes, hall⟩ := dropTrailing_split (· == '/') (trimWhere isBlank o.toList)
  obtain ⟨padding, hpadding, hpad⟩ := dropTrailing_split isBlank (o.toList.dropWhile isBlank)
  have htrimmed : trimWhere isBlank o.toList = body ++ [blank] ++ slashes := by
    rw [← hbody]
    exact hslashes
  have hdropped : o.toList.dropWhile isBlank = body ++ [blank] ++ slashes ++ padding := by
    rw [← htrimmed]
    exact hpadding
  -- The blank is neither the first nor the last of the characters that trimming left.
  have hslash : slashes ≠ [] := by
    rintro rfl
    rw [List.append_nil] at htrimmed
    rw [not_of_dropTrailing_eq htrimmed] at hblank
    cases hblank
  have hsolid : ∃ c ∈ body, isBlank c = false := by
    cases body with
    | nil =>
      rw [not_of_dropWhile_eq hdropped] at hblank
      cases hblank
    | cons c body => exact ⟨c, by simp, not_of_dropWhile_eq hdropped⟩
  obtain ⟨c, hc, hcsolid⟩ := hsolid
  refine ⟨o.toList.takeWhile isBlank ++ body, blank, slashes, padding, ?_,
    ⟨c, List.mem_append_right _ hc, hcsolid⟩, hblank, hslash, ?_, hpad⟩
  · calc o.toList
      _ = o.toList.takeWhile isBlank ++ o.toList.dropWhile isBlank := by
        rw [List.takeWhile_append_dropWhile]
      _ = o.toList.takeWhile isBlank ++ body ++ [blank] ++ slashes ++ padding := by
        rw [hdropped]
        simp only [List.append_assoc]
  · intro d hd
    simpa using hall d hd

theorem endsInBlank_of_blankBeforeSlashes {o : String} (h : BlankBeforeSlashes o) :
    EndsInBlank (strip o.toList) := by
  obtain ⟨front, blank, slashes, padding, htext, ⟨c, hc, hsolid⟩, hblank, hslash, hall, hpad⟩ := h
  have hdropped : o.toList.dropWhile isBlank =
      front.dropWhile isBlank ++ [blank] ++ slashes ++ padding := by
    have hsome : front.dropWhile isBlank ≠ [] := by
      rw [Ne, List.dropWhile_eq_nil_iff]
      intro hblanks
      rw [hblanks c hc] at hsolid
      cases hsolid
    rw [htext]
    simp only [List.append_assoc, List.dropWhile_append, List.isEmpty_iff, hsome, if_false]
  have htrimmed : trimWhere isBlank o.toList = front.dropWhile isBlank ++ [blank] ++ slashes := by
    obtain ⟨init, last, hlast⟩ := (List.eq_nil_or_concat slashes).resolve_left hslash
    rw [List.concat_eq_append] at hlast
    have hsolid : isBlank last = false := by
      rw [hall last (by simp [hlast])]
      decide
    rw [trimWhere, hdropped, dropTrailing_append hpad, hlast, ← List.append_assoc,
      dropTrailing_concat hsolid]
  have hstripped : strip o.toList = front.dropWhile isBlank ++ [blank] := by
    have hne : (blank == '/') = false := by
      rw [beq_eq_false_iff_ne]
      rintro rfl
      exact absurd hblank (by decide)
    rw [strip, htrimmed, dropTrailing_append (by simpa using hall),
      dropTrailing_concat (p := (· == '/')) hne]
  exact ⟨_, blank, hstripped, hblank⟩

theorem normalOrigin_normalOrigin_iff (o : String) :
    normalOrigin (normalOrigin o) = normalOrigin o ↔ ¬BlankBeforeSlashes o := by
  have hstripped : Stripped (lowerFrom [] (strip o.toList)) := (stripped_strip o.toList).lowerFrom
  have hlowered : ∀ c ∈ strip (lowerFrom [] (strip o.toList)), IsLowered c := by
    intro c hc
    exact isLowered_of_mem_lowerFrom (mem_of_mem_strip hc)
  rw [← String.toList_inj, toList_normalOrigin, toList_normalOrigin,
    lowerFrom_of_isLowered hlowered, strip_eq_self_iff hstripped, endsInBlank_lowerFrom]
  exact not_congr ⟨blankBeforeSlashes_of_strip, endsInBlank_of_blankBeforeSlashes⟩

/-- The origin itself, or its normal form if that is its own normal form. -/
def NormalSpelling (o o' : String) : Prop := o' = o ∨ ¬BlankBeforeSlashes o ∧ o' = normalOrigin o

namespace Consent

variable {origins origins' : List String} {o o' : String}

theorem normalOrigin_eq_of_spelling (h : NormalSpelling o o') :
    normalOrigin o' = normalOrigin o := by
  rcases h with rfl | ⟨hstable, rfl⟩
  · rfl
  · exact (normalOrigin_normalOrigin_iff o).2 hstable

theorem ofBlockedOrigins_eq_of_spelling (h : List.Forall₂ NormalSpelling origins origins') :
    ofBlockedOrigins origins' = ofBlockedOrigins origins := by
  have hmap : origins'.map normalOrigin = origins.map normalOrigin := by
    induction h with
    | nil => rfl
    | cons hhead _ ih => rw [List.map_cons, List.map_cons, normalOrigin_eq_of_spelling hhead, ih]
  rw [ofBlockedOrigins, hmap, ofBlockedOrigins]

theorem offer_ofBlockedOrigins_congr (origins : List String) {r r' : Request}
    (h : normalOrigin r'.securityOrigin = normalOrigin r.securityOrigin) (callback : Nat) :
    (ofBlockedOrigins origins).offer r' callback = (ofBlockedOrigins origins).offer r callback := by
  simp only [ofBlockedOrigins, offer, h]

theorem configuredWith_ofBlockedOrigins (origins : List String) :
    (ofBlockedOrigins origins).ConfiguredWith origins := rfl

theorem idle_ofBlockedOrigins (origins : List String) : (ofBlockedOrigins origins).Idle := by
  intro script h
  cases h

theorem isBlocked_of_mem (hmem : normalOrigin o ∈ origins) (hne : normalOrigin o ≠ "")
    (hstable : ¬BlankBeforeSlashes o) : isBlocked origins o = true := by
  have hform : normalOrigin o ∈ origins.map normalOrigin := by
    rw [← (normalOrigin_normalOrigin_iff o).2 hstable]
    exact List.mem_map_of_mem hmem
  simp only [isBlocked, bne_iff_ne, Bool.and_eq_true, List.contains_iff_mem]
  exact ⟨hne, hform⟩

theorem not_isBlocked_of_blankBeforeSlashes (h : BlankBeforeSlashes o) :
    isBlocked [normalOrigin o] o = false := by
  have hother : normalOrigin o ≠ normalOrigin (normalOrigin o) := fun hsame =>
    (normalOrigin_normalOrigin_iff o).1 hsame.symm h
  simp only [isBlocked, List.map_cons, List.map_nil, List.contains_cons, List.contains_nil,
    Bool.or_false, beq_eq_false_iff_ne.2 hother, Bool.and_false]

end Consent

/-- A policy decides alike on origins and their normal forms, and one that blocks the normal form of
an origin denies that origin, just if the origin does not end in slashes behind a blank. -/
theorem normal_forms_blocked_alike (callback : Nat) (d : Desk) :
    (∀ o, normalOrigin (normalOrigin o) = normalOrigin o ↔ ¬BlankBeforeSlashes o) ∧
      (∀ origins origins' (r : Request) origin',
        List.Forall₂ NormalSpelling origins origins' → NormalSpelling r.securityOrigin origin' →
        (Consent.ofBlockedOrigins origins').offer { r with securityOrigin := origin' } callback =
          (Consent.ofBlockedOrigins origins).offer r callback) ∧
      (∀ origins (r : Request), normalOrigin r.securityOrigin ∈ origins →
        normalOrigin r.securityOrigin ≠ "" → ¬BlankBeforeSlashes r.securityOrigin →
        ((Consent.ofBlockedOrigins origins).offer r callback).run d =
          let note := Consent.deniedNote (normalOrigin r.securityOrigin)
          let y := (Desk.runCallback callback [] (.ofOutcome .permissionDenied)).run
            (d.noted [note])
          (y.1.map fun _ => .bool true, y.2)) ∧
      ∀ r : Request, BlankBeforeSlashes r.securityOrigin →
        ((Consent.ofBlockedOrigins [normalOrigin r.securityOrigin]).offer r callback).run d =
          (.ok (.bool false), d) := by
  refine ⟨normalOrigin_normalOrigin_iff, ?_, ?_, ?_⟩
  · intro origins origins' r origin' hlist horigin
    rw [Consent.ofBlockedOrigins_eq_of_spelling hlist]
    exact Consent.offer_ofBlockedOrigins_congr origins
      (Consent.normalOrigin_eq_of_spelling horigin) callback
  · intro origins r hmem hne hstable
    exact Consent.run_offer_blocked (Consent.configuredWith_ofBlockedOrigins origins)
      (Consent.isBlocked_of_mem hmem hne hstable) callback d
  · intro r hblank
    exact Consent.run_offer_declined (Consent.configuredWith_ofBlockedOrigins _)
      (Consent.idle_ofBlockedOrigins _) (Consent.not_isBlocked_of_blankBeforeSlashes hblank)
      callback d

theorem normal_forms_blocked_alike_padded :
    let desk : Desk := { callbacks := [{}] }
    let offered := fun blocked origin =>
      (Consent.ofBlockedOrigins [blocked]).offer { securityOrigin := origin } 0
    offered "https://ads.test" "https://ads.test" =
        offered "\tHTTPS://Ads.test/ " " https://ADS.test//" ∧
      ((offered "https://ads.test" " https://ADS.test//").run desk).2.deliveries =
        [⟨0, none, [], .permissionDenied⟩] ∧
      (offered "https://ads.test " "https://ads.test /").run desk = (.ok (.bool false), desk) := by
  obtain ⟨hstable, halike, hdenied, hmissed⟩ := normal_forms_blocked_alike 0 { callbacks := [{}] }
  have hentry : ¬BlankBeforeSlashes "\tHTTPS://Ads.test/ " := (hstable _).1 (by decide +kernel)
  have horigin : ¬BlankBeforeSlashes " https://ADS.test//" := (hstable _).1 (by decide +kernel)
  have hescape : BlankBeforeSlashes "https://ads.test /" :=
    ⟨"https://ads.test".toList, ' ', ['/'], [], by decide +kernel, ⟨'h', by decide +kernel, rfl⟩,
      rfl, by simp, by simp, by simp⟩
  refine ⟨?_, ?_, ?_⟩
  · exact halike _ _ { securityOrigin := " https://ADS.test//" } _
      (.cons (.inr ⟨hentry, by decide +kernel⟩) .nil) (.inr ⟨horigin, by decide +kernel⟩)
  · rw [hdenied ["https://ads.test"] { securityOrigin := " https://ADS.test//" } (by decide +kernel)
      (by decide +kernel) horigin]
    decide +kernel
  · have hform : normalOrigin "https://ads.test /" = "https://ads.test " := by decide +kernel
    rw [← hform]
    exact hmissed { securityOrigin := "https://ads.test /" } hescape

/-- A policy that blocks the normal form of an origin denies the normal form, but not the origin. -/
theorem blank_before_slash_escapes :
    let o := "https://ads.test /"
    let offered := fun origin => ((Consent.ofBlockedOrigins [normalOrigin o]).offer
      { securityOrigin := origin } 0).run { callbacks := [{}] }
    normalOrigin o = "https://ads.test " ∧ normalOrigin (normalOrigin o) = "https://ads.test" ∧
      (offered o).1.toOption.map Value.isTruthy = some false ∧ (offered o).2.deliveries = [] ∧
      (offered (normalOrigin o)).1.toOption.map Value.isTruthy = some true ∧
      (offered (normalOrigin o)).2.deliveries = [⟨0, none, [], .permissionDenied⟩] := by
  decide +kernel

end CaptureArbiter
