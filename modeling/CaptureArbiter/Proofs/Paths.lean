import CaptureArbiter.Path.Folder
import Mathlib.Data.List.DropRight
import Mathlib.Data.List.Infix
import Mathlib.Data.List.Nodup

/-!
# Paths into a directory

The paths that match a pattern of names in a directory, where the way to the directory is plain:
they lead to the entries of this directory whose names match, each of them once.
-/

namespace CaptureArbiter

namespace Text

theorem splitAt_append_cons (separator : Char) (front rest : List Char) :
    splitAt separator (front ++ separator :: rest) =
      splitAt separator front ++ splitAt separator rest := by
  induction front with
  | nil => simp [splitAt]
  | cons c cs ih =>
    rw [List.cons_append, splitAt, splitAt, ih]
    split
    · rfl
    · cases h : splitAt separator cs with
      | nil => exact absurd h (splitAt_ne_nil separator cs)
      | cons part parts => rfl

theorem not_mem_of_mem_splitAt {separator : Char} {cs part : List Char}
    (h : part ∈ splitAt separator cs) : separator ∉ part := by
  induction cs generalizing part with
  | nil =>
    rw [splitAt, List.mem_singleton] at h
    rw [h]
    exact List.not_mem_nil
  | cons c cs ih =>
    rw [splitAt] at h
    split at h
    · rcases List.mem_cons.mp h with rfl | h
      · exact List.not_mem_nil
      · exact ih h
    · rename_i hc
      cases hcs : splitAt separator cs with
      | nil => exact absurd hcs (splitAt_ne_nil separator cs)
      | cons first parts =>
        rw [hcs] at h ih
        rcases List.mem_cons.mp h with rfl | h
        · have hne : separator ≠ c := fun heq => hc (beq_iff_eq.mpr heq.symm)
          exact List.not_mem_cons_of_ne_of_not_mem hne (ih (List.mem_cons_self ..))
        · exact ih (List.mem_cons_of_mem _ h)

end Text

namespace Path

namespace Pattern

variable {ps : List Piece} {front back name pattern : List Char}

theorem accepts_literals :
    accepts (front.map .literal ++ ps) name = true ↔
      ∃ rest, name = front ++ rest ∧ accepts ps rest = true := by
  induction front generalizing name with
  | nil => simp
  | cons c cs ih =>
    cases name with
    | nil => simp [accepts]
    | cons d ds =>
      simp only [List.map_cons, List.cons_append, accepts, Bool.and_eq_true, beq_iff_eq, ih,
        List.cons.injEq]
      constructor
      · rintro ⟨rfl, rest, rfl, h⟩
        exact ⟨rest, ⟨rfl, rfl⟩, h⟩
      · rintro ⟨rest, ⟨rfl, rfl⟩, h⟩
        exact ⟨rfl, rest, rfl, h⟩

theorem ends_eq_tails (cs : List Char) : ends cs = cs.tails := by
  induction cs with
  | nil => rfl
  | cons c cs ih => rw [ends, ih, List.tails_cons]

theorem accepts_anyMany :
    accepts (.anyMany :: ps) name = true ↔
      ∃ middle rest, name = middle ++ rest ∧ accepts ps rest = true := by
  rw [accepts, List.any_eq_true]
  simp only [ends_eq_tails, List.mem_tails]
  constructor
  · rintro ⟨rest, ⟨middle, rfl⟩, h⟩
    exact ⟨middle, rest, rfl, h⟩
  · rintro ⟨middle, rest, rfl, h⟩
    exact ⟨rest, ⟨middle, rfl⟩, h⟩

/-- One star in a pattern stands for whatever is between the texts around it. -/
theorem accepts_star_iff :
    accepts (front.map .literal ++ .anyMany :: back.map .literal) name = true ↔
      ∃ middle, name = front ++ middle ++ back := by
  have hback : ∀ cs, accepts (back.map .literal) cs = true ↔ cs = back := by
    intro cs
    rw [← List.append_nil (back.map _), accepts_literals]
    simp [accepts_nil]
  simp only [accepts_literals, accepts_anyMany, hback]
  constructor
  · rintro ⟨_, rfl, middle, _, rfl, rfl⟩
    exact ⟨middle, (List.append_assoc ..).symm⟩
  · rintro ⟨middle, rfl⟩
    exact ⟨middle ++ back, List.append_assoc .., middle, back, rfl, rfl⟩

end Pattern

variable {directory base path : List Char} {name : String}

theorem namesOf_append_slash (front rest : List Char) :
    namesOf (front ++ '/' :: rest) = namesOf front ++ namesOf rest := by
  rw [namesOf, Text.splitAt_append_cons, List.map_append, List.filter_append]
  rfl

theorem namesOf_concat_slash (front : List Char) : namesOf (front ++ ['/']) = namesOf front := by
  rw [namesOf_append_slash]
  exact List.append_nil _

theorem slash_not_mem_of_mem_namesOf (h : name ∈ namesOf path) : '/' ∉ name.toList := by
  obtain ⟨part, hpart, rfl⟩ := List.mem_map.mp (List.mem_filter.mp h).1
  rw [String.toList_ofList]
  exact Text.not_mem_of_mem_splitAt hpart

/-- A name that leads to an entry of a directory. -/
structure IsEntryName (name : String) : Prop where
  slash : '/' ∉ name.toList
  empty : name ≠ ""
  dot : name ≠ "."
  dots : name ≠ ".."

theorem IsEntryName.namesOf_eq (h : IsEntryName name) : namesOf name.toList = [name] := by
  rw [namesOf, Text.splitAt_of_not_mem h.slash]
  simp [h.empty, h.dot]

/-- A path without the slashes at its end, unless there is nothing else. -/
def trimmed (path : List Char) : List Char :=
  let front := path.rdropWhile (· == '/')
  if front.isEmpty then path else front

theorem trimmed_eq (path : List Char) :
    trimmed path = path ∧ (∀ c ∈ path, c = '/') ∨
      trimmed path = path.rdropWhile (· == '/') ∧ trimmed path ≠ [] := by
  unfold trimmed
  by_cases hempty : path.rdropWhile (· == '/') = []
  · have hslashes := List.rdropWhile_eq_nil_iff.mp hempty
    exact .inl ⟨by simp [hempty], fun c hc => beq_iff_eq.mp (hslashes c hc)⟩
  · exact .inr (by simp [hempty])

theorem namesOf_rdropWhile (path : List Char) :
    namesOf (path.rdropWhile (· == '/')) = namesOf path := by
  -- from the end of the path, where the slashes are dropped one by one
  induction path using List.reverseRecOn with
  | nil => rfl
  | append_singleton cs c ih =>
    by_cases hc : c = '/'
    · rw [hc, List.rdropWhile_concat_pos _ _ _ rfl, ih, namesOf_concat_slash]
    · rw [List.rdropWhile_concat_neg _ _ _ (by simpa using hc)]

theorem namesOf_trimmed (path : List Char) : namesOf (trimmed path) = namesOf path := by
  rcases trimmed_eq path with ⟨htrimmed, _⟩ | ⟨htrimmed, _⟩
  · rw [htrimmed]
  · rw [htrimmed, namesOf_rdropWhile]

theorem isPrefix_trimmed (path : List Char) : trimmed path <+: path := by
  rcases trimmed_eq path with ⟨htrimmed, _⟩ | ⟨htrimmed, _⟩
  · rw [htrimmed]
  · rw [htrimmed]
    exact List.rdropWhile_prefix _ _

theorem head?_trimmed (path : List Char) : (trimmed path).head? = path.head? := by
  rcases trimmed_eq path with ⟨htrimmed, _⟩ | ⟨_, hne⟩
  · rw [htrimmed]
  · obtain ⟨rest, hrest⟩ := isPrefix_trimmed path
    exact (List.head?_append_of_ne_nil _ hne).symm.trans (congrArg List.head? hrest)

theorem trimmed_concat_slash (hne : path ≠ []) (h : path.getLast? ≠ some '/') :
    trimmed (path ++ ['/']) = trimmed path := by
  obtain ⟨cs, c, rfl⟩ := (List.eq_nil_or_concat' path).resolve_left hne
  have hc : c ≠ '/' := fun heq => h (by rw [heq, List.getLast?_concat])
  have hkept : (cs ++ [c]).rdropWhile (· == '/') = cs ++ [c] :=
    List.rdropWhile_concat_neg _ _ _ (by simpa using hc)
  have hdropped : (cs ++ [c] ++ ['/']).rdropWhile (· == '/') = cs ++ [c] :=
    (List.rdropWhile_concat_pos _ _ _ rfl).trans hkept
  simp only [trimmed, hdropped, hkept, List.isEmpty_eq_false_iff.mpr hne, Bool.false_eq_true,
    if_false]

theorem join_cases (directory base : List Char) :
    directory = [] ∧ join directory base = base ∨
      directory ≠ [] ∧ ∃ front,
        (directory = front ∧ front.getLast? ≠ some '/' ∨ directory = front ++ ['/']) ∧
          join directory base = front ++ '/' :: base := by
  by_cases hnil : directory = []
  · subst hnil
    exact .inl ⟨rfl, rfl⟩
  · refine .inr ⟨hnil, ?_⟩
    by_cases hlast : directory.getLast? = some '/'
    · obtain ⟨front, rfl⟩ := List.getLast?_eq_some_iff.mp hlast
      exact ⟨front, .inr rfl, by simp [join]⟩
    · exact ⟨directory, .inl ⟨rfl, hlast⟩, by simp [join, hnil, hlast]⟩

theorem namesOf_join (directory base : List Char) :
    namesOf (join directory base) = namesOf directory ++ namesOf base := by
  rcases join_cases directory base with ⟨rfl, hjoin⟩ | ⟨_, front, ⟨rfl, _⟩ | rfl, hjoin⟩
  · rw [hjoin]
    rfl
  · rw [hjoin, namesOf_append_slash]
  · rw [hjoin, namesOf_append_slash, namesOf_concat_slash]

theorem start_join (here : List String) (directory : List Char) (hbase : '/' ∉ base) :
    start here (join directory base) = start here directory := by
  rcases join_cases directory base with ⟨rfl, hjoin⟩ | ⟨hne, front, hfront, hjoin⟩
  · have hhead : base.head? ≠ some '/' := fun h => hbase (List.mem_of_head? h)
    simp [hjoin, start, hhead]
  · have hhead : (join directory base).head? = directory.head? := by
      rw [hjoin]
      cases front with
      | nil => rcases hfront with ⟨rfl, _⟩ | rfl <;> first | contradiction | rfl
      | cons c cs => rcases hfront with ⟨rfl, _⟩ | rfl <;> rfl
    rw [start, start, hhead]

theorem getLast?_join_ne (hne : base ≠ []) (hbase : '/' ∉ base) :
    (join directory base).getLast? ≠ some '/' := by
  have hlast : base.getLast? ≠ some '/' := fun h => hbase (List.mem_of_getLast? h)
  rcases join_cases directory base with ⟨_, hjoin⟩ | ⟨_, front, _, hjoin⟩
  · rwa [hjoin]
  · rw [hjoin, List.getLast?_append_of_ne_nil _ (List.cons_ne_nil _ _),
      List.getLast?_cons_of_ne_nil hne]
    exact hlast

theorem isPattern_join (directory base : List Char) :
    Pattern.isPattern (join directory base) =
      (Pattern.isPattern directory || Pattern.isPattern base) := by
  rcases join_cases directory base with ⟨rfl, hjoin⟩ | ⟨_, front, ⟨rfl, _⟩ | rfl, hjoin⟩ <;>
    simp [hjoin, Pattern.isPattern]

theorem isPattern_trimmed (h : Pattern.isPattern path = false) :
    Pattern.isPattern (trimmed path) = false := by
  rw [Pattern.isPattern, List.any_eq_false] at h ⊢
  exact fun c hc => h c ((isPrefix_trimmed path).subset hc)

theorem takeWhile_reverse (hbase : '/' ∉ base) (rest : List Char) :
    (base.reverse ++ rest).takeWhile (· != '/') = base.reverse ++ rest.takeWhile (· != '/') := by
  apply List.takeWhile_append_of_pos
  intro c hc
  exact bne_iff_ne.mpr fun heq => hbase (heq ▸ List.mem_reverse.mp hc)

theorem splitLast_of_not_mem (hbase : '/' ∉ base) : splitLast base = ([], base) := by
  have hlast : (base.reverse.takeWhile (· != '/')).reverse = base := by
    have hreverse := takeWhile_reverse hbase []
    rw [List.append_nil, List.takeWhile_nil, List.append_nil] at hreverse
    rw [hreverse, List.reverse_reverse]
  simp only [splitLast, hlast, Nat.sub_self, List.take_zero]
  rfl

theorem splitLast_append_slash (front : List Char) (hbase : '/' ∉ base) :
    splitLast (front ++ '/' :: base) = (trimmed (front ++ ['/']), base) := by
  have hpath : front ++ '/' :: base = (front ++ ['/']) ++ base := by simp
  have hlast : ((front ++ '/' :: base).reverse.takeWhile (· != '/')).reverse = base := by
    rw [hpath, List.reverse_append, takeWhile_reverse hbase, List.reverse_concat,
      List.takeWhile_cons_of_neg (by simp), List.append_nil, List.reverse_reverse]
  have hstart : (front ++ '/' :: base).take ((front ++ '/' :: base).length - base.length) =
      front ++ ['/'] := by
    rw [hpath, List.length_append, Nat.add_sub_cancel, List.take_left]
  simp only [splitLast, hlast, hstart]
  rfl

theorem splitLast_join (directory : List Char) (hbase : '/' ∉ base) :
    splitLast (join directory base) = (trimmed directory, base) := by
  rcases join_cases directory base with ⟨rfl, hjoin⟩ | ⟨hne, front, hfront, hjoin⟩
  · rw [hjoin, splitLast_of_not_mem hbase]
    rfl
  · rw [hjoin, splitLast_append_slash _ hbase]
    rcases hfront with ⟨rfl, hlast⟩ | rfl
    · rw [trimmed_concat_slash hne hlast]
    · rfl

namespace Folder

variable {α : Type} {f : Folder α} {at_ names : List String}

/-- There is a file or a directory of these names. -/
def HasEntry (f : Folder α) (names : List String) : Prop :=
  f.isDirectory names = true ∨ (f.file? names).isSome = true

theorem follow_append (f : Folder α) (at_ names rest : List String) :
    f.follow at_ (names ++ rest) = (f.follow at_ names).bind fun inner => f.follow inner rest := by
  induction names generalizing at_ with
  | nil => rfl
  | cons name names ih =>
    rw [List.cons_append, follow, follow]
    split
    · rfl
    · split <;> exact ih _

theorem locate_eq_some_iff :
    f.locate path = some names ↔
      f.follow (start f.here path) (namesOf path) = some names ∧
        (f.isDirectory names = true ∨
          (f.file? names).isSome = true ∧ path.getLast? ≠ some '/') := by
  simp [locate, Option.filter_eq_some_iff]

theorem locate_trimmed (hat : f.locate path = some at_) (hdir : f.isDirectory at_ = true) :
    f.locate (trimmed path) = some at_ := by
  have hstart : start f.here (trimmed path) = start f.here path := by
    rw [start, start, head?_trimmed]
  rw [locate_eq_some_iff, namesOf_trimmed, hstart]
  exact ⟨(locate_eq_some_iff.mp hat).1, .inl hdir⟩

theorem locate_join (hat : f.locate path = some at_) (hdir : f.isDirectory at_ = true)
    (hname : IsEntryName name) (hentry : f.HasEntry (at_ ++ [name])) :
    f.locate (join path name.toList) = some (at_ ++ [name]) := by
  have hne : name.toList ≠ [] := fun h => hname.empty (String.toList_eq_nil_iff.mp h)
  have hlast : (join path name.toList).getLast? ≠ some '/' := getLast?_join_ne hne hname.slash
  have hinto : f.follow at_ [name] = some (at_ ++ [name]) := by
    simp [follow, hdir, hname.dots]
  rw [locate_eq_some_iff, start_join _ _ hname.slash, namesOf_join, hname.namesOf_eq,
    follow_append, (locate_eq_some_iff.mp hat).1]
  exact ⟨hinto, hentry.imp_right fun h => ⟨h, hlast⟩⟩

/-- All that there is on the way to a file or to the working directory. -/
def paths (f : Folder α) : List (List String) := f.here :: f.files.map (·.1)

theorem hasEntry_iff : f.HasEntry names ↔ ∃ other ∈ f.paths, names <+: other := by
  rw [HasEntry, isDirectory, file?, Bool.or_eq_true, List.any_eq_true, Option.isSome_map,
    List.find?_isSome]
  simp only [paths, List.mem_cons, List.mem_map, Bool.and_eq_true, List.isPrefixOf_iff_prefix,
    bne_iff_ne, beq_iff_eq]
  constructor
  · rintro ((hhere | ⟨e, he, hbelow, _⟩) | ⟨e, he, rfl⟩)
    · exact ⟨f.here, .inl rfl, hhere⟩
    · exact ⟨e.1, .inr ⟨e, he, rfl⟩, hbelow⟩
    · exact ⟨e.1, .inr ⟨e, he, rfl⟩, List.prefix_rfl⟩
  · rintro ⟨_, rfl | ⟨e, he, rfl⟩, hbelow⟩
    · exact .inl (.inl hbelow)
    · by_cases heq : names = e.1
      · exact .inr ⟨e, he, heq.symm⟩
      · exact .inl (.inr ⟨e, he, hbelow, heq⟩)

theorem slash_not_mem_of_hasEntry {files : List (String × α)} {here : String}
    (h : (ofList files here).HasEntry (at_ ++ [name])) : '/' ∉ name.toList := by
  obtain ⟨other, hother, hbelow⟩ := hasEntry_iff.mp h
  have hmem : name ∈ other := hbelow.subset (by simp)
  rcases List.mem_cons.mp hother with rfl | hother
  · exact slash_not_mem_of_mem_namesOf hmem
  · obtain ⟨_, he, rfl⟩ := List.mem_map.mp hother
    obtain ⟨file, _, rfl⟩ := List.mem_map.mp he
    rcases List.mem_append.mp hmem with hmem | hmem
    · unfold start at hmem
      split at hmem
      · cases hmem
      · exact slash_not_mem_of_mem_namesOf hmem
    · exact slash_not_mem_of_mem_namesOf hmem

theorem mem_list_iff (hat : f.locate path = some at_) :
    name ∈ f.list path ↔ f.HasEntry (at_ ++ [name]) := by
  have hnext : ∀ names : List String,
      (if at_.isPrefixOf names then (names.drop at_.length).head? else none) = some name ↔
        at_ ++ [name] <+: names := by
    intro names
    rw [ite_eq_iff, List.isPrefixOf_iff_prefix]
    constructor
    · rintro (⟨⟨rest, rfl⟩, hhead⟩ | ⟨_, hnone⟩)
      · rw [List.drop_left] at hhead
        obtain ⟨tail, rfl⟩ := List.head?_eq_some_iff.mp hhead
        exact ⟨tail, List.append_assoc ..⟩
      · cases hnone
    · rintro ⟨tail, rfl⟩
      rw [List.append_assoc, List.drop_left]
      exact .inl ⟨List.prefix_append .., rfl⟩
  simp only [list, hat, List.mem_eraseDups, List.mem_filterMap, hnext]
  exact hasEntry_iff.symm

theorem nodup_eraseDups (names : List String) : names.eraseDups.Nodup := by
  -- on the length, as the rest is filtered before it loses its own duplicates
  induction hlength : names.length using Nat.strong_induction_on generalizing names with
  | _ length ih =>
    cases names with
    | nil => exact .nil
    | cons name names =>
      have hshorter : (names.filter fun other => !other == name).length < length := by
        rw [← hlength, List.length_cons]
        exact Nat.lt_succ_of_le (List.length_filter_le ..)
      rw [List.eraseDups_cons, List.nodup_cons]
      refine ⟨?_, ih _ hshorter _ rfl⟩
      rw [List.mem_eraseDups]
      simp

theorem nodup_list (f : Folder α) (path : List Char) : (f.list path).Nodup := by
  unfold list
  split
  · exact .nil
  · exact nodup_eraseDups _

/-- The search for a pattern of names in a directory looks at its entries only. -/
theorem search_join (f : Folder α) (hplain : Pattern.isPattern path = false)
    (hbase : '/' ∉ base) (hpattern : Pattern.isPattern base = true) :
    f.search (join path base) =
      ((f.list (trimmed path)).filter (Pattern.matchesName base)).map fun name =>
        String.ofList (join (trimmed path) name.toList) := by
  -- the way to the directory is no pattern, so the search does not descend
  simp [search, searchWithin, splitLast_join _ hbase, isPattern_join, hpattern,
    isPattern_trimmed hplain, matchIn]

end Folder

end Path

end CaptureArbiter
