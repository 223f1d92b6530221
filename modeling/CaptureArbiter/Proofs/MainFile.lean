import CaptureArbiter.Proofs.Paths
import CaptureArbiter.Proofs.Readings
import CaptureArbiter.Settings.Load

/-!
# The configuration file of a directory

In a directory, only the entries of certain names are looked at, and there has to be one of them.
The path of the directory becomes a part of a pattern, so all of this is about paths without special
characters.
-/

namespace CaptureArbiter

namespace Settings

def IsMainName (name : String) : Prop :=
  ∃ middle, name.toList = "main_".toList ++ middle ++ ".yaml".toList ∨
    name.toList = "main_".toList ++ middle ++ ".yml".toList

variable {name directory path : String} {at_ : List String}

theorem matchesName_main_iff {pattern ending : String}
    (hpieces : Path.Pattern.pieces pattern.toList =
      "main_".toList.map .literal ++ .anyMany :: ending.toList.map .literal) :
    Path.Pattern.matchesName pattern.toList name = true ↔
      ∃ middle, name.toList = "main_".toList ++ middle ++ ending.toList := by
  rw [Path.Pattern.matchesName, hpieces, Bool.and_eq_true, Path.Pattern.accepts_star_iff]
  refine and_iff_right_of_imp ?_
  rintro ⟨middle, hname⟩
  rw [hname]
  exact Bool.or_true _

theorem matchesName_yaml_iff :
    Path.Pattern.matchesName "main_*.yaml".toList name = true ↔
      ∃ middle, name.toList = "main_".toList ++ middle ++ ".yaml".toList :=
  matchesName_main_iff (by decide +kernel)

theorem matchesName_yml_iff :
    Path.Pattern.matchesName "main_*.yml".toList name = true ↔
      ∃ middle, name.toList = "main_".toList ++ middle ++ ".yml".toList :=
  matchesName_main_iff (by decide +kernel)

theorem isMainName_iff :
    IsMainName name ↔
      ∃ pattern ∈ namePatterns, Path.Pattern.matchesName pattern.toList name = true := by
  simp only [namePatterns, List.mem_cons, List.not_mem_nil, or_false, exists_eq_or_imp,
    exists_eq_left, matchesName_yaml_iff, matchesName_yml_iff, IsMainName, exists_or]

theorem matchesName_yml_eq_false
    (h : Path.Pattern.matchesName "main_*.yaml".toList name = true) :
    Path.Pattern.matchesName "main_*.yml".toList name = false := by
  rw [Bool.eq_false_iff]
  intro h'
  obtain ⟨middle, hyaml⟩ := matchesName_yaml_iff.mp h
  obtain ⟨middle', hyml⟩ := matchesName_yml_iff.mp h'
  -- the two endings differ in the third character from the end
  have hlast := congrArg (fun cs => cs.reverse.take 3) (hyaml.symm.trans hyml)
  rw [List.reverse_append, List.reverse_append] at hlast
  exact absurd hlast (by simp)

theorem IsMainName.isEntryName (h : IsMainName name) (hslash : '/' ∉ name.toList) :
    Path.IsEntryName name := by
  have hlong : 5 ≤ name.toList.length := by
    obtain ⟨middle, hname | hname⟩ := h <;> rw [hname] <;> simp
  have hne : ∀ other : String, other.toList.length < 5 → name ≠ other := by
    rintro other hshort rfl
    omega
  exact ⟨hslash, hne _ (by decide), hne _ (by decide), hne _ (by decide)⟩

/-- A directory that exists, at a path without the special characters of patterns. -/
structure IsPlainDirectory (files : Path.Folder Content) (directory : String) (at_ : List String) :
    Prop where
  plain : Path.Pattern.isPattern directory.toList = false
  located : files.locate directory.toList = some at_
  isDirectory : files.isDirectory at_ = true

def IsCandidate (files : Path.Folder Content) (at_ : List String) (name : String) : Prop :=
  IsMainName name ∧ files.HasEntry (at_ ++ [name])

def mainNames (files : Path.Folder Content) (directory : String) : List String :=
  namePatterns.flatMap fun pattern =>
    (files.list (Path.trimmed directory.toList)).filter
      (Path.Pattern.matchesName pattern.toList)

def mainPath (directory name : String) : String :=
  .ofList (Path.join (Path.trimmed directory.toList) name.toList)

/-- What is made of the paths of all candidates. -/
def choose (directory : String) : List String → Except Failure String
  | [] => .error (.noConfiguration directory)
  | [path] => .ok path
  | paths => .error (.manyConfigurations (paths.mergeSort fun a b => !decide (b < a)))

variable {files files' : Path.Folder Content}

theorem findMain_eq_choose (files : Path.Folder Content) (directory : String) :
    findMain files directory =
      choose directory (namePatterns.flatMap fun pattern =>
        files.search (Path.join directory.toList pattern.toList)) :=
  rfl

theorem findMain_eq (hdir : IsPlainDirectory files directory at_) :
    findMain files directory =
      choose directory ((mainNames files directory).map (mainPath directory)) := by
  have hsearch : ∀ pattern ∈ namePatterns,
      files.search (Path.join directory.toList pattern.toList) =
        ((files.list (Path.trimmed directory.toList)).filter
          (Path.Pattern.matchesName pattern.toList)).map (mainPath directory) := by
    intro pattern hpattern
    have hbase : '/' ∉ pattern.toList ∧ Path.Pattern.isPattern pattern.toList = true := by
      revert pattern
      decide +kernel
    exact Path.Folder.search_join files hdir.plain hbase.1 hbase.2
  rw [findMain_eq_choose, mainNames, List.map_flatMap, List.flatMap_congr hsearch]

theorem mem_mainNames_iff (hdir : IsPlainDirectory files directory at_) :
    name ∈ mainNames files directory ↔ IsCandidate files at_ name := by
  have hlist : name ∈ files.list (Path.trimmed directory.toList) ↔ _ :=
    Path.Folder.mem_list_iff (Path.Folder.locate_trimmed hdir.located hdir.isDirectory)
  simp only [mainNames, List.mem_flatMap, List.mem_filter, hlist, IsCandidate, isMainName_iff]
  constructor
  · rintro ⟨pattern, hpattern, hentry, hname⟩
    exact ⟨⟨pattern, hpattern, hname⟩, hentry⟩
  · rintro ⟨⟨pattern, hpattern, hname⟩, hentry⟩
    exact ⟨pattern, hpattern, hentry, hname⟩

theorem nodup_mainNames (files : Path.Folder Content) (directory : String) :
    (mainNames files directory).Nodup := by
  have hnodup := Path.Folder.nodup_list files (Path.trimmed directory.toList)
  rw [mainNames, List.nodup_flatMap]
  refine ⟨fun pattern _ => hnodup.filter _, ?_⟩
  rw [namePatterns, List.pairwise_pair]
  intro name hyaml hyml
  rw [List.mem_filter] at hyaml hyml
  rw [matchesName_yml_eq_false hyaml.2] at hyml
  cases hyml.2

theorem choose_error {paths : List String} (h : paths.length ≠ 1) :
    ∃ e, choose directory paths = .error e ∧ e.kind = .configuration := by
  match paths with
  | [] => exact ⟨_, rfl, rfl⟩
  | [_] => exact absurd rfl h
  | _ :: _ :: _ => exact ⟨_, rfl, rfl⟩

theorem mergeSort_eq_of_perm {paths paths' : List String} (h : paths.Perm paths') :
    (paths.mergeSort fun a b => !decide (b < a)) =
      paths'.mergeSort fun a b => !decide (b < a) := by
  have hle : (fun a b : String => !decide (b < a)) = fun a b => decide (a ≤ b) := by
    funext a b
    rw [← decide_not, decide_eq_decide, String.not_lt]
  have hsorted : ∀ l : List String, (l.mergeSort fun a b => decide (a ≤ b)).Pairwise (· ≤ ·) := by
    intro l
    have hpairwise : (l.mergeSort fun a b => decide (a ≤ b)).Pairwise fun a b =>
        decide (a ≤ b) = true :=
      List.pairwise_mergeSort (fun a b c => by simpa using String.le_trans)
        (fun a b => by simpa using String.le_total a b) l
    simpa using hpairwise
  rw [hle]
  exact ((List.mergeSort_perm ..).trans (h.trans (List.mergeSort_perm ..).symm)).eq_of_pairwise
    (fun _ _ _ _ => String.le_antisymm) (hsorted _) (hsorted _)

/-- The order of the paths does not matter: they are sorted before they are reported. -/
theorem choose_eq_of_perm {paths paths' : List String} (h : paths.Perm paths') :
    choose directory paths = choose directory paths' := by
  match paths, paths' with
  | [], _ => rw [List.nil_perm.mp h]
  | [_], _ => rw [List.singleton_perm.mp h]
  | _, [] => rw [List.perm_nil.mp h]
  | _, [_] => rw [List.perm_singleton.mp h]
  | _ :: _ :: _, _ :: _ :: _ =>
    exact congrArg (fun sorted => Except.error (Failure.manyConfigurations sorted))
      (mergeSort_eq_of_perm h)

theorem eq_singleton_of_only (hdir : IsPlainDirectory files directory at_)
    (hname : IsCandidate files at_ name)
    (honly : ∀ other, IsCandidate files at_ other → other = name) :
    mainNames files directory = [name] := by
  have hperm : (mainNames files directory).Perm [name] := by
    rw [List.perm_ext_iff_of_nodup (nodup_mainNames files directory) (List.nodup_singleton name)]
    intro other
    rw [mem_mainNames_iff hdir, List.mem_singleton]
    exact ⟨honly other, fun heq => heq ▸ hname⟩
  exact List.perm_singleton.mp hperm

/-- What is read at a path, given what is in the file there; a directory is no file. -/
def readContent (path : String) : Option Content → Except Failure Value
  | some (.text s) => Yaml.readFile path s
  | some (.document v) => .ok v
  | none => .error (.isDirectory path)

theorem locate_mainPath (hdir : IsPlainDirectory files directory at_)
    (hname : IsCandidate files at_ name) (hslash : '/' ∉ name.toList) :
    files.locate (mainPath directory name).toList = some (at_ ++ [name]) := by
  rw [mainPath, String.toList_ofList]
  have hat := Path.Folder.locate_trimmed hdir.located hdir.isDirectory
  exact Path.Folder.locate_join hat hdir.isDirectory (hname.1.isEntryName hslash) hname.2

theorem readMain_eq {names : List String} (h : files.locate path.toList = some names) :
    readMain files path = readContent path (files.file? names) := by
  rw [readMain, h]
  rfl

theorem load_of_findMain (h : findMain files directory = .ok path) :
    load files directory = readMain files path >>= fun document =>
      (ofDocument path document).map fun s => (path, s) := by
  rw [load, bind_ok h]
  rfl

/-- An entry is the same in two folders: both have it as a file of the same content, or neither as a
file, and both as a directory, or neither. -/
def SameEntry (files files' : Path.Folder Content) (names : List String) : Prop :=
  files.file? names = files'.file? names ∧ files.isDirectory names = files'.isDirectory names

theorem SameEntry.hasEntry_iff {names : List String} (h : SameEntry files files' names) :
    files.HasEntry names ↔ files'.HasEntry names := by
  rw [Path.Folder.HasEntry, h.1, h.2, Path.Folder.HasEntry]

theorem isCandidate_iff_of_same
    (hsame : ∀ name, IsMainName name → SameEntry files files' (at_ ++ [name])) (name : String) :
    IsCandidate files at_ name ↔ IsCandidate files' at_ name :=
  and_congr_right fun hname => (hsame name hname).hasEntry_iff

theorem findMain_eq_of_same (hdir : IsPlainDirectory files directory at_)
    (hdir' : IsPlainDirectory files' directory at_)
    (hsame : ∀ name, IsMainName name → SameEntry files files' (at_ ++ [name])) :
    findMain files directory = findMain files' directory := by
  have hperm : (mainNames files directory).Perm (mainNames files' directory) := by
    rw [List.perm_ext_iff_of_nodup (nodup_mainNames ..) (nodup_mainNames ..)]
    intro name
    rw [mem_mainNames_iff hdir, mem_mainNames_iff hdir', isCandidate_iff_of_same hsame]
  rw [findMain_eq hdir, findMain_eq hdir', choose_eq_of_perm (hperm.map _)]

theorem load_of_findMain_error {e : Failure} (h : findMain files directory = .error e) :
    load files directory = .error e := by
  rw [load, h]
  rfl

theorem findMain_error_of_not_unique (hdir : IsPlainDirectory files directory at_)
    (h : ¬∃! name, IsCandidate files at_ name) :
    ∃ e, findMain files directory = .error e ∧ e.kind = .configuration := by
  have hlength : ((mainNames files directory).map (mainPath directory)).length ≠ 1 := by
    rw [List.length_map]
    intro hone
    obtain ⟨name, hnames⟩ := List.length_eq_one_iff.mp hone
    have hmem : ∀ other, IsCandidate files at_ other ↔ other = name := fun other => by
      rw [← mem_mainNames_iff hdir, hnames, List.mem_singleton]
    exact h ⟨name, (hmem name).mpr rfl, fun other => (hmem other).mp⟩
  rw [findMain_eq hdir]
  exact choose_error hlength

theorem load_of_only (hdir : IsPlainDirectory files directory at_)
    (hname : IsCandidate files at_ name) (hslash : '/' ∉ name.toList)
    (honly : ∀ other, IsCandidate files at_ other → other = name) :
    load files directory =
      readContent (mainPath directory name) (files.file? (at_ ++ [name])) >>= fun document =>
        (ofDocument (mainPath directory name) document).map fun s =>
          (mainPath directory name, s) := by
  have hpath : findMain files directory = .ok (mainPath directory name) := by
    rw [findMain_eq hdir, eq_singleton_of_only hdir hname honly]
    rfl
  rw [load_of_findMain hpath, readMain_eq (locate_mainPath hdir hname hslash)]

theorem load_eq_of_same (hdir : IsPlainDirectory files directory at_)
    (hdir' : IsPlainDirectory files' directory at_)
    (hslash : ∀ name, files.HasEntry (at_ ++ [name]) → '/' ∉ name.toList)
    (hsame : ∀ name, IsMainName name → SameEntry files files' (at_ ++ [name])) :
    load files directory = load files' directory := by
  have hiff := isCandidate_iff_of_same hsame
  by_cases hunique : ∃! name, IsCandidate files at_ name
  · obtain ⟨name, hname, honly⟩ := hunique
    have honly' : ∀ other, IsCandidate files' at_ other → other = name := fun other hother =>
      honly other ((hiff other).mpr hother)
    have hplain := hslash name hname.2
    rw [load_of_only hdir hname hplain honly,
      load_of_only hdir' ((hiff name).mp hname) hplain honly', (hsame name hname.1).1]
  · -- the search fails before anything is read, and reports the same paths
    obtain ⟨e, he, _⟩ := findMain_error_of_not_unique hdir hunique
    have he' : findMain files' directory = .error e := by
      rw [← findMain_eq_of_same hdir hdir' hsame, he]
    rw [load_of_findMain_error he, load_of_findMain_error he']

end Settings

/-- At a directory's path without special characters, settings are loaded from the one entry of the
directory with the name of a configuration file, and none or several are a fault of the
configuration. No other entry and no other directory makes a difference. -/
theorem load_reads_main_entry (entries : List (String × Settings.Content))
    (here directory : String) (at_ : List String)
    (hdir : Settings.IsPlainDirectory (.ofList entries here) directory at_) :
    let files := Path.Folder.ofList entries here
    ((¬∃! name, Settings.IsCandidate files at_ name) →
      ∃ e, Settings.load files directory = .error e ∧ e.kind = .configuration) ∧
    (∀ name, Settings.IsCandidate files at_ name →
      (∀ other, Settings.IsCandidate files at_ other → other = name) →
      ∃ path, files.locate path.toList = some (at_ ++ [name]) ∧
        Settings.load files directory =
          Settings.readContent path (files.file? (at_ ++ [name])) >>= fun document =>
            (Settings.ofDocument path document).map fun s => (path, s)) ∧
    ∀ entries' here', Settings.IsPlainDirectory (.ofList entries' here') directory at_ →
      (∀ name, Settings.IsMainName name →
        Settings.SameEntry files (.ofList entries' here') (at_ ++ [name])) →
      Settings.load files directory = Settings.load (.ofList entries' here') directory := by
  intro files
  have hslash : ∀ name, files.HasEntry (at_ ++ [name]) → '/' ∉ name.toList := fun _ =>
    Path.Folder.slash_not_mem_of_hasEntry
  refine ⟨?_, ?_, ?_⟩
  · intro hnot
    obtain ⟨e, he, hkind⟩ := Settings.findMain_error_of_not_unique hdir hnot
    exact ⟨e, Settings.load_of_findMain_error he, hkind⟩
  · intro name hname honly
    exact ⟨_, Settings.locate_mainPath hdir hname (hslash name hname.2),
      Settings.load_of_only hdir hname (hslash name hname.2) honly⟩
  · intro entries' here' hdir' hsame
    exact Settings.load_eq_of_same hdir hdir' hslash hsame

/-- Files of other names, further below or in the working directory make no difference at an
absolute path. -/
theorem load_reads_main_entry_only :
    let settings : Settings.Content := .document (.map [])
    let entries := [("/etc/conf/main_a.yaml", settings)]
    let more := [("main_b.yaml", settings), ("/etc/conf/main_a.yaml", settings),
      ("/etc/conf/sub/main_c.yml", settings), ("/etc/conf/other.yaml", settings)]
    ∃ path, Settings.load (.ofList entries "/") "/etc/./conf/" = .ok (path, {}) ∧
      Settings.load (.ofList more "/home") "/etc/./conf/" = .ok (path, {}) := by
  intro settings entries more
  have hdir : Settings.IsPlainDirectory (.ofList entries "/") "/etc/./conf/" ["etc", "conf"] :=
    ⟨by decide +kernel, by decide +kernel, by decide +kernel⟩
  have hdir' : Settings.IsPlainDirectory (.ofList more "/home") "/etc/./conf/" ["etc", "conf"] :=
    ⟨by decide +kernel, by decide +kernel, by decide +kernel⟩
  have hname : Settings.IsMainName "main_a.yaml" := ⟨['a'], .inl rfl⟩
  have hnames : Path.namesOf "/etc/conf/main_a.yaml".toList = ["etc", "conf", "main_a.yaml"] ∧
      Path.namesOf "main_b.yaml".toList = ["main_b.yaml"] ∧
      Path.namesOf "/etc/conf/sub/main_c.yml".toList = ["etc", "conf", "sub", "main_c.yml"] ∧
      Path.namesOf "/etc/conf/other.yaml".toList = ["etc", "conf", "other.yaml"] ∧
      Path.namesOf "/".toList = [] ∧ Path.namesOf "/home".toList = ["home"] := by decide +kernel
  have hfiles : Path.Folder.ofList entries "/" =
      { files := [(["etc", "conf", "main_a.yaml"], settings)] } := by
    simp only [Path.Folder.ofList, entries, List.map_cons, List.map_nil, hnames]
    rfl
  have hfiles' : Path.Folder.ofList more "/home" =
      { files := [(["home", "main_b.yaml"], settings), (["etc", "conf", "main_a.yaml"], settings),
          (["etc", "conf", "sub", "main_c.yml"], settings),
          (["etc", "conf", "other.yaml"], settings)]
        here := ["home"] } := by
    simp only [Path.Folder.ofList, more, List.map_cons, List.map_nil, hnames]
    rfl
  have hsame : ∀ name, Settings.IsMainName name →
      Settings.SameEntry (.ofList entries "/") (.ofList more "/home")
        (["etc", "conf"] ++ [name]) := by
    intro name hname
    have hne : name ≠ "sub" ∧ name ≠ "other.yaml" := by
      rw [Settings.isMainName_iff] at hname
      constructor <;> rintro rfl <;> exact absurd hname (by decide +kernel)
    simp [Settings.SameEntry, Path.Folder.file?, Path.Folder.isDirectory, hfiles, hfiles',
      List.find?_cons, List.isPrefixOf, hne, Ne.symm hne.2]
  obtain ⟨_, hone, heq⟩ := load_reads_main_entry entries "/" "/etc/./conf/" ["etc", "conf"] hdir
  have hlist : (Path.Folder.ofList entries "/").list "/etc/./conf/".toList = ["main_a.yaml"] := by
    decide +kernel
  have hentry : ∀ name, (Path.Folder.ofList entries "/").HasEntry (["etc", "conf"] ++ [name]) ↔
      name = "main_a.yaml" := by
    intro name
    rw [← Path.Folder.mem_list_iff hdir.located, hlist, List.mem_singleton]
  obtain ⟨path, _, hload⟩ := hone "main_a.yaml" ⟨hname, (hentry _).mpr rfl⟩
    fun other hother => (hentry other).mp hother.2
  have hfile : (Path.Folder.ofList entries "/").file? (["etc", "conf"] ++ ["main_a.yaml"]) =
      some settings := by
    simp [Path.Folder.file?, hfiles]
  rw [hfile] at hload
  exact ⟨path, hload, (heq more "/home" hdir' hsame).symm.trans hload⟩

/-- The name of a directory may have brackets; what is searched is a directory that they match. -/
theorem load_searches_for_brackets :
    let settings : Settings.Content := .text "runtime: \x7blog_level: debug\x7d\n"
    let files := Path.Folder.ofList [("conf[1]/main_a.yaml", settings)]
    let more := Path.Folder.ofList
      [("conf[1]/main_a.yaml", settings), ("conf1/main_b.yaml", settings)]
    let at_ := ["work", "conf[1]"]
    files.locate "conf[1]".toList = some at_ ∧ files.isDirectory at_ = true ∧
      (∃! name, Settings.IsCandidate files at_ name) ∧
      (files.file? (at_ ++ ["main_a.yaml"])).isSome = true ∧
      Settings.load files "conf[1]" = .error (.noConfiguration "conf[1]") ∧
      Settings.findMain more "conf[1]" = .ok "conf1/main_b.yaml" := by
  intro settings files more at_
  have hat : files.locate "conf[1]".toList = some at_ := by decide +kernel
  have hlist : files.list "conf[1]".toList = ["main_a.yaml"] := by decide +kernel
  have hentry : ∀ name, files.HasEntry (at_ ++ [name]) ↔ name = "main_a.yaml" := by
    intro name
    rw [← Path.Folder.mem_list_iff hat, hlist, List.mem_singleton]
  have hnone : (Settings.namePatterns.flatMap fun pattern =>
      files.search (Path.join "conf[1]".toList pattern.toList)) = [] := by decide +kernel
  refine ⟨hat, by decide +kernel, ?_, by decide +kernel, ?_,
    eq_ok_of_toOption (by decide +kernel)⟩
  · exact ⟨"main_a.yaml", ⟨⟨['a'], .inl rfl⟩, (hentry _).mpr rfl⟩,
      fun other hother => (hentry other).mp hother.2⟩
  · apply Settings.load_of_findMain_error
    rw [Settings.findMain_eq_choose, hnone]
    rfl

end CaptureArbiter
