import SecretScan.Discovery
import SecretScan.Proofs.FileListing
import SecretScan.Proofs.PrunedDirectories

/-!
What a walk finds, compared with the listing of the tree below its root. A walk finds selected files
of the listing and no others. Where no ignore file has a rule it finds all of them, in the order of
the listing: the directories that it passes over hold no selected file, so nothing is lost by not
looking into them.
-/

namespace SecretScan

def Ignore.Level.IsSilent (level : Ignore.Level) : Prop :=
  level.own.rules = [] ∧ level.general.rules = [] ∧ level.control.rules = [] ∧
    level.exclusion.rules = []

/-- No ignore file has a rule about what lies below a root, be it in a directory of the tree or in
one above the root. -/
structure Workspace.IsUnruled (w : Workspace) (root : Text) (allKinds : Bool) : Prop where
  inside : ∀ path entries, w.Holds root path (.directory entries) →
    (Ignore.Level.read w allKinds path).1.IsSilent
  above : allKinds = true → ∀ directory ∈ Walk.directoriesAbove w root,
    (Ignore.Level.read w true directory).1.IsSilent

namespace Ignore

theorem Rules.verdict?_of_nil {r : Rules} (h : r.rules = []) (path : Text) (isDirectory : Bool) :
    r.verdict? path isDirectory = .none := by
  rw [verdict?, h]
  rfl

namespace Level

theorem underControl_subset (levels : List (Level × Text)) : underControl levels ⊆ levels := by
  unfold underControl
  split
  · intro x hx
    rcases List.mem_append.1 hx with hx | hx
    · exact (List.takeWhile_sublist _).mem hx
    · exact List.mem_of_find?_eq_some (Option.mem_toList.1 hx)
  · exact List.nil_subset _

/-- Without rules nothing is said about any entry. -/
theorem verdict?_of_silent {levels : List (Level × Text)} (h : ∀ x ∈ levels, x.1.IsSilent)
    (isDirectory : Bool) : verdict? levels isDirectory = none := by
  have hnone (kind : Level → Rules) {levels' : List (Level × Text)} (hsub : levels' ⊆ levels)
      (hkind : ∀ level : Level, level.IsSilent → (kind level).rules = []) :
      (levels'.findSome? fun x => (kind x.1).verdict? x.2 isDirectory) = .none := by
    rw [List.findSome?_eq_none_iff]
    intro x hx
    exact Rules.verdict?_of_nil (hkind x.1 (h x (hsub hx))) x.2 isDirectory
  simp only [verdict?]
  rw [hnone own (List.Subset.refl _) fun _ hs => hs.1,
    hnone general (List.Subset.refl _) fun _ hs => hs.2.1,
    hnone control (underControl_subset levels) fun _ hs => hs.2.2.1,
    hnone exclusion (underControl_subset levels) fun _ hs => hs.2.2.2]
  rfl

end Level

end Ignore

namespace Discovery

theorem files_append (a b : Discovery) : (a ++ b).files = a.files ++ b.files := rfl

theorem files_concat (parts : List Discovery) :
    (concat parts).files = parts.flatMap (·.files) := by
  induction parts with
  | nil => rfl
  | cons d parts ih =>
    rw [List.flatMap_cons, ← ih]
    rfl

theorem files_ofFile (selector : Selector) (path : Text) :
    (ofFile selector path).files = ([path].filter selector.isSelected).map .ofPath := by
  rw [ofFile]
  by_cases h : selector.isSelected path = true
  · rw [if_pos h, List.filter_cons_of_pos h]
    rfl
  · rw [if_neg h, List.filter_cons_of_neg h]
    rfl

end Discovery

namespace Walk

variable {walk : Walk}

theorem isIgnored_of_silent {levels : List Ignore.Level} (hlevels : ∀ l ∈ levels, l.IsSilent)
    (habove : ∀ l ∈ walk.above, l.IsSilent) (path : Text) (isDirectory : Bool) :
    walk.isIgnored levels path isDirectory = false := by
  simp only [isIgnored]
  rw [Ignore.Level.verdict?_of_silent]
  · rfl
  · intro x hx
    rcases List.mem_append.1 hx with hx | hx
    · obtain ⟨level, hlevel, rfl⟩ := List.mem_map.1 hx
      exact hlevels level hlevel
    · obtain ⟨level, hlevel, rfl⟩ := List.mem_map.1 hx
      exact habove level hlevel

theorem visitAll_eq_map (levels : List Ignore.Level) (directory : Text)
    (entries : List (Text × Entry)) :
    walk.visitAll levels directory entries =
      entries.map fun x => (x.1, walk.visit levels (Path.join directory x.1) x.2) := by
  induction entries with
  | nil => rfl
  | cons x entries ih => rw [visitAll, ih, List.map_cons]

/-- Files are found in the order of the names of the entries that hold them. -/
theorem files_visitAll (levels : List Ignore.Level) (directory : Text)
    (entries : List (Text × Entry)) :
    (Discovery.inOrder (walk.visitAll levels directory entries)).files =
      (entries.mergeSort fun a b => Text.le a.1 b.1).flatMap
        fun x => (walk.visit levels (Path.join directory x.1) x.2).files := by
  have hsort := @List.map_mergeSort (Text × Entry) (Text × Discovery)
    (fun a b => Text.le a.1 b.1) (fun a b => Text.le a.1 b.1)
    (fun x => (x.1, walk.visit levels (Path.join directory x.1) x.2)) entries fun _ _ _ _ => rfl
  rw [Discovery.inOrder, visitAll_eq_map, ← hsort, Discovery.files_concat, List.flatMap_map,
    List.flatMap_map]

def selectedFiles (walk : Walk) (path : Text) (e : Entry) : List SourceFile :=
  ((e.files path).filter walk.selector.isSelected).map .ofPath

theorem selectedFiles_directory (path : Text) (entries : List (Text × Entry)) :
    walk.selectedFiles path (.directory entries) =
      (entries.mergeSort fun a b => Text.le a.1 b.1).flatMap
        fun x => walk.selectedFiles (Path.join path x.1) x.2 := by
  rw [selectedFiles, Entry.files_directory, List.filter_flatMap, List.map_flatMap]
  rfl

/-- Whatever a walk finds is a selected file of the listing. -/
theorem visit_files_subset {e : Entry} (he : e.IsTree) (levels : List Ignore.Level) (path : Text) :
    (walk.visit levels path e).files ⊆ walk.selectedFiles path e := by
  induction he generalizing levels path with
  | file =>
    rw [visit]
    split
    · exact List.nil_subset _
    · rw [Discovery.files_ofFile]
      exact List.Subset.refl _
  | link => exact List.nil_subset _
  | @directory entries _ _ _ ih =>
    rw [visit]
    split
    · exact List.nil_subset _
    · rw [files_visitAll, selectedFiles_directory]
      intro file hfile
      obtain ⟨x, hx, hfile⟩ := List.mem_flatMap.1 hfile
      exact List.mem_flatMap.2 ⟨x, hx, ih x (List.mem_mergeSort.1 hx) _ _ hfile⟩

/-- A directory that is passed over holds no selected file. -/
theorem selectedFiles_of_isPruned {e : Entry} (he : e.IsTree) {path : Text} {names : List Text}
    (hpath : Path.components path = Path.components walk.selector.root ++ names)
    (h : walk.selector.isPruned path = true) : walk.selectedFiles path e = [] := by
  have hstrip {p : Text} {way : List Text}
      (hp : Path.components p = Path.components walk.selector.root ++ way) :
      Path.stripBase? walk.selector.root p = some way := by
    simp [Path.stripBase?, hp]
  rw [selectedFiles, List.map_eq_nil_iff, List.filter_eq_nil_iff]
  intro file hfile
  obtain ⟨below, hbelow⟩ := Entry.components_of_mem_files he hfile
  rw [hpath, List.append_assoc] at hbelow
  rw [walk.selector.not_isSelected_of_isPruned (hstrip hpath) (hstrip hbelow) h]
  exact Bool.false_ne_true

/-- The step of a walk: it finds the selected files of an entry if it finds those of the entries
inside. -/
theorem visit_files {e : Entry} (he : e.IsTree) {path : Text} {names : List Text}
    (hpath : Path.components path = Path.components walk.selector.root ++ names)
    {levels : List Ignore.Level} (hlevels : ∀ l ∈ levels, l.IsSilent)
    (habove : ∀ l ∈ walk.above, l.IsSilent)
    (hinside : ∀ way entries, e.at? way = some (.directory entries) →
      (walk.levelOf (way.foldl Path.join path)).IsSilent) :
    (walk.visit levels path e).files = walk.selectedFiles path e := by
  induction he generalizing path names levels with
  | file =>
    rw [visit, isIgnored_of_silent hlevels habove, if_neg Bool.false_ne_true,
      Discovery.files_ofFile]
    rfl
  | link => rfl
  | @directory entries hnames hdistinct hinner ih =>
    rw [visit, isIgnored_of_silent hlevels habove, Bool.false_or]
    split
    · rename_i hpruned
      rw [selectedFiles_of_isPruned (.directory hnames hdistinct hinner) hpath hpruned]
    · rw [files_visitAll, selectedFiles_directory]
      refine List.flatMap_congr fun x hx => ?_
      have hx := List.mem_mergeSort.1 hx
      have hpath' : Path.components (Path.join path x.1) =
          Path.components walk.selector.root ++ (names ++ [x.1]) := by
        rw [Path.components_join path (hnames x hx), hpath, List.append_assoc]
      refine ih x hx hpath' ?_ fun way entries' hway => ?_
      · intro level hlevel
        rcases List.mem_cons.1 hlevel with rfl | hlevel
        · exact hinside [] entries rfl
        · exact hlevels level hlevel
      · have hlookup := Entry.lookup_of_mem hdistinct hx
        exact hinside (x.1 :: way) entries' (Entry.at?_cons.2 ⟨x.2, hlookup, hway⟩)

end Walk

namespace Workspace

def walkFrom (w : Workspace) (root : Text) (selector : Selector) (allKinds : Bool) : Walk :=
  ⟨w, root, selector, allKinds,
    (if allKinds then (Walk.directoriesAbove w root).map (Ignore.Level.read w true) else []).map
      (·.1)⟩

def filePaths (w : Workspace) (root : Text) : List Text :=
  match w.entry root with
  | .ok e => e.files root
  | .error _ => []

variable {w : Workspace} {root : Text}

theorem entry_eq_ok {path : Text} {e : Entry} :
    w.entry path = .ok e ↔
      ∃ address, w.resolve path true = .ok address ∧ w.tree.at? address = some e := by
  rw [entry]
  cases w.resolve path true with
  | error fault => simp [bind, Except.bind]
  | ok address =>
    cases h : w.tree.at? address with
    | none => simp [bind, Except.bind, h]
    | some e' => simp [bind, Except.bind, h]

theorem ne_nil_of_entry {path : Text} {e : Entry} (h : w.entry path = .ok e) : path ≠ [] := by
  intro hpath
  obtain ⟨address, hresolve, -⟩ := entry_eq_ok.1 h
  rw [hpath] at hresolve
  cases hresolve

theorem isFile_iff {path : Text} :
    w.isFile path = true ↔ ∃ content, w.entry path = .ok (.file content) := by
  rw [isFile]
  cases w.entry path with
  | error fault => simp
  | ok e =>
    cases e with
    | file content => simp [Entry.isFile]
    | link way => simp [Entry.isFile]
    | directory entries => simp [Entry.isFile]

theorem isTree_of_entry (hw : w.tree.IsTree) {path : Text} {e : Entry}
    (h : w.entry path = .ok e) : e.IsTree := by
  obtain ⟨address, -, hat⟩ := entry_eq_ok.1 h
  exact (hw.at? hat).2

theorem mem_filePaths (hw : w.tree.IsTree) (path : Text) :
    path ∈ w.filePaths root ↔ ∃ content, w.Holds root path (.file content) := by
  rw [filePaths]
  cases he : w.entry root with
  | error fault => simp [Holds, he]
  | ok e =>
    simp only [Entry.mem_files_iff (isTree_of_entry hw he), Holds, he]
    constructor
    · rintro ⟨names, content, hat, rfl⟩
      exact ⟨content, e, names, rfl, hat, rfl⟩
    · rintro ⟨content, e', names, heq, hat, rfl⟩
      obtain rfl := Except.ok.inj heq
      exact ⟨names, content, hat, rfl⟩

theorem pairwise_filePaths (hw : w.tree.IsTree) : (w.filePaths root).Pairwise Path.Precedes := by
  rw [filePaths]
  cases he : w.entry root with
  | error fault => exact .nil
  | ok e => exact Entry.pairwise_files (isTree_of_entry hw he) root

end Workspace

/-- Below a root that is a directory, the files are those of the walk. -/
theorem files_discoverFiles_of_directory {w : Workspace} {root : Text} (selector : Selector)
    (allKinds : Bool) {entries : List (Text × Entry)} (hroot : ¬ Path.same root standardInput = true)
    (he : w.entry root = .ok (.directory entries)) :
    (discoverFiles w root selector allKinds).files =
      (Discovery.inOrder ((w.walkFrom root selector allKinds).visitAll
        [(w.walkFrom root selector allKinds).levelOf root] root entries)).files := by
  have hnotice (clean : Bool) (errors : List FileError) :
      (if clean then ({} : Discovery) else { errors := errors }).files = [] := by
    cases clean with
    | true => rfl
    | false => rfl
  rw [discoverFiles, if_neg hroot]
  simp only [he]
  rw [Discovery.files_append, hnotice, List.nil_append]
  rfl

/-- A root that is no directory is a selected file or nothing at all. -/
theorem files_discoverFiles_of_not_directory {w : Workspace} {root : Text} (selector : Selector)
    (allKinds : Bool) (hroot : ¬ Path.same root standardInput = true)
    (h : ∀ entries, w.entry root ≠ .ok (.directory entries)) :
    (discoverFiles w root selector allKinds).files =
      ((w.filePaths root).filter selector.isSelected).map .ofPath := by
  rw [discoverFiles, if_neg hroot, Workspace.filePaths]
  cases he : w.entry root with
  | error fault => rfl
  | ok e =>
    cases e with
    | file content => exact Discovery.files_ofFile selector root
    | link target => rfl
    | directory entries => exact absurd he (h entries)

/-- Whatever is discovered below a root is a file of the tree that is selected. -/
theorem files_discoverFiles_subset {w : Workspace} (hw : w.tree.IsTree) (root : Text)
    (selector : Selector) (allKinds : Bool) :
    (discoverFiles w root selector allKinds).files ⊆
      ((w.filePaths root).filter selector.isSelected).map .ofPath := by
  by_cases hroot : Path.same root standardInput = true
  · rw [discoverFiles, if_pos hroot]
    exact List.nil_subset _
  by_cases hdirectory : ∃ entries, w.entry root = .ok (.directory entries)
  · obtain ⟨entries, he⟩ := hdirectory
    rw [files_discoverFiles_of_directory selector allKinds hroot he, Walk.files_visitAll,
      Workspace.filePaths, he]
    intro file hfile
    obtain ⟨x, hx, hfile⟩ := List.mem_flatMap.1 hfile
    change file ∈ (w.walkFrom root selector allKinds).selectedFiles root (.directory entries)
    rw [Walk.selectedFiles_directory, List.mem_flatMap]
    cases Workspace.isTree_of_entry hw he with
    | directory _ _ hinner =>
      have htree := hinner x (List.mem_mergeSort.1 hx)
      exact ⟨x, hx, Walk.visit_files_subset htree _ _ hfile⟩
  · rw [files_discoverFiles_of_not_directory selector allKinds hroot
      fun entries he => hdirectory ⟨entries, he⟩]
    exact List.Subset.refl _

/-- Without rules in ignore files all selected files of the tree are discovered, in order. The root is
never passed over, so it is visited like any directory. -/
theorem files_discoverFiles_of_isUnruled {w : Workspace} (hw : w.tree.IsTree) {root : Text}
    {selector : Selector} {allKinds : Bool} (hroot : ¬ Path.same root standardInput = true)
    (hselector : Path.same selector.root root = true) (hrules : w.IsUnruled root allKinds) :
    (discoverFiles w root selector allKinds).files =
      ((w.filePaths root).filter selector.isSelected).map .ofPath := by
  by_cases hdirectory : ∃ entries, w.entry root = .ok (.directory entries)
  · obtain ⟨entries, he⟩ := hdirectory
    have hcomponents := eq_of_beq hselector
    have habove : ∀ l ∈ (w.walkFrom root selector allKinds).above, l.IsSilent := by
      intro level hlevel
      obtain ⟨found, hfound, rfl⟩ := List.mem_map.1 hlevel
      split at hfound
      · rename_i hkinds
        obtain ⟨directory, hdirectory, rfl⟩ := List.mem_map.1 hfound
        exact hrules.above hkinds directory hdirectory
      · cases hfound
    have hvisit : (w.walkFrom root selector allKinds).visit [] root (.directory entries) =
        .inOrder ((w.walkFrom root selector allKinds).visitAll
          [(w.walkFrom root selector allKinds).levelOf root] root entries) := by
      have hpruned : selector.isPruned root = false := by
        simp [Selector.isPruned, Path.same, hcomponents]
      rw [Walk.visit, Walk.isIgnored_of_silent (List.forall_mem_nil _) habove, Bool.false_or,
        if_neg]
      simp [Workspace.walkFrom, hpruned]
    rw [files_discoverFiles_of_directory selector allKinds hroot he, ← hvisit,
      Workspace.filePaths, he]
    have hpath : Path.components root =
        Path.components (w.walkFrom root selector allKinds).selector.root ++ [] := by
      rw [List.append_nil]
      exact hcomponents.symm
    exact Walk.visit_files (Workspace.isTree_of_entry hw he) hpath (List.forall_mem_nil _) habove
      fun way entries' hway => hrules.inside _ entries' ⟨_, way, he, hway, rfl⟩
  · exact files_discoverFiles_of_not_directory selector allKinds hroot
      fun entries he => hdirectory ⟨entries, he⟩

/-- Passing over directories hides no file that is to be scanned: whatever lies below an excluded
directory is excluded itself, and what is discovered below a root is therefore what a walk through
all directories would select, in the order of paths. -/
theorem files_discoverFiles :
    (∀ (rules : SelectionRules) (directory path : Text),
      rules.excludesDirectory directory = true →
      Path.segments directory <+: Path.segments path →
        rules.isExcluded path = true ∧ rules.shouldScan path = false) ∧
    ∀ (w : Workspace) (root : Text) (selector : Selector) (allKinds : Bool),
      w.tree.IsTree → ¬ Path.same root standardInput = true →
      Path.same selector.root root = true → w.IsUnruled root allKinds →
        ∃ paths : List Text, paths.Pairwise Path.Precedes ∧ paths.Nodup ∧
          (∀ path, path ∈ paths ↔ ∃ content, w.Holds root path (.file content)) ∧
          (discoverFiles w root selector allKinds).files =
            (paths.filter selector.isSelected).map .ofPath := by
  constructor
  · intro rules directory path h hpath
    have hexcluded := SelectionRules.isExcluded_of_excludesDirectory h hpath
    exact ⟨hexcluded, SelectionRules.shouldScan_eq_false hexcluded⟩
  · intro w root selector allKinds hw hroot hselector hrules
    have hsorted := @Workspace.pairwise_filePaths w root hw
    exact ⟨w.filePaths root, hsorted, hsorted.imp Path.Precedes.ne, Workspace.mem_filePaths hw,
      files_discoverFiles_of_isUnruled hw hroot hselector hrules⟩

def vendored : Workspace where
  cwd := []
  tree := .directory [("vendor".toList, .directory [("lib.js".toList, .file [])]),
    ("main.js".toList, .file [])]

def vendoredSelector : Selector :=
  ⟨".".toList, "pkg".toList, { exclude := ["pkg/vendor/**".toList] }⟩

theorem isTree_vendored : vendored.tree.IsTree := by
  have hvendor : (Entry.directory [("lib.js".toList, .file [])]).IsTree :=
    .directory (by decide) (by decide) (List.forall_mem_singleton.2 (.file _))
  exact .directory (by decide) (by decide)
    (List.forall_mem_cons.2 ⟨hvendor, List.forall_mem_singleton.2 (.file _)⟩)

theorem isUnruled_vendored : vendored.IsUnruled "./".toList true := by
  constructor
  · rintro path entries ⟨e, names, he, hat, rfl⟩
    obtain rfl : vendored.tree = e := Except.ok.inj he
    have hplace : names = [] ∨ names = ["vendor".toList] := by
      cases names with
      | nil => exact .inl rfl
      | cons name names =>
        obtain ⟨next, hlookup, hnext⟩ := Entry.at?_cons.1 hat
        obtain ⟨rfl, rfl⟩ | ⟨rfl, rfl⟩ := by
          simpa [vendored, Entry.entries] using Entry.mem_of_lookup hlookup
        · cases names with
          | nil => exact .inr rfl
          | cons inside names =>
            obtain ⟨last, hlast, hnext⟩ := Entry.at?_cons.1 hnext
            obtain ⟨-, rfl⟩ := by simpa [Entry.entries] using Entry.mem_of_lookup hlast
            cases (Entry.eq_nil_of_at? rfl hnext).2
        · cases (Entry.eq_nil_of_at? rfl hnext).2
    rcases hplace with rfl | rfl
    · exact ⟨rfl, rfl, rfl, rfl⟩
    · exact ⟨rfl, rfl, rfl, rfl⟩
  · intro _ directory hdirectory
    cases hdirectory

/-- The file below the excluded directory is not selected, and the other one is found. -/
theorem files_discoverFiles_vendored :
    vendoredSelector.isPruned "./vendor".toList = true ∧
      Path.same vendoredSelector.root "./".toList = true ∧
      ∃ paths : List Text, paths.Pairwise Path.Precedes ∧ "./vendor/lib.js".toList ∈ paths ∧
        (discoverFiles vendored "./".toList vendoredSelector true).files =
          (paths.filter vendoredSelector.isSelected).map .ofPath := by
  have hroot : ¬ Path.same "./".toList standardInput = true := by decide
  have hselector : Path.same vendoredSelector.root "./".toList = true := by decide
  obtain ⟨paths, hsorted, -, hmem, hfiles⟩ := files_discoverFiles.2 vendored "./".toList
    vendoredSelector true isTree_vendored hroot hselector isUnruled_vendored
  refine ⟨by decide, hselector, paths, hsorted, ?_, hfiles⟩
  exact (hmem _).2 ⟨[], vendored.tree, ["vendor".toList, "lib.js".toList], rfl, rfl, rfl⟩

end SecretScan
