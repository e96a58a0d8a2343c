import Mathlib.Data.List.Infix
import SecretScan.Project
import SecretScan.Proofs.PathDescent
import SecretScan.Proofs.UnprunedWalk

/-!
What labels of paths look like. A label has no backslashes, and of the `./` in front of a path it
leaves out one. So a label starts with `./`, and changes when it is taken for a path, exactly when
the path starts with `./` twice; and the label of a relative path starts with a slash exactly when a
slash follows its `./`, or when it starts with a backslash. In a walk the label of a file is the
label of the root, with a slash at its end, and the way from there, so that the spelling of the root
decides about all of them.
-/

namespace SecretScan

namespace Path

def dotSlash : Text := ['.', '/']

def slashed (path : Text) : Text :=
  Text.replaceChar '\\' '/' path

theorem backslash_not_mem_slashed (path : Text) : '\\' ∉ slashed path := by
  intro h
  obtain ⟨c, -, hc⟩ := List.mem_map.1 h
  by_cases hback : (c == '\\') = true
  · rw [if_pos hback] at hc
    simp at hc
  · rw [if_neg hback] at hc
    exact hback (by simp [hc])

theorem slashed_append (a b : Text) : slashed (a ++ b) = slashed a ++ slashed b :=
  List.map_append

theorem slashed_of_not_mem {path : Text} (h : '\\' ∉ path) : slashed path = path :=
  Text.replaceChar_of_not_mem '/' h

theorem getLast?_slashed {path : Text} (h : path.getLast? = some '/') :
    (slashed path).getLast? = some '/' := by
  rw [slashed, Text.replaceChar, List.getLast?_map, h]
  rfl

theorem slash_slashed_iff (path : Text) :
    ['/'] <+: slashed path ↔ ['/'] <+: path ∨ ['\\'] <+: path := by
  cases path with
  | nil => simp [slashed, Text.replaceChar]
  | cons c path =>
    by_cases hback : c = '\\'
    · simp [slashed, Text.replaceChar, hback]
    · simp [slashed, Text.replaceChar, hback, Ne.symm hback]

/-- A label is what stands behind `./`, or else the whole path. -/
theorem label_cases (path : Text) :
    slashed path = dotSlash ++ label path ∨
      ¬ dotSlash <+: slashed path ∧ label path = slashed path := by
  unfold label
  split
  · rename_i rest hrest
    exact .inl hrest
  · rename_i hwhole
    refine .inr ⟨?_, rfl⟩
    intro ⟨rest, hrest⟩
    exact hwhole rest hrest.symm

theorem backslash_not_mem_label (path : Text) : '\\' ∉ label path := by
  intro hmem
  apply backslash_not_mem_slashed path
  rcases label_cases path with h | ⟨-, h⟩
  · rw [h]
    exact List.mem_append_right _ hmem
  · rw [← h]
    exact hmem

section Front

variable (path : Text)

theorem prefix_label_iff (front : Text) :
    front <+: label path ↔
      dotSlash ++ front <+: slashed path ∨ ¬ dotSlash <+: slashed path ∧ front <+: slashed path := by
  rcases label_cases path with h | ⟨hnot, h⟩
  · rw [h, List.prefix_append_right_inj]
    simp
  · have hlong : ¬ dotSlash ++ front <+: slashed path := by
      intro hlong
      exact hnot ((List.prefix_append _ _).trans hlong)
    simp [h, hnot, hlong]

theorem dotSlash_label_iff :
    dotSlash <+: label path ↔ dotSlash ++ dotSlash <+: slashed path := by
  rw [prefix_label_iff]
  tauto

/-- The label of a relative path starts with a slash when a slash follows the `./` of the path, or
when the path starts with a backslash. -/
theorem slash_label_iff (h : ¬ ['/'] <+: path) :
    ['/'] <+: label path ↔ ['\\'] <+: path ∨ dotSlash ++ ['/'] <+: slashed path := by
  have hslash : ['/'] <+: slashed path ↔ ['\\'] <+: path := by
    rw [slash_slashed_iff]
    tauto
  have hfront : ['/'] <+: slashed path → ¬ dotSlash <+: slashed path := by
    intro ⟨rest, hrest⟩ hdot
    rw [← hrest] at hdot
    simp [dotSlash] at hdot
  rw [prefix_label_iff, ← hslash]
  tauto

end Front

/-- The texts that are their own labels. -/
theorem label_eq_self_iff {text : Text} (h : '\\' ∉ text) :
    label text = text ↔ ¬ dotSlash <+: text := by
  have hcases := label_cases text
  rw [slashed_of_not_mem h] at hcases
  rcases hcases with hfront | ⟨hnot, hself⟩
  · constructor
    · intro hself
      rw [hself] at hfront
      have hlength := congrArg List.length hfront
      simp only [dotSlash, List.length_append, List.length_cons, List.length_nil] at hlength
      omega
    · intro hnot
      exact absurd ⟨label text, hfront.symm⟩ hnot
  · simp [hnot, hself]

theorem label_label_iff (path : Text) :
    label (label path) = label path ↔ ¬ dotSlash ++ dotSlash <+: slashed path := by
  rw [label_eq_self_iff (backslash_not_mem_label path), dotSlash_label_iff]

section Descent

/-- What is put behind a slash has no part in a `./` in front. -/
theorem dotSlash_append_iff {front : Text} (h : front.getLast? = some '/') (more : Text) :
    dotSlash <+: front ++ more ↔ dotSlash <+: front := by
  constructor
  · intro hlong
    rcases List.prefix_or_prefix_of_prefix hlong (List.prefix_append front more) with hfront | hfront
    · exact hfront
    · have hbeginning : front = [] ∨ front = ['.'] ∨ front = dotSlash := by
        simpa [dotSlash] using (List.mem_inits front dotSlash).2 hfront
      rcases hbeginning with rfl | rfl | rfl
      · cases h
      · simp at h
      · exact List.prefix_refl _
  · intro hfront
    exact hfront.trans (List.prefix_append front more)

theorem label_append {front : Text} (h : front.getLast? = some '/') (more : Text) :
    label (front ++ more) = label front ++ slashed more := by
  rcases label_cases front with hfront | ⟨hnot, hwhole⟩
  · rcases label_cases (front ++ more) with hlong | ⟨hnot, -⟩
    · rw [slashed_append, hfront, List.append_assoc] at hlong
      exact (List.append_cancel_left hlong).symm
    · rw [slashed_append, hfront, List.append_assoc] at hnot
      exact absurd (List.prefix_append _ _) hnot
  · rw [hwhole, ← slashed_append]
    rcases label_cases (front ++ more) with hlong | ⟨-, hlong⟩
    · have hdot : dotSlash <+: slashed front ++ slashed more := by
        rw [← slashed_append, hlong]
        exact List.prefix_append _ _
      exact absurd ((dotSlash_append_iff (getLast?_slashed h) _).1 hdot) hnot
    · exact hlong

variable {root : Text} {names : List Text}

/-- The label of what lies below a directory: that of the directory, and the way from there. -/
theorem label_descend (hroot : root ≠ []) (hnames : ∀ name ∈ names, Entry.IsName name)
    (hne : names ≠ []) :
    label (names.foldl join root) =
      label (asDirectory root) ++ slashed (Text.join ['/'] names) := by
  rw [descend_eq hroot hnames hne, label_append (getLast?_asDirectory hroot)]

/-- Written one behind the other, names neither start with a `./` nor with a slash. -/
theorem not_prefix_join (hnames : ∀ name ∈ names, Entry.IsName name) (hne : names ≠ []) :
    ¬ dotSlash <+: Text.join ['/'] names ∧ ¬ ['/'] <+: Text.join ['/'] names := by
  have hfirst {front rest : Text} (hfront : '/' ∉ front)
      (h : front ++ '/' :: rest = Text.join ['/'] names) : front ∈ names := by
    have hsplit := Text.splitOn_join hne fun name hname => (hnames name hname).slash_not_mem
    rw [← h, Text.splitOn_append_sep, Text.splitOn_of_not_mem hfront] at hsplit
    rw [← hsplit]
    exact List.mem_cons_self
  constructor
  · intro ⟨rest, hrest⟩
    have hdot : ['.'] ∈ names := hfirst (by simp) hrest
    exact (hnames _ hdot).ne_dot rfl
  · intro ⟨rest, hrest⟩
    have hblank : [] ∈ names := hfirst List.not_mem_nil hrest
    exact (hnames _ hblank).ne_nil rfl

theorem getLast?_label {path : Text} (h : path.getLast? = some '/') (hne : label path ≠ []) :
    (label path).getLast? = some '/' := by
  have hlast := getLast?_slashed h
  rcases label_cases path with hfront | ⟨-, hwhole⟩
  · rwa [hfront, List.getLast?_append_of_ne_nil _ hne] at hlast
  · rwa [hwhole]

/-- Where names have no backslashes the spelling of the directory alone decides how the label of
what lies below it starts. -/
theorem prefix_label_descend_iff (hroot : root ≠ []) (hnames : ∀ name ∈ names, Entry.IsName name)
    (hne : names ≠ []) (hplain : ∀ name ∈ names, '\\' ∉ name) :
    (dotSlash <+: label (names.foldl join root) ↔ dotSlash <+: label (asDirectory root)) ∧
      (['/'] <+: label (names.foldl join root) ↔ ['/'] <+: label (asDirectory root)) := by
  have hway := slashed_of_not_mem (backslash_not_mem_join hplain)
  obtain ⟨hdot, hslash⟩ := not_prefix_join hnames hne
  rw [label_descend hroot hnames hne, hway]
  by_cases hempty : label (asDirectory root) = []
  · have hnone : ¬ dotSlash <+: [] ∧ ¬ ['/'] <+: [] := by decide
    rw [hempty, List.nil_append]
    tauto
  · constructor
    · exact dotSlash_append_iff (getLast?_label (getLast?_asDirectory hroot) hempty) _
    · obtain ⟨c, rest, hc⟩ := List.exists_cons_of_ne_nil hempty
      simp [hc]

end Descent

end Path

section Gathered

variable {s : ProjectScanner} {w : Workspace} {root : Text} {f : SourceFile}

/-- Every file that is gathered from a root, be it the root or below it, carries the label of its
path, and names lead to it from the root. -/
theorem ProjectScanner.of_mem_gather (hw : w.tree.IsTree)
    (h : f ∈ (s.gather w root).found.files) :
    f.label = Path.label f.path ∧ root ≠ [] ∧ ∃ names : List Text,
      (∀ name ∈ names, Entry.IsName name) ∧ f.path = names.foldl Path.join root := by
  rw [gather] at h
  split at h
  · rename_i hfile
    obtain ⟨content, hentry⟩ := Workspace.isFile_iff.1 hfile
    obtain rfl := List.mem_singleton.1 h
    exact ⟨rfl, Workspace.ne_nil_of_entry hentry, [], List.forall_mem_nil _, rfl⟩
  · have hfile := files_discoverFiles_subset hw root _ _ h
    obtain ⟨path, hpath, rfl⟩ := List.mem_map.1 hfile
    obtain ⟨content, e, names, hentry, hat, rfl⟩ :=
      (Workspace.mem_filePaths hw path).1 (List.mem_filter.1 hpath).1
    have hnames := ((Workspace.isTree_of_entry hw hentry).at? hat).1
    exact ⟨rfl, Workspace.ne_nil_of_entry hentry, names, hnames, rfl⟩

end Gathered

namespace Path

/-- A label has no backslash. It starts with `./`, and is not its own label, exactly when `./` stands
twice in front of the path; where the path is relative, it starts with a slash exactly when a slash
follows the `./` or a backslash stands in front. This is the label of every file that is gathered by
the path, be it a root itself or below one. Below a directory it is the label of the directory, with
a slash at its end, and the way from there, so that where names have no backslashes it starts as the
directory makes it start. -/
theorem label_starts_iff (path : Text) :
    ('\\' ∉ label path ∧
      (dotSlash <+: label path ↔ dotSlash ++ dotSlash <+: slashed path) ∧
      (label (label path) = label path ↔ ¬ dotSlash ++ dotSlash <+: slashed path) ∧
      (¬ ['/'] <+: path →
        (['/'] <+: label path ↔ ['\\'] <+: path ∨ dotSlash ++ ['/'] <+: slashed path))) ∧
    ∀ (s : ProjectScanner) (w : Workspace) (root : Text), w.tree.IsTree →
      ∀ f ∈ (s.gather w root).found.files, f.path = path →
        f.label = label path ∧ ∃ names : List Text, (∀ name ∈ names, Entry.IsName name) ∧
          path = names.foldl join root ∧
          (names ≠ [] → label path = label (asDirectory root) ++ slashed (Text.join ['/'] names)) ∧
          (names ≠ [] → (∀ name ∈ names, '\\' ∉ name) →
            (dotSlash <+: label path ↔ dotSlash <+: label (asDirectory root)) ∧
              (['/'] <+: label path ↔ ['/'] <+: label (asDirectory root))) := by
  constructor
  · exact ⟨backslash_not_mem_label path, dotSlash_label_iff path, label_label_iff path,
      slash_label_iff path⟩
  · intro s w root hw f hf hpath
    obtain ⟨hlabel, hroot, names, hnames, hway⟩ := ProjectScanner.of_mem_gather hw hf
    rw [hpath] at hlabel hway
    refine ⟨hlabel, names, hnames, hway, ?_⟩
    rw [hway]
    exact ⟨label_descend hroot hnames, prefix_label_descend_iff hroot hnames⟩

def nested : Workspace where
  cwd := []
  tree := .directory [("conf".toList, .directory [("prod.env".toList, .file [])])]

def plainScanner : ProjectScanner where
  options := {}
  rules := {}

/-- A directory that is spelled with `./` twice gives the file in it a label with `./` in front, and
one that is spelled with two slashes gives it a label like that of an absolute path. -/
theorem label_starts_iff_nested :
    nested.tree.IsTree ∧
      (∃ f ∈ (plainScanner.gather nested "././conf".toList).found.files, dotSlash <+: f.label) ∧
      ∃ f ∈ (plainScanner.gather nested ".//conf".toList).found.files,
        ¬ ['/'] <+: f.path ∧ ['/'] <+: f.label := by
  have hconf : (Entry.directory [("prod.env".toList, .file [])]).IsTree :=
    .directory (by decide) (by decide) (List.forall_mem_singleton.2 (.file _))
  have htree : nested.tree.IsTree :=
    .directory (by decide) (by decide) (List.forall_mem_singleton.2 hconf)
  have hdots : (.ofPath "././conf/prod.env".toList) ∈
      (plainScanner.gather nested "././conf".toList).found.files := by decide +kernel
  have hslashes : (.ofPath ".//conf/prod.env".toList) ∈
      (plainScanner.gather nested ".//conf".toList).found.files := by decide +kernel
  refine ⟨htree, ⟨_, hdots, ?_⟩, _, hslashes, by decide, ?_⟩
  · obtain ⟨-, hfiles⟩ := label_starts_iff "././conf/prod.env".toList
    obtain ⟨hlabel, names, hnames, hpath, -, hstarts⟩ := hfiles _ _ _ htree _ hdots rfl
    have hway : [".".toList, "conf".toList] ++ ["prod.env".toList] =
        [".".toList, "conf".toList] ++ names :=
      (congrArg components hpath).trans (components_descend _ hnames)
    obtain rfl : ["prod.env".toList] = names := List.append_cancel_left hway
    have hfront : dotSlash <+: label (asDirectory "././conf".toList) := by decide
    rw [hlabel]
    exact (hstarts (List.cons_ne_nil _ _) (by decide)).1.2 hfront
  · obtain ⟨⟨-, -, -, hslash⟩, hfiles⟩ := label_starts_iff ".//conf/prod.env".toList
    rw [(hfiles _ _ _ htree _ hslashes rfl).1]
    exact (hslash (by decide)).2 (.inr (by decide))

/-- So it is not true that labels never start with `./`, stay as they are when they are labelled
again, and start with no slash where the path is relative. -/
theorem not_all_labels_plain :
    ¬ ∀ path, '\\' ∉ label path ∧ ¬ dotSlash <+: label path ∧ label (label path) = label path ∧
      (¬ ['/'] <+: path → ¬ ['/'] <+: label path) := by
  intro h
  obtain ⟨-, hfront, -⟩ := h "././conf".toList
  exact hfront (by decide)

end Path

end SecretScan
