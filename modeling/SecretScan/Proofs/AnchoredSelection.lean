import SecretScan.FileTree.Workspace
import SecretScan.Proofs.GlobTable
import SecretScan.Proofs.PrunedDirectories

/-!
Selection in a part of a project. A selector whose root lies in a project, and that is anchored at
this project, knows a path by the way from the project to the root and the way from there; a
selector of the project itself knows it by the whole way. Paths in relative form are determined by
their segments, and both ways have the same segments, so the two selectors decide alike.
-/

namespace SecretScan

namespace Path

theorem stripBase?_eq_some_iff {base path : Text} {names : List Text} :
    stripBase? base path = some names ↔ components path = components base ++ names := by
  simp only [stripBase?]
  constructor
  · intro h
    split at h
    · rename_i hbase
      obtain ⟨rest, hrest⟩ := List.isPrefixOf_iff_prefix.1 hbase
      rw [← hrest, List.drop_left] at h
      rw [← hrest, Option.some.inj h]
    · cases h
  · intro h
    have hbase : (components base).isPrefixOf (components path) = true := by
      rw [h]
      exact List.isPrefixOf_iff_prefix.2 (List.prefix_append _ _)
    rw [if_pos hbase, h, List.drop_left]

theorem stripBase?_eq_none_iff {base path : Text} :
    stripBase? base path = none ↔ ¬ components base <+: components path := by
  rw [Option.eq_none_iff_forall_not_mem]
  constructor
  · rintro h ⟨names, hnames⟩
    exact h names (stripBase?_eq_some_iff.2 hnames.symm)
  · intro h names hnames
    apply h
    exact ⟨names, (stripBase?_eq_some_iff.1 hnames).symm⟩

theorem eq_of_segments {a b : Text} (ha : relative a = a) (hb : relative b = b)
    (h : segments a = segments b) : a = b := by
  rw [← ha, ← hb, relative, h, relative]

/-- In relative form, a path is split at its slashes into its segments. -/
theorem splitOn_of_relative {path : Text} (h : relative path = path) (hne : path ≠ []) :
    Text.splitOn '/' path = segments path := by
  have hpieces : pieces path = segments path := by
    rw [← segments_relative path, ← pieces_relative, h, h]
  rwa [pieces, if_neg (by simpa using hne)] at hpieces

theorem relative_append_slash {a b : Text} (ha : relative a = a) (hb : relative b = b)
    (hane : a ≠ []) (hbne : b ≠ []) : relative (a ++ '/' :: b) = a ++ '/' :: b := by
  rw [relative, segments_append_slash, ← splitOn_of_relative ha hane,
    ← splitOn_of_relative hb hbne, ← Text.splitOn_append_sep, Text.join_splitOn]

end Path

namespace Selector

variable {path : Text}

/-- With an offset in relative form, paths below the root are seen in relative form. -/
theorem relative_relativePath (s : Selector) (h : Path.relative s.offset = s.offset)
    {names : List Text} (hpath : Path.stripBase? s.root path = some names) :
    Path.relative (s.relativePath path) = s.relativePath path := by
  have hbelow := Path.relative_relative (Text.join ['/'] names)
  simp only [relativePath, hpath]
  by_cases hoffset : s.offset = []
  · rw [if_pos (List.isEmpty_iff.2 hoffset)]
    exact hbelow
  · rw [if_neg (mt List.isEmpty_iff.1 hoffset)]
    by_cases hempty : Path.relative (Text.join ['/'] names) = []
    · rw [if_pos (List.isEmpty_iff.2 hempty)]
      exact h
    · rw [if_neg (mt List.isEmpty_iff.1 hempty)]
      exact Path.relative_append_slash h hbelow hoffset hempty

/-- The names between a project and a path, in relative form, are how the path is seen from the
project. -/
theorem relativePath_eq (s : Selector) (h : Path.relative s.offset = s.offset)
    {names way : List Text} (hpath : Path.stripBase? s.root path = some names)
    (hoffset : Path.segments s.offset = way.flatMap Path.segments) :
    s.relativePath path = Path.relative (Text.join ['/'] (way ++ names)) := by
  apply Path.eq_of_segments (s.relative_relativePath h hpath) (Path.relative_relative _)
  rw [s.segments_relativePath hpath, hoffset, Path.segments_relative, Path.segments_join,
    List.flatMap_append]

variable {project root : Text} {offset below : List Text} (rules : SelectionRules)

/-- A selector of a project sees a path by the whole way from there. -/
theorem relativePath_new (h : Path.components path = Path.components project ++ below) :
    (new project rules).relativePath path = Path.relative (Text.join ['/'] below) := by
  have hoffset : Path.segments (new project rules).offset = [].flatMap Path.segments := rfl
  exact relativePath_eq _ rfl (Path.stripBase?_eq_some_iff.2 h) hoffset

section Anchored

variable {resolve : Text → Text}

/-- A selector that is anchored at the project of its root: its offset is the way between them. -/
theorem anchoredAt_of_within
    (h : Path.components (resolve root) = Path.components (resolve project) ++ offset) :
    (new root rules).anchoredAt resolve project =
      ⟨root, Path.relative (Text.join ['/'] offset), rules⟩ := by
  have hstrip := Path.stripBase?_eq_some_iff.2 h
  simp only [anchoredAt, new, hstrip]

theorem anchoredAt_of_not_within (s : Selector)
    (h : ¬ Path.components (resolve project) <+: Path.components (resolve s.root)) :
    s.anchoredAt resolve project = s := by
  simp only [anchoredAt, Path.stripBase?_eq_none_iff.2 h]

/-- It sees a path by the way from the project to the root and from there. -/
theorem relativePath_anchoredAt
    (hroot : Path.components (resolve root) = Path.components (resolve project) ++ offset)
    (hpath : Path.components path = Path.components root ++ below) :
    ((new root rules).anchoredAt resolve project).relativePath path =
      Path.relative (Text.join ['/'] (offset ++ below)) := by
  rw [anchoredAt_of_within rules hroot]
  apply relativePath_eq
  · exact Path.relative_relative _
  · exact Path.stripBase?_eq_some_iff.2 hpath
  · rw [Path.segments_relative, Path.segments_join]

end Anchored

/-- A root in a project, and both of them found where they are written: anchored at the project, a
selector of the root sees every path from the root on by its way from the project, as a selector of
the project does, and so it selects the same files and passes over the same directories. Anchored
where its root does not lie, it is the same selector as before. -/
theorem anchoredAt_agrees (resolve : Text → Text) (rules : SelectionRules)
    (hproject : Path.same (resolve project) project = true)
    (hroot : Path.same (resolve root) root = true) :
    (∀ offset, Path.components root = Path.components project ++ offset →
      ∀ path below, Path.components path = Path.components root ++ below →
        ((new root rules).anchoredAt resolve project).relativePath path =
            (new project rules).relativePath path ∧
          (new project rules).relativePath path =
            Path.relative (Text.join ['/'] (offset ++ below)) ∧
          ((new root rules).anchoredAt resolve project).isSelected path =
            (new project rules).isSelected path ∧
          (below ≠ [] → ((new root rules).anchoredAt resolve project).isPruned path =
            (new project rules).isPruned path)) ∧
      (¬ Path.components project <+: Path.components root →
        (new root rules).anchoredAt resolve project = new root rules) := by
  have hproject : Path.components (resolve project) = Path.components project := eq_of_beq hproject
  have hroot : Path.components (resolve root) = Path.components root := eq_of_beq hroot
  constructor
  · intro offset hoffset path below hpath
    have hwithin :
        Path.components (resolve root) = Path.components (resolve project) ++ offset := by
      rw [hroot, hproject, hoffset]
    have hwhole : Path.components path = Path.components project ++ (offset ++ below) := by
      rw [hpath, hoffset, List.append_assoc]
    have hnew := relativePath_new rules hwhole
    have hsame : ((new root rules).anchoredAt resolve project).relativePath path =
        (new project rules).relativePath path := by
      rw [relativePath_anchoredAt rules hwithin hpath, hnew]
    have hanchored := anchoredAt_of_within rules hwithin
    refine ⟨hsame, hnew, ?_, ?_⟩
    · unfold isSelected
      rw [hsame, hanchored]
      rfl
    · intro hbelow
      have hnotSame {base : Text} {names : List Text} (hnames : names ≠ [])
          (h : Path.components path = Path.components base ++ names) :
          Path.same path base = false := by
        apply beq_false_of_ne
        rw [h]
        intro heq
        exact hnames (List.append_right_eq_self.1 heq)
      unfold isPruned
      rw [hsame, hanchored]
      have hroot := hnotSame hbelow hpath
      have hproject := hnotSame (List.append_ne_nil_of_right_ne_nil offset hbelow) hwhole
      show (!Path.same path root && _) = (!Path.same path project && _)
      rw [hroot, hproject]
      rfl
  · intro hnot
    apply anchoredAt_of_not_within
    rw [hproject, show (new root rules).root = root from rfl, hroot]
    exact hnot

def blankWorkspace : Workspace where
  tree := .directory []
  cwd := []

def packageRules : SelectionRules where
  exclude := ["pkg/src/vendor/**".toList]

/-- A scan of the package passes over the directory, as a scan of the project does, although a
backslash stands in the path of the package. -/
theorem anchoredAt_agrees_package :
    Path.same (blankWorkspace.canonical "proj/".toList) "proj/".toList = true ∧
      Path.same (blankWorkspace.canonical "proj//pkg\\src/.".toList)
        "proj//pkg\\src/.".toList = true ∧
      Path.components "proj//pkg\\src/.".toList =
        Path.components "proj/".toList ++ ["pkg\\src".toList] ∧
      ((new "proj//pkg\\src/.".toList packageRules).anchoredAt blankWorkspace.canonical
          "proj/".toList).isPruned "proj/pkg\\src/./vendor".toList =
        (new "proj/".toList packageRules).isPruned "proj/pkg\\src/./vendor".toList ∧
      (new "proj/".toList packageRules).isPruned "proj/pkg\\src/./vendor".toList = true := by
  have hproject : Path.same (blankWorkspace.canonical "proj/".toList) "proj/".toList = true := by
    decide
  have hroot : Path.same (blankWorkspace.canonical "proj//pkg\\src/.".toList)
      "proj//pkg\\src/.".toList = true := by
    decide
  have hoffset : Path.components "proj//pkg\\src/.".toList =
      Path.components "proj/".toList ++ ["pkg\\src".toList] := by
    decide
  have hpath : Path.components "proj/pkg\\src/./vendor".toList =
      Path.components "proj//pkg\\src/.".toList ++ ["vendor".toList] := by
    decide
  obtain ⟨hinside, -⟩ := anchoredAt_agrees blankWorkspace.canonical packageRules hproject hroot
  obtain ⟨-, -, -, hpruned⟩ := hinside _ hoffset _ _ hpath
  exact ⟨hproject, hroot, hoffset, hpruned (List.cons_ne_nil _ _), by decide⟩

end Selector

end SecretScan
