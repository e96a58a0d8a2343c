import SecretScan.Proofs.GlobTable
import SecretScan.Selection.Rules

/-!
Relative forms as normal forms. A text is in normal form when it has no backslash and none of its
pieces between slashes is blank or a single dot; these are exactly the relative forms of paths, and
each of them is its own. Putting one path behind another puts their segments one behind the other.
Globs and selection rules look at a path through its relative form only, so they cannot tell two
spellings of one form apart.
-/

namespace SecretScan

namespace Path

/-- A text in normal form: no backslash stands in it, and each of its pieces is a name. -/
structure IsNormal (path : Text) : Prop where
  backslash_not_mem : '\\' ∉ path
  ne_of_mem_pieces : ∀ s ∈ pieces path, s ≠ [] ∧ s ≠ ['.']

theorem isNormal_relative (path : Text) : IsNormal (relative path) where
  backslash_not_mem := by
    apply backslash_not_mem_join
    intro s hs
    exact backslash_not_mem_of_mem_segments hs
  ne_of_mem_pieces := by
    intro s hs
    rw [pieces_relative] at hs
    simpa using (List.mem_filter.1 hs).2

/-- In normal form the pieces are the segments: nothing is exchanged and nothing is dropped. -/
theorem IsNormal.segments_eq {path : Text} (h : IsNormal path) : segments path = pieces path := by
  rw [segments, Text.replaceChar_of_not_mem '/' h.backslash_not_mem]
  by_cases hpath : path = []
  · rw [hpath]
    rfl
  · have hpieces : pieces path = Text.splitOn '/' path := if_neg (by simpa using hpath)
    rw [← hpieces]
    apply List.filter_eq_self.2
    intro s hs
    obtain ⟨hblank, hdot⟩ := h.ne_of_mem_pieces s hs
    simp [hblank, hdot]

theorem join_pieces (path : Text) : Text.join ['/'] (pieces path) = path := by
  by_cases hpath : path = []
  · rw [hpath]
    rfl
  · rw [pieces, if_neg (by simpa using hpath), Text.join_splitOn]

/-- The relative forms are the texts in normal form, each of which is its own. -/
theorem relative_eq_self_iff (path : Text) : relative path = path ↔ IsNormal path := by
  constructor
  · intro h
    rw [← h]
    exact isNormal_relative path
  · intro h
    rw [relative, h.segments_eq, join_pieces]

theorem relative_append (a b : Text) :
    relative (a ++ '/' :: b) =
      Text.join ['/'] (pieces (relative a) ++ pieces (relative b)) := by
  rw [relative, segments_append_slash, pieces_relative, pieces_relative]

end Path

section Decisions

variable (path : Text)

theorem Glob.accepts_relative (glob : Text) :
    accepts (Path.relative path) glob = accepts path glob := by
  rw [accepts, Path.segments_relative, accepts]

theorem SelectionRules.isExcluded_relative (rules : SelectionRules) :
    rules.isExcluded (Path.relative path) = rules.isExcluded path := by
  rw [isExcluded, Path.relative_relative, isExcluded]

theorem SelectionRules.excludesDirectory_relative (rules : SelectionRules) :
    rules.excludesDirectory (Path.relative path) = rules.excludesDirectory path := by
  simp only [excludesDirectory, Path.relative_relative]

theorem SelectionRules.shouldScan_relative (rules : SelectionRules) :
    rules.shouldScan (Path.relative path) = rules.shouldScan path := by
  simp only [shouldScan, Path.relative_relative]

end Decisions

namespace Path

/-- Whatever a path is, its relative form is in normal form and stays as it is when it is taken once
more, and a path that is in normal form is its own relative form. The form of two paths with a slash
between them has the pieces of the one form and then those of the other. Paths with one form are
accepted by the same globs, and all rules exclude both or neither of them, as files and as
directories, and scan both or neither. -/
theorem relative_canonical :
    (∀ path, IsNormal (relative path) ∧ relative (relative path) = relative path ∧
        (relative path = path ↔ IsNormal path)) ∧
      (∀ a b, relative (a ++ '/' :: b) =
        Text.join ['/'] (pieces (relative a) ++ pieces (relative b))) ∧
      ∀ p q, relative p = relative q →
        (∀ glob, Glob.accepts p glob = Glob.accepts q glob) ∧
          ∀ rules : SelectionRules,
            rules.isExcluded p = rules.isExcluded q ∧
              rules.excludesDirectory p = rules.excludesDirectory q ∧
              rules.shouldScan p = rules.shouldScan q := by
  refine ⟨?_, relative_append, ?_⟩
  · intro path
    exact ⟨isNormal_relative path, relative_relative path, relative_eq_self_iff path⟩
  intro p q h
  constructor
  · intro glob
    rw [← Glob.accepts_relative p, h, Glob.accepts_relative]
  · intro rules
    refine ⟨?_, ?_, ?_⟩
    · rw [← rules.isExcluded_relative p, h, rules.isExcluded_relative]
    · rw [← rules.excludesDirectory_relative p, h, rules.excludesDirectory_relative]
    · rw [← rules.shouldScan_relative p, h, rules.shouldScan_relative]

def libraryRules : SelectionRules where
  exclude := ["src/lib/**".toList]

/-- Both separators, blank segments and single dots make another spelling, which is excluded as the
short one is. -/
theorem relative_canonical_library :
    relative ".\\src\\\\lib/./a.js/".toList = relative "src/lib/a.js".toList ∧
      libraryRules.isExcluded ".\\src\\\\lib/./a.js/".toList =
        libraryRules.isExcluded "src/lib/a.js".toList ∧
      libraryRules.isExcluded "src/lib/a.js".toList = true := by
  have hform : relative ".\\src\\\\lib/./a.js/".toList = relative "src/lib/a.js".toList := by
    decide
  obtain ⟨-, -, hsame⟩ := relative_canonical
  obtain ⟨-, hrules⟩ := hsame _ _ hform
  exact ⟨hform, (hrules libraryRules).1, by decide +kernel⟩

end Path

end SecretScan
