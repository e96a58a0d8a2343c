import SecretScan.Proofs.GlobLanguage
import SecretScan.Selection.Selector

/-!
Directories that the selection rules leave out. A pattern covers a directory when its final double
stars stand behind a glob that the directory matches; the pattern then matches every path below the
directory too, because it is read as a glob and not as an extension. So a selector that prunes a
directory selects nothing below it, whatever the names on the way are.
-/

namespace SecretScan

namespace Path

theorem segments_nil : segments [] = [] := rfl

/-- The segments of names that are written one behind the other are those of each name in turn. -/
theorem segments_join (names : List Text) :
    segments (Text.join ['/'] names) = names.flatMap segments := by
  induction names with
  | nil => rfl
  | cons name names ih =>
    cases names with
    | nil =>
      have hone : Text.join ['/'] [name] = name := by simp [Text.join, List.intercalate]
      rw [hone, List.flatMap_cons, List.flatMap_nil, List.append_nil]
    | cons next rest =>
      rw [Text.join_cons_cons, List.append_assoc, List.singleton_append, segments_append_slash, ih]
      rfl

theorem slash_not_mem_relative {s : Text} (hslash : '/' ∉ s) (hback : '\\' ∉ s) :
    '/' ∉ relative s := by
  rw [relative, segments, Text.replaceChar_of_not_mem '/' hback, Text.splitOn_of_not_mem hslash,
    List.filter_singleton]
  cases !s.isEmpty && s != ['.'] with
  | true => simpa [Text.join, List.intercalate] using hslash
  | false => simp [Text.join, List.intercalate]

theorem segments_anyDepth : segments Glob.anyDepth = [Glob.anyDepth] := rfl

end Path

namespace SelectionRules

/-- A pattern that asks for an extension has no slash in it, not even around its blanks. -/
theorem not_mem_of_extension? {pattern extension : Text}
    (h : extension? pattern = some extension) : '/' ∉ pattern ∧ '\\' ∉ pattern := by
  obtain ⟨before, behind, hpattern, hbefore, hbehind⟩ := Text.exists_eq_trim pattern
  rw [List.all_eq_true] at hbefore hbehind
  have hblank (c : Char) (hc : Text.isWhitespace c = false) (hpart : c ∉ Text.trim pattern) :
      c ∉ pattern := by
    rw [hpattern, List.mem_append, List.mem_append]
    rintro ((hmem | hmem) | hmem)
    · rw [hbefore c hmem] at hc
      cases hc
    · exact hpart hmem
    · rw [hbehind c hmem] at hc
      cases hc
  unfold extension? at h
  split at h
  · rename_i rest hrest
    split at h
    · cases h
    · rename_i hplain
      simp only [Bool.or_eq_true, List.any_eq_true, not_or, not_exists, not_and] at hplain
      constructor
      · refine hblank '/' rfl ?_
        rw [hrest]
        intro hmem
        simpa using hplain.2 '/' (by simpa using hmem)
      · refine hblank '\\' rfl ?_
        rw [hrest]
        intro hmem
        simpa using hplain.2 '\\' (by simpa using hmem)
  · cases h

/-- What a pattern covers, in segments: the double stars at its end are cut off. -/
theorem segments_of_coveredDirectory? {pattern glob : Text}
    (h : coveredDirectory? pattern = some glob) :
    Path.segments pattern = Path.segments glob ++ [Glob.anyDepth] := by
  simp only [coveredDirectory?] at h
  split at h
  · rename_i hstars
    obtain ⟨front, hfront⟩ := List.isSuffixOf_iff_suffix.1 hstars
    obtain rfl := Option.some.inj h
    have hstars : "/**".toList = '/' :: Glob.anyDepth := rfl
    rw [← Path.segments_relative pattern, ← hfront, hstars, Path.segments_append_slash,
      Path.segments_anyDepth]
    simp [Glob.anyDepth]
  · cases h

/-- A pattern that covers directories is read as a glob. -/
theorem extension?_of_coveredDirectory? {pattern glob : Text}
    (h : coveredDirectory? pattern = some glob) : extension? pattern = none := by
  cases hextension : extension? pattern with
  | none => rfl
  | some extension =>
    obtain ⟨hslash, hback⟩ := not_mem_of_extension? hextension
    have hform : '/' ∉ Path.relative pattern := Path.slash_not_mem_relative hslash hback
    simp only [coveredDirectory?] at h
    split at h
    · rename_i hstars
      exact absurd ((List.isSuffixOf_iff_suffix.1 hstars).mem (by simp)) hform
    · cases h

/-- An exclude that covers a directory matches every path below it. -/
theorem patternMatches_of_covered {pattern glob directory path : Text}
    (h : coveredDirectory? pattern = some glob)
    (hglob : Glob.accepts (Path.relative directory) glob = true)
    (hpath : Path.segments directory <+: Path.segments path) :
    patternMatches (Path.relative path) pattern = true := by
  obtain ⟨below, hbelow⟩ := hpath
  have hdirectory : Glob.Matches (Path.segments glob) (Path.segments directory) := by
    rw [← Path.segments_relative directory]
    exact (Glob.accepts_iff _ _).1 hglob
  simp only [patternMatches, extension?_of_coveredDirectory? h]
  rw [Glob.accepts_iff, Path.segments_relative, segments_of_coveredDirectory? h, ← hbelow]
  exact hdirectory.append_anyDepth below

/-- Below an excluded directory everything is excluded. -/
theorem isExcluded_of_excludesDirectory {rules : SelectionRules} {directory path : Text}
    (h : rules.excludesDirectory directory = true)
    (hpath : Path.segments directory <+: Path.segments path) : rules.isExcluded path = true := by
  obtain ⟨pattern, hpattern, hcovers⟩ := List.any_eq_true.1 h
  cases hcovered : coveredDirectory? pattern with
  | none => simp [hcovered] at hcovers
  | some glob =>
    simp only [hcovered, Bool.and_eq_true] at hcovers
    exact List.any_eq_true.2
      ⟨pattern, hpattern, patternMatches_of_covered hcovered hcovers.2 hpath⟩

theorem shouldScan_eq_false {rules : SelectionRules} {path : Text}
    (h : rules.isExcluded path = true) : rules.shouldScan path = false := by
  have hrelative : rules.isExcluded (Path.relative path) = true := by
    rwa [isExcluded, Path.relative_relative]
  simp [shouldScan, hrelative]

end SelectionRules

namespace Selector

/-- The path as globs see it is made of the segments of the offset and those below the root. -/
theorem segments_relativePath (s : Selector) {path : Text} {names : List Text}
    (h : Path.stripBase? s.root path = some names) :
    Path.segments (s.relativePath path) = Path.segments s.offset ++ names.flatMap Path.segments := by
  have hbelow : Path.segments (Path.relative (Text.join ['/'] names)) =
      names.flatMap Path.segments := by
    rw [Path.segments_relative, Path.segments_join]
  simp only [relativePath, h]
  split
  · rename_i hoffset
    rw [List.isEmpty_iff.1 hoffset, hbelow]
    rfl
  · split
    · rename_i hempty
      rw [← hbelow, List.isEmpty_iff.1 hempty, Path.segments_nil, List.append_nil]
    · rw [Path.segments_append_slash, hbelow]

/-- Nothing is selected below a directory that is passed over. -/
theorem not_isSelected_of_isPruned (s : Selector) {directory path : Text} {names below : List Text}
    (hdirectory : Path.stripBase? s.root directory = some names)
    (hpath : Path.stripBase? s.root path = some (names ++ below))
    (h : s.isPruned directory = true) : s.isSelected path = false := by
  have hcovers : s.rules.excludesDirectory (s.relativePath directory) = true :=
    (Bool.and_eq_true_iff.1 h).2
  refine SelectionRules.shouldScan_eq_false
    (SelectionRules.isExcluded_of_excludesDirectory hcovers ?_)
  rw [s.segments_relativePath hdirectory, s.segments_relativePath hpath, List.flatMap_append,
    ← List.append_assoc]
  exact List.prefix_append _ _

end Selector

end SecretScan
