import SecretScan.Proofs.GlobTable
import SecretScan.Proofs.PrunedDirectories
import SecretScan.Proofs.TextEncoding
import SecretScan.Proofs.WildcardLanguage

/-!
Extensions are globs. A pattern such as `*.log` is not compared as a glob: it asks of the last
segment of a path alone that it ends with the extension and has something in front of it. There is a
glob that asks for the same, which takes any segments and then one of some character, any more
characters and the extension. All patterns of selection rules can therefore be read as globs.
-/

namespace SecretScan

namespace Wildcard

/-- A pattern without wildcards fits itself alone. -/
theorem fits_of_plain {pattern : Text} (h : ∀ c ∈ pattern, c ≠ '*' ∧ c ≠ '?') (text : Text) :
    Fits pattern text ↔ text = pattern := by
  induction pattern generalizing text with
  | nil => exact fits_nil text
  | cons p pattern ih =>
    obtain ⟨hstar, hany⟩ := h p List.mem_cons_self
    have hbehind := ih fun c hc => h c (List.mem_cons_of_mem p hc)
    rw [fits_cons_of_ne hstar]
    constructor
    · intro ⟨c, rest, htext, hstands, hrest⟩
      rw [htext, (hbehind rest).1 hrest, hstands.2.resolve_left hany]
    · intro htext
      exact ⟨p, pattern, htext, ⟨hstar, .inr rfl⟩, (hbehind pattern).2 rfl⟩

/-- A question mark and a star in front of an ending ask for anything in front of it. -/
theorem fits_ending_iff {ending : Text} (h : ∀ c ∈ ending, c ≠ '*' ∧ c ≠ '?') (text : Text) :
    Fits ('?' :: '*' :: ending) text ↔ ∃ stem, stem ≠ [] ∧ text = stem ++ ending := by
  rw [fits_cons_of_ne (by decide)]
  constructor
  · intro ⟨c, rest, htext, _, hrest⟩
    obtain ⟨last, ⟨between, hbetween⟩, hending⟩ := (fits_star _ _).1 hrest
    rw [fits_of_plain h] at hending
    refine ⟨c :: between, List.cons_ne_nil c between, ?_⟩
    rw [htext, ← hbetween, hending, List.cons_append]
  · intro ⟨stem, hstem, htext⟩
    obtain ⟨c, between, rfl⟩ := List.exists_cons_of_ne_nil hstem
    refine ⟨c, between ++ ending, htext, ⟨by decide, .inl rfl⟩, ?_⟩
    apply (fits_star _ _).2
    exact ⟨ending, List.suffix_append between ending, (fits_of_plain h ending).2 rfl⟩

end Wildcard

namespace Glob

theorem matches_singleton_iff {g : Text} (hg : g ≠ anyDepth) (path : List Text) :
    Matches [g] path ↔ ∃ s, path = [s] ∧ Wildcard.matchesSegment s g = true := by
  cases path with
  | nil =>
    apply iff_of_false (not_matches_segment_nil hg [])
    intro ⟨s, hs, _⟩
    cases hs
  | cons s path =>
    rw [matches_segment_iff hg, matches_nil_iff]
    constructor
    · intro ⟨hs, hpath⟩
      exact ⟨s, by rw [hpath], hs⟩
    · intro ⟨t, heq, ht⟩
      obtain ⟨rfl, hpath⟩ := List.cons.inj heq
      exact ⟨ht, hpath⟩

/-- One segment behind double stars asks for the last segment of a path. -/
theorem matches_last_iff {g : Text} (hg : g ≠ anyDepth) (path : List Text) :
    Matches [anyDepth, g] path ↔
      ∃ above name, path = above ++ [name] ∧ Wildcard.matchesSegment name g = true := by
  rw [matches_depth_iff]
  constructor
  · intro ⟨rest, ⟨above, habove⟩, hrest⟩
    obtain ⟨name, rfl, hname⟩ := (matches_singleton_iff hg rest).1 hrest
    exact ⟨above, name, habove.symm, hname⟩
  · intro ⟨above, name, hpath, hname⟩
    refine ⟨[name], ⟨above, hpath.symm⟩, ?_⟩
    exact (matches_singleton_iff hg [name]).2 ⟨name, rfl, hname⟩

end Glob

/-- The last segment of a path in relative form is the last of its segments. -/
theorem Path.lastSegment_relative (path : Text) :
    lastSegment (relative path) = (segments path).getLastD [] := by
  have hpieces := pieces_relative path
  unfold pieces at hpieces
  unfold lastSegment
  by_cases hempty : relative path = []
  · rw [← hpieces, hempty]
    rfl
  · rw [if_neg (mt List.isEmpty_iff.1 hempty)] at hpieces
    rw [hpieces]

namespace SelectionRules

/-- What a pattern can ask for as an extension: a point with something behind it, and neither
slashes nor wildcards. -/
structure IsExtension (extension : Text) : Prop where
  exists_eq : ∃ rest, rest ≠ [] ∧ extension = '.' :: rest
  plain : ∀ c ∈ extension, c ≠ '/' ∧ c ≠ '\\' ∧ c ≠ '*' ∧ c ≠ '?'

theorem extension?_eq_some_iff {pattern extension : Text} :
    extension? pattern = some extension ↔
      Text.trim pattern = '*' :: extension ∧ IsExtension extension := by
  unfold extension?
  constructor
  · intro h
    split at h
    · rename_i rest hrest
      split at h
      · cases h
      · rename_i hplain
        obtain rfl := Option.some.inj h
        simp only [Bool.or_eq_true, List.isEmpty_iff, List.any_eq_true, beq_iff_eq, not_or,
          not_exists, not_and] at hplain
        refine ⟨hrest, ⟨rest, hplain.1, rfl⟩, ?_⟩
        intro c hc
        rcases List.mem_cons.1 hc with rfl | hc
        · decide
        · have hc := hplain.2 c hc
          exact ⟨hc.1.1.1, hc.1.1.2, hc.1.2, hc.2⟩
    · cases h
  · intro ⟨htrim, ⟨rest, hrest, hpoint⟩, hplain⟩
    subst hpoint
    rw [htrim]
    simp only
    rw [if_neg]
    simp only [Bool.or_eq_true, List.isEmpty_iff, List.any_eq_true, beq_iff_eq, not_or,
      not_exists, not_and]
    refine ⟨hrest, ?_⟩
    intro c hc
    have hc := hplain c (List.mem_cons_of_mem _ hc)
    exact ⟨⟨⟨hc.1, hc.2.1⟩, hc.2.2.1⟩, hc.2.2.2⟩

def extensionGlob (extension : Text) : Text :=
  "**/?*".toList ++ extension

section Extension

variable {extension : Text} (h : IsExtension extension)
include h

theorem segments_extensionGlob :
    Path.segments (extensionGlob extension) = [Glob.anyDepth, '?' :: '*' :: extension] := by
  have hslash : '/' ∉ '?' :: '*' :: extension := by
    simp only [List.mem_cons, not_or]
    exact ⟨by decide, by decide, fun hc => (h.plain _ hc).1 rfl⟩
  have hback : '\\' ∉ '?' :: '*' :: extension := by
    simp only [List.mem_cons, not_or]
    exact ⟨by decide, by decide, fun hc => (h.plain _ hc).2.1 rfl⟩
  have hone : Path.segments ('?' :: '*' :: extension) = ['?' :: '*' :: extension] := by
    rw [Path.segments, Text.replaceChar_of_not_mem '/' hback, Text.splitOn_of_not_mem hslash]
    rfl
  have hsplit : extensionGlob extension = Glob.anyDepth ++ '/' :: '?' :: '*' :: extension := rfl
  rw [hsplit, Path.segments_append_slash, Path.segments_anyDepth, hone, List.singleton_append]

/-- The glob takes the paths whose last segment ends with the extension and has something in front
of it. -/
theorem accepts_extensionGlob_iff (path : Text) :
    Glob.accepts path (extensionGlob extension) = true ↔
      ∃ above stem, stem ≠ [] ∧ Path.segments path = above ++ [stem ++ extension] := by
  have hplain : ∀ c ∈ extension, c ≠ '*' ∧ c ≠ '?' := fun c hc => (h.plain c hc).2.2
  have hdepth : '?' :: '*' :: extension ≠ Glob.anyDepth := by
    intro heq
    cases (List.cons.inj heq).1
  rw [Glob.accepts_iff, segments_extensionGlob h, Glob.matches_last_iff hdepth]
  constructor
  · intro ⟨above, name, hpath, hname⟩
    rw [Wildcard.matchesSegment_iff, Wildcard.fits_ending_iff hplain] at hname
    obtain ⟨stem, hstem, rfl⟩ := hname
    exact ⟨above, stem, hstem, hpath⟩
  · intro ⟨above, stem, hstem, hpath⟩
    refine ⟨above, stem ++ extension, hpath, ?_⟩
    rw [Wildcard.matchesSegment_iff, Wildcard.fits_ending_iff hplain]
    exact ⟨stem, hstem, rfl⟩

end Extension

section Pattern

variable {pattern extension : Text} (h : extension? pattern = some extension)
include h

/-- So do patterns that ask for the extension. -/
theorem patternMatches_iff_of_extension (path : Text) :
    patternMatches (Path.relative path) pattern = true ↔
      ∃ above stem, stem ≠ [] ∧ Path.segments path = above ++ [stem ++ extension] := by
  simp only [patternMatches, h, Path.lastSegment_relative, Bool.and_eq_true,
    decide_eq_true_iff, List.isSuffixOf_iff_suffix]
  constructor
  · intro hname
    obtain ⟨hlength, stem, hstem⟩ := hname
    have hne : Path.segments path ≠ [] := by
      intro hnone
      rw [hnone] at hlength
      exact absurd hlength (Nat.not_lt_zero _)
    have hlast : (Path.segments path).getLastD [] = (Path.segments path).getLast hne := by
      rw [List.getLastD_eq_getLast?, List.getLast?_eq_some_getLast hne, Option.getD_some]
    rw [hlast] at hlength hstem
    refine ⟨(Path.segments path).dropLast, stem, ?_, ?_⟩
    · intro hnil
      rw [← hstem, hnil, List.nil_append] at hlength
      exact Nat.lt_irrefl _ hlength
    · rw [hstem, List.dropLast_append_getLast]
  · intro hsplit
    obtain ⟨above, stem, hstem, hpath⟩ := hsplit
    have hlast : (Path.segments path).getLastD [] = stem ++ extension := by
      rw [hpath, List.getLastD_eq_getLast?, List.getLast?_append]
      rfl
    have hlength : 0 < stem.length := List.length_pos_iff.2 hstem
    rw [hlast, List.length_append]
    exact ⟨by omega, List.suffix_append stem extension⟩

/-- It makes no difference whether characters or bytes are compared. -/
theorem patternMatches_iff_encode (path : Text) :
    patternMatches path pattern = true ↔
      (Text.Utf8.encode extension).length < (Text.Utf8.encode (Path.lastSegment path)).length ∧
        Text.Utf8.encode extension <:+ Text.Utf8.encode (Path.lastSegment path) := by
  simp only [patternMatches, h, Bool.and_eq_true, decide_eq_true_iff,
    List.isSuffixOf_iff_suffix, Text.Utf8.encode_suffix_iff]
  constructor
  · intro hname
    exact ⟨(Text.Utf8.length_encode_lt_iff hname.2).2 hname.1, hname.2⟩
  · intro hname
    exact ⟨(Text.Utf8.length_encode_lt_iff hname.2).1 hname.1, hname.2⟩

end Pattern

def asGlob (pattern : Text) : Text :=
  match extension? pattern with
  | some extension => extensionGlob extension
  | none => pattern

theorem patternMatches_eq_accepts (path pattern : Text) :
    patternMatches (Path.relative path) pattern = Glob.accepts path (asGlob pattern) := by
  cases hpattern : extension? pattern with
  | none => simp only [patternMatches, asGlob, hpattern, Glob.accepts, Path.segments_relative]
  | some extension =>
    have hextension := (extension?_eq_some_iff.1 hpattern).2
    rw [Bool.eq_iff_iff, patternMatches_iff_of_extension hpattern]
    simp only [asGlob, hpattern]
    exact (accepts_extensionGlob_iff hextension path).symm

/-- A pattern that asks for an extension matches a path when the glob does that puts double stars, a
question mark and a star in front of the extension: the last segment of the path ends with the
extension and has something in front of it. Rules of any patterns, extensions or not, decide as the
globs do that the patterns stand for. -/
theorem extension_agrees :
    (∀ pattern extension, extension? pattern = some extension →
      Text.trim pattern = '*' :: extension ∧ ∀ path,
        (patternMatches (Path.relative path) pattern = true ↔
          Glob.accepts path ("**/?*".toList ++ extension) = true) ∧
        (patternMatches (Path.relative path) pattern = true ↔
          ∃ above stem, stem ≠ [] ∧ Path.segments path = above ++ [stem ++ extension]) ∧
        (patternMatches (Path.relative path) pattern = true ↔
          (Text.Utf8.encode extension).length <
              (Text.Utf8.encode (Path.lastSegment (Path.relative path))).length ∧
            Text.Utf8.encode extension <:+
              Text.Utf8.encode (Path.lastSegment (Path.relative path)))) ∧
    ∀ (rules : SelectionRules) (path : Text),
      rules.isExcluded path =
          rules.exclude.any (fun pattern => Glob.accepts path (asGlob pattern)) ∧
        rules.shouldScan path = (!rules.isExcluded path &&
          rules.include?.all fun patterns =>
            patterns.any fun pattern => Glob.accepts path (asGlob pattern)) := by
  constructor
  · intro pattern extension h
    obtain ⟨htrim, hextension⟩ := extension?_eq_some_iff.1 h
    refine ⟨htrim, fun path => ⟨?_, patternMatches_iff_of_extension h path,
      patternMatches_iff_encode h (Path.relative path)⟩⟩
    rw [patternMatches_iff_of_extension h]
    exact (accepts_extensionGlob_iff hextension path).symm
  · intro rules path
    have hpatterns : patternMatches (Path.relative path) =
        fun pattern => Glob.accepts path (asGlob pattern) :=
      funext (patternMatches_eq_accepts path)
    have hexcluded : rules.isExcluded path =
        rules.exclude.any fun pattern => Glob.accepts path (asGlob pattern) := by
      rw [isExcluded, hpatterns]
    have hsame : rules.isExcluded (Path.relative path) = rules.isExcluded path := by
      rw [isExcluded, isExcluded, Path.relative_relative]
    refine ⟨hexcluded, ?_⟩
    simp only [shouldScan, hsame, hpatterns]
    cases rules.include? with
    | none => rfl
    | some patterns => rfl

/-- Blanks around a pattern do not count, and neither does what kind of slash stands in front of the
last segment. A name that is the extension alone is passed over. -/
theorem extension_agrees_archive :
    extension? " *.tar.gz ".toList = some ".tar.gz".toList ∧
      (patternMatches (Path.relative "dist\\.tar.gz\\a.tar.gz".toList) " *.tar.gz ".toList = true ↔
        Glob.accepts "dist\\.tar.gz\\a.tar.gz".toList ("**/?*".toList ++ ".tar.gz".toList) = true) ∧
      Glob.accepts "dist\\.tar.gz\\a.tar.gz".toList ("**/?*".toList ++ ".tar.gz".toList) = true ∧
      patternMatches (Path.relative "dist/.tar.gz".toList) " *.tar.gz ".toList = false := by
  have hpattern : extension? " *.tar.gz ".toList = some ".tar.gz".toList := by decide
  obtain ⟨-, hagrees⟩ := extension_agrees.1 _ _ hpattern
  exact ⟨hpattern, (hagrees _).1, by decide, by decide⟩

end SelectionRules

end SecretScan
