import SecretScan.CommandLine.Overrides
import SecretScan.Proofs.ExtensionPatterns

/-!
Selection rules from a configuration and from arguments. The rules of a run are those of one
configuration, in which the lists of the arguments stand behind those of the file. The default
excludes come last, each once and only where it is missing, and they take from the rules exactly the
paths that lie in a directory of a certain name or end with a certain extension.
-/

namespace SecretScan

namespace SelectionRules

def addGlob (globs : List Text) (glob : Text) : List Text :=
  if globs.contains glob then globs else globs ++ [glob]

theorem addGlob_of_mem {globs : List Text} {glob : Text} (h : glob ∈ globs) :
    addGlob globs glob = globs :=
  if_pos (List.contains_iff_mem.2 h)

theorem addGlob_of_not_mem {globs : List Text} {glob : Text} (h : glob ∉ globs) :
    addGlob globs glob = globs ++ [glob] :=
  if_neg (mt List.contains_iff_mem.1 h)

/-- Different globs that are added one after the other stand behind the given ones, less those that
were given already. -/
theorem foldl_addGlob {globs : List Text} (h : globs.Nodup) (given : List Text) :
    globs.foldl addGlob given = given ++ globs.filter (· ∉ given) := by
  induction globs generalizing given with
  | nil => exact (List.append_nil given).symm
  | cons glob globs ih =>
    obtain ⟨hnew, hrest⟩ := List.nodup_cons.1 h
    rw [List.foldl_cons, ih hrest]
    by_cases hmem : glob ∈ given
    · rw [addGlob_of_mem hmem, List.filter_cons_of_neg (by simpa using hmem)]
    · have hmissing : globs.filter (· ∉ given ++ [glob]) = globs.filter (· ∉ given) := by
        apply List.filter_congr
        intro g hg
        have hne : g ≠ glob := fun heq => hnew (heq ▸ hg)
        simp [hne]
      rw [addGlob_of_not_mem hmem, hmissing, List.filter_cons_of_pos (by simpa using hmem),
        List.append_assoc, List.singleton_append]

theorem nodup_defaultExcludes : defaultExcludes.Nodup := by
  decide +kernel

def missingExcludes (rules : SelectionRules) : List Text :=
  defaultExcludes.filter (· ∉ rules.exclude)

theorem mem_missingExcludes {rules : SelectionRules} {glob : Text} :
    glob ∈ rules.missingExcludes ↔ glob ∈ defaultExcludes ∧ glob ∉ rules.exclude := by
  rw [missingExcludes, List.mem_filter, decide_eq_true_iff]

theorem withDefaultExcludes_eq (rules : SelectionRules) :
    rules.withDefaultExcludes =
      { rules with exclude := rules.exclude ++ rules.missingExcludes } := by
  have hfold : defaultExcludes.foldl addGlob rules.exclude =
      rules.exclude ++ rules.missingExcludes :=
    foldl_addGlob nodup_defaultExcludes rules.exclude
  rw [← hfold]
  rfl

theorem include?_withDefaultExcludes (rules : SelectionRules) :
    rules.withDefaultExcludes.include? = rules.include? := by
  rw [withDefaultExcludes_eq]

theorem mem_exclude_withDefaultExcludes {rules : SelectionRules} {glob : Text} :
    glob ∈ rules.withDefaultExcludes.exclude ↔ glob ∈ rules.exclude ∨ glob ∈ defaultExcludes := by
  rw [withDefaultExcludes_eq, List.mem_append, mem_missingExcludes]
  tauto

/-- Nothing is missing any more. -/
theorem withDefaultExcludes_withDefaultExcludes (rules : SelectionRules) :
    rules.withDefaultExcludes.withDefaultExcludes = rules.withDefaultExcludes := by
  have hnone : rules.withDefaultExcludes.missingExcludes = [] := by
    rw [List.eq_nil_iff_forall_not_mem]
    intro glob hglob
    obtain ⟨hdefault, hmissing⟩ := mem_missingExcludes.1 hglob
    exact hmissing (mem_exclude_withDefaultExcludes.2 (.inr hdefault))
  rw [withDefaultExcludes_eq rules.withDefaultExcludes, hnone, List.append_nil]

/-- A file is scanned when no exclude matches its path and, where there is a list of includes, one
of them does. -/
theorem shouldScan_iff (rules : SelectionRules) (path : Text) :
    rules.shouldScan path = true ↔
      (∀ glob ∈ rules.exclude, ¬ patternMatches (Path.relative path) glob = true) ∧
        ∀ patterns, rules.include? = some patterns →
          ∃ glob ∈ patterns, patternMatches (Path.relative path) glob = true := by
  have hexcluded : (!rules.isExcluded (Path.relative path)) = true ↔
      ∀ glob ∈ rules.exclude, ¬ patternMatches (Path.relative path) glob = true := by
    rw [isExcluded, Path.relative_relative, Bool.not_eq_true', List.any_eq_false]
  simp only [shouldScan]
  rw [Bool.and_eq_true, hexcluded]
  cases rules.include? with
  | none => simp
  | some patterns => simp [List.any_eq_true]

def IsLeftOutByDefault (path : Text) : Prop :=
  ∃ glob ∈ defaultExcludes, patternMatches (Path.relative path) glob = true

/-- The default excludes take away the paths that they match, and change nothing else. -/
theorem shouldScan_withDefaultExcludes_iff (rules : SelectionRules) (path : Text) :
    rules.withDefaultExcludes.shouldScan path = true ↔
      rules.shouldScan path = true ∧ ¬ IsLeftOutByDefault path := by
  simp only [shouldScan_iff, include?_withDefaultExcludes, mem_exclude_withDefaultExcludes,
    IsLeftOutByDefault, not_exists, not_and]
  constructor
  · intro ⟨hexclude, hincluded⟩
    exact ⟨⟨fun glob hglob => hexclude glob (.inl hglob), hincluded⟩,
      fun glob hglob => hexclude glob (.inr hglob)⟩
  · intro ⟨⟨hgiven, hincluded⟩, hdefault⟩
    exact ⟨fun glob hglob => hglob.elim (hgiven glob) (hdefault glob), hincluded⟩

/-- Rules after the default excludes were added. What is added are the missing ones, each once and
in their order, behind the excludes that were there; to add them again changes nothing. -/
structure IsCompletion (rules completed : SelectionRules) : Prop where
  include_eq : completed.include? = rules.include?
  exists_missing : ∃ missing, completed.exclude = rules.exclude ++ missing ∧
    missing.Sublist defaultExcludes ∧ missing.Nodup ∧
    ∀ glob, glob ∈ missing ↔ glob ∈ defaultExcludes ∧ glob ∉ rules.exclude
  idempotent : completed.withDefaultExcludes = completed
  shouldScan_iff : ∀ path,
    completed.shouldScan path = true ↔ rules.shouldScan path = true ∧ ¬ IsLeftOutByDefault path

theorem isCompletion_withDefaultExcludes (rules : SelectionRules) :
    rules.IsCompletion rules.withDefaultExcludes where
  include_eq := include?_withDefaultExcludes rules
  exists_missing := by
    refine ⟨rules.missingExcludes, ?_, List.filter_sublist, nodup_defaultExcludes.filter _, ?_⟩
    · rw [withDefaultExcludes_eq]
    · intro glob
      exact mem_missingExcludes
  idempotent := withDefaultExcludes_withDefaultExcludes rules
  shouldScan_iff := shouldScan_withDefaultExcludes_iff rules

def defaultDirectories : List Text :=
  [".git", ".hg", ".svn", "node_modules", "target", "dist", "build", "vendor", "__pycache__",
   ".venv", "venv"].map String.toList

def defaultExtensions : List Text :=
  [".png", ".jpg", ".jpeg", ".gif", ".ico", ".bmp", ".webp", ".pdf", ".zip", ".gz", ".tgz",
   ".jar", ".class", ".exe", ".dll", ".so", ".dylib", ".o", ".a", ".woff", ".woff2", ".ttf",
   ".eot", ".mp3", ".mp4", ".lock"].map String.toList

def directoryGlob (name : Text) : Text :=
  Glob.anyDepth ++ '/' :: (name ++ '/' :: Glob.anyDepth)

theorem defaultExcludes_eq :
    defaultExcludes = defaultDirectories.map directoryGlob ++ defaultExtensions.map ('*' :: ·) :=
  rfl

/-- Such a glob matches the paths that have the name as a segment. -/
theorem patternMatches_directoryGlob_iff {name : Text} (hname : Path.segments name = [name])
    (hplain : ∀ c ∈ name, c ≠ '*' ∧ c ≠ '?') (path : Text) :
    patternMatches (Path.relative path) (directoryGlob name) = true ↔
      name ∈ Path.segments path := by
  have hsegments : Path.segments (directoryGlob name) =
      [Glob.anyDepth, name, Glob.anyDepth] := by
    rw [directoryGlob, Path.segments_append_slash, Path.segments_append_slash,
      Path.segments_anyDepth, hname]
    rfl
  have hextension : extension? (directoryGlob name) = none := by
    rw [Option.eq_none_iff_forall_ne_some]
    intro extension h
    apply (not_mem_of_extension? h).1
    exact List.mem_append_right _ List.mem_cons_self
  have hdepth : name ≠ Glob.anyDepth := by
    intro heq
    exact (hplain '*' (heq ▸ List.mem_cons_self)).1 rfl
  simp only [patternMatches, hextension]
  rw [Glob.accepts_iff, Path.segments_relative, hsegments, Glob.matches_depth_iff]
  constructor
  · intro h
    obtain ⟨rest, hrest, hmatches⟩ := h
    cases rest with
    | nil => exact absurd hmatches (Glob.not_matches_segment_nil hdepth _)
    | cons s below =>
      have hs := ((Glob.matches_segment_iff hdepth s _ below).1 hmatches).1
      rw [Wildcard.matchesSegment_iff, Wildcard.fits_of_plain hplain] at hs
      subst hs
      exact hrest.mem List.mem_cons_self
  · intro hmem
    obtain ⟨above, below, hpath⟩ := List.append_of_mem hmem
    have hfits : Wildcard.matchesSegment name name = true := by
      rw [Wildcard.matchesSegment_iff, Wildcard.fits_of_plain hplain]
    refine ⟨name :: below, ⟨above, hpath.symm⟩, ?_⟩
    apply (Glob.matches_segment_iff hdepth name _ below).2
    exact ⟨hfits, Glob.matches_anyDepth below⟩

theorem plain_of_mem_defaultDirectories {name : Text} (h : name ∈ defaultDirectories) :
    Path.segments name = [name] ∧ ∀ c ∈ name, c ≠ '*' ∧ c ≠ '?' := by
  have hall : defaultDirectories.all (fun name => Path.segments name == [name] &&
      name.all fun c => c != '*' && c != '?') = true := by decide +kernel
  have hname := List.all_eq_true.1 hall name h
  simpa only [Bool.and_eq_true, beq_iff_eq, List.all_eq_true, bne_iff_ne] using hname

theorem extension?_of_mem_defaultExtensions : ∀ extension ∈ defaultExtensions,
    extension? ('*' :: extension) = some extension := by
  decide +kernel

/-- By default a path is left out when one of its segments is the name of such a directory, or when
its last segment ends with such an extension and has something in front of it. -/
theorem isLeftOutByDefault_iff (path : Text) :
    IsLeftOutByDefault path ↔
      (∃ name ∈ Path.segments path, name ∈ defaultDirectories) ∨
        ∃ extension ∈ defaultExtensions, ∃ above stem,
          stem ≠ [] ∧ Path.segments path = above ++ [stem ++ extension] := by
  have hdirectory (name : Text) (hname : name ∈ defaultDirectories) :
      patternMatches (Path.relative path) (directoryGlob name) = true ↔
        name ∈ Path.segments path := by
    obtain ⟨hsegments, hplain⟩ := plain_of_mem_defaultDirectories hname
    exact patternMatches_directoryGlob_iff hsegments hplain path
  have hextension (extension : Text) (hmem : extension ∈ defaultExtensions) :
      patternMatches (Path.relative path) ('*' :: extension) = true ↔ ∃ above stem,
        stem ≠ [] ∧ Path.segments path = above ++ [stem ++ extension] :=
    patternMatches_iff_of_extension (extension?_of_mem_defaultExtensions extension hmem) path
  rw [IsLeftOutByDefault, defaultExcludes_eq]
  constructor
  · intro ⟨glob, hglob, hmatches⟩
    rcases List.mem_append.1 hglob with hglob | hglob
    · obtain ⟨name, hname, rfl⟩ := List.mem_map.1 hglob
      exact .inl ⟨name, (hdirectory name hname).1 hmatches, hname⟩
    · obtain ⟨extension, hmem, rfl⟩ := List.mem_map.1 hglob
      exact .inr ⟨extension, hmem, (hextension extension hmem).1 hmatches⟩
  · intro h
    rcases h with ⟨name, hsegment, hname⟩ | ⟨extension, hmem, hends⟩
    · refine ⟨directoryGlob name, ?_, (hdirectory name hname).2 hsegment⟩
      exact List.mem_append_left _ (List.mem_map_of_mem hname)
    · refine ⟨'*' :: extension, ?_, (hextension extension hmem).2 hends⟩
      exact List.mem_append_right _ (List.mem_map_of_mem hmem)

end SelectionRules

namespace Config

open SelectionRules

/-- What a configuration alone makes of a path. -/
theorem shouldScan_selectionRules_iff (c : Config) (path : Text) :
    c.selectionRules.shouldScan path = true ↔
      (∀ glob ∈ c.exclude, ¬ patternMatches (Path.relative path) glob = true) ∧
        (c.useDefaultExcludes = true → ¬ IsLeftOutByDefault path) ∧
        ∀ patterns, c.include? = some patterns →
          ∃ glob ∈ patterns, patternMatches (Path.relative path) glob = true := by
  simp only [selectionRules]
  cases c.useDefaultExcludes with
  | false => simp [shouldScan_iff]
  | true =>
    rw [if_pos rfl, shouldScan_withDefaultExcludes_iff, shouldScan_iff]
    simp only [true_imp_iff]
    tauto

end Config

namespace Arguments

open SelectionRules

/-- The configuration with the selection flags of the arguments put into it. There is no list of
includes where neither side gives one; else the lists of the configuration come first. -/
def mergedConfig (a : Arguments) (c : Config) : Config :=
  { c with
    include? := match c.include?, a.includes with
      | none, [] => none
      | none, given => some given
      | some listed, given => some (listed ++ given)
    exclude := c.exclude ++ a.excludes
    useDefaultExcludes := c.useDefaultExcludes && !a.noDefaultExcludes }

variable (a : Arguments) (c : Config)

theorem include?_mergedConfig : (a.mergedConfig c).include? =
    if c.include?.isNone && a.includes.isEmpty then none
    else some (c.include?.getD [] ++ a.includes) := by
  unfold mergedConfig
  cases c.include? with
  | none =>
    cases a.includes with
    | nil => rfl
    | cons glob given => rfl
  | some listed => rfl

/-- A condition on some include holds of the merged configuration when neither side gives a list or
when an include of either side meets it. -/
theorem forall_include?_mergedConfig_iff (holds : Text → Prop) :
    (∀ patterns, (a.mergedConfig c).include? = some patterns → ∃ glob ∈ patterns, holds glob) ↔
      c.include? = none ∧ a.includes = [] ∨
        ∃ glob ∈ c.include?.getD [] ++ a.includes, holds glob := by
  unfold mergedConfig
  cases c.include? with
  | none =>
    cases a.includes with
    | nil => simp
    | cons glob given => simp
  | some listed => simp

theorem selectionRules_eq : a.selectionRules c = (a.mergedConfig c).selectionRules := by
  unfold Config.selectionRules
  rw [include?_mergedConfig]
  rfl

/-- What a run scans: files that no exclude of either side matches, that are not left out by default
while both sides allow for that, and that some include of either side matches where one side gives a
list. -/
theorem shouldScan_selectionRules_iff (path : Text) :
    (a.selectionRules c).shouldScan path = true ↔
      (∀ glob ∈ c.exclude ++ a.excludes, ¬ patternMatches (Path.relative path) glob = true) ∧
        (c.useDefaultExcludes = true → a.noDefaultExcludes = false → ¬ IsLeftOutByDefault path) ∧
        (c.include? = none ∧ a.includes = [] ∨
          ∃ glob ∈ c.include?.getD [] ++ a.includes,
            patternMatches (Path.relative path) glob = true) := by
  rw [selectionRules_eq, Config.shouldScan_selectionRules_iff, forall_include?_mergedConfig_iff]
  have hdefaults : (a.mergedConfig c).useDefaultExcludes = true ↔
      c.useDefaultExcludes = true ∧ a.noDefaultExcludes = false := by
    simp [mergedConfig]
  rw [hdefaults, and_imp]
  rfl

/-- Without a list of includes everything is scanned, with an empty one nothing is, and includes of
the arguments make a list of none. -/
example :
    (({} : Arguments).selectionRules {}).shouldScan "src/a.rs".toList = true ∧
      (({} : Arguments).selectionRules { include? := some [] }).shouldScan
        "src/a.rs".toList = false ∧
      (({ includes := ["*.py".toList] } : Arguments).selectionRules {}).shouldScan
        "src/a.rs".toList = false := by
  decide +kernel

/-- The rules of a run are those that the configuration of the file asks for once the selection
flags are merged into it: no includes where neither side gives any, else those of the file and then
those of the flags, the excludes of both in the same order, and the default excludes if both allow
them. Default excludes complete any rules, and leave out the paths with a segment that names one of
the directories, or with a last segment that ends with one of the extensions. -/
theorem selectionRules_merges :
    (∀ (a : Arguments) (c : Config), a.selectionRules c = (a.mergedConfig c).selectionRules) ∧
      (∀ rules : SelectionRules, rules.IsCompletion rules.withDefaultExcludes) ∧
      ∀ path, IsLeftOutByDefault path ↔
        (∃ name ∈ Path.segments path, name ∈ defaultDirectories) ∨
          ∃ extension ∈ defaultExtensions, ∃ above stem,
            stem ≠ [] ∧ Path.segments path = above ++ [stem ++ extension] :=
  ⟨selectionRules_eq, isCompletion_withDefaultExcludes, isLeftOutByDefault_iff⟩

end Arguments

end SecretScan
