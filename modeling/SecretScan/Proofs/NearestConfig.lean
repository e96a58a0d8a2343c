import SecretScan.Config
import SecretScan.Proofs.CanonicalPaths

/-!
The configuration in force. A search starts in a directory of the tree and goes up through all
directories that hold it, of which there are finitely many. The closest one with a configuration file
decides alone: what the file says is the outcome, and so is the reason why it cannot be used, while
nothing further up has any part in it. Without such a file everything is as it is by default.
-/

namespace SecretScan

namespace LoadedConfig

theorem isName_fileName : Entry.IsName fileName := by
  decide

def configFile (directory : Address) : Text :=
  Workspace.pathOf (directory ++ [fileName])

/-- What a configuration file with some bytes gives: the configuration that is written in it, or the
reason why there is none. -/
inductive Reads (file : Text) (content : List UInt8) : Except ConfigError LoadedConfig → Prop
  | notText {length : Nat} (h : Text.Utf8.decode content = .error length) :
      Reads file content (.error (.unreadable file "stream did not contain valid UTF-8"))
  | malformed {text : Text} (h : Text.Utf8.decode content = .ok text)
      (hconfig : Config.ofText? text = none) : Reads file content (.error (.malformed file))
  | loaded {text : Text} {config : Config} (h : Text.Utf8.decode content = .ok text)
      (hconfig : Config.ofText? text = some config) : Reads file content (.ok ⟨config, some file⟩)

end LoadedConfig

namespace Workspace

open LoadedConfig

/-- A search from the path starts in the directory: the path leads to it, or to a file in it. -/
inductive StartsIn (w : Workspace) (start : Text) : Address → Prop
  | directory {address : Address} {entries : List (Text × Entry)}
      (hresolve : w.resolve start true = .ok address)
      (hat : w.tree.at? address = some (.directory entries)) : StartsIn w start address
  | file {address : Address} {name : Text} {content : List UInt8}
      (hresolve : w.resolve start true = .ok (address ++ [name]))
      (hat : w.tree.at? (address ++ [name]) = some (.file content)) : StartsIn w start address

def HoldsConfig (w : Workspace) (directory : Address) : Prop :=
  ∃ content, w.entry (configFile directory) = .ok (.file content)

instance (w : Workspace) (directory : Address) : Decidable (w.HoldsConfig directory) :=
  decidable_of_iff (w.isFile (configFile directory) = true) isFile_iff

/-- Of the directories with a configuration file that are the start or above it, the one from which
the way to the start is shortest. -/
structure IsNearest (w : Workspace) (start hit : Address) : Prop where
  above : hit <+: start
  holds : w.HoldsConfig hit
  closest : ∀ other, other <+: start → w.HoldsConfig other → other <+: hit

variable {w : Workspace} {start : Text} {d : Address}

/-- Every path that leads somewhere gives a search a directory to start in. -/
theorem exists_startsIn (h : w.pathExists start = true) : ∃ d, w.StartsIn start d := by
  rw [pathExists] at h
  cases hentry : w.entry start with
  | error fault => rw [hentry] at h; cases h
  | ok e =>
    obtain ⟨address, hresolve, hat⟩ := entry_eq_ok.1 hentry
    have hplace := isPlace_of_resolve hresolve
    cases e with
    | directory entries => exact ⟨address, .directory hresolve hat⟩
    | link way => exact absurd hat (hplace.not_link way)
    | file content =>
      rcases List.eq_nil_or_concat address with rfl | ⟨above, name, rfl⟩
      · obtain ⟨entries, htree⟩ := hplace.isDirectory
        rw [htree] at hat
        cases hat
      · rw [List.concat_eq_append] at hresolve hat
        exact ⟨above, .file hresolve hat⟩

theorem StartsIn.exists_entries (h : w.StartsIn start d) :
    ∃ entries, w.tree.at? d = some (.directory entries) := by
  cases h with
  | directory hresolve hat => exact ⟨_, hat⟩
  | file hresolve hat => exact Entry.exists_entries_of_append (List.cons_ne_nil _ _) hat

theorem exists_entries_of_prefix {a : Address} {entries : List (Text × Entry)}
    (hat : w.tree.at? d = some (.directory entries)) (ha : a <+: d) :
    ∃ entries, w.tree.at? a = some (.directory entries) := by
  obtain ⟨below, rfl⟩ := ha
  by_cases hbelow : below = []
  · rw [hbelow, List.append_nil] at hat
    exact ⟨entries, hat⟩
  · exact Entry.exists_entries_of_append hbelow hat

theorem StartsIn.isName (hw : w.tree.IsTree) (h : w.StartsIn start d) :
    ∀ name ∈ d, Entry.IsName name := by
  obtain ⟨entries, hat⟩ := h.exists_entries
  exact (hw.at? hat).1

/-- Links apart, a directory has the configuration file that an entry of this name is, if the entry
is a file. -/
theorem entry_configFile_iff (hw : w.tree.IsTree) {a : Address} {entries : List (Text × Entry)}
    (hat : w.tree.at? a = some (.directory entries))
    (hlink : ∀ way, w.tree.at? (a ++ [fileName]) ≠ some (.link way)) (content : List UInt8) :
    w.entry (configFile a) = .ok (.file content) ↔
      w.tree.at? (a ++ [fileName]) = some (.file content) := by
  have hdirectory := Entry.exists_directory_of_at? hat
  rw [configFile]
  cases hinner : w.tree.at? (a ++ [fileName]) with
  | none =>
    have hmissing := resolve_pathOf_of_missing hw hat isName_fileName hinner
    simp [entry_eq_ok, hmissing]
  | some e =>
    have hentry := entry_pathOf hw ⟨hdirectory, hlink⟩ hinner
    simp [hentry]

theorem StartsIn.searchPath_eq (hw : w.tree.IsTree) (h : w.StartsIn start d) :
    searchPath w start = Path.ancestors (pathOf d) := by
  cases h with
  | directory hresolve hat =>
    have hentry := entry_pathOf hw (isPlace_of_resolve hresolve) hat
    simp [searchPath, canonical_eq_pathOf hresolve, isFile, hentry, Entry.isFile]
  | file hresolve hat =>
    have hentry := entry_pathOf hw (isPlace_of_resolve hresolve) hat
    have hparent := parent?_pathOf_concat (hw.at? hat).1
    simp [searchPath, canonical_eq_pathOf hresolve, isFile, hentry, Entry.isFile, hparent]

section Search

theorem join_fileName (hnames : ∀ n ∈ d, Entry.IsName n) :
    Path.join (pathOf d) fileName = configFile d := by
  have hall : ∀ n ∈ d ++ [fileName], Entry.IsName n :=
    List.forall_mem_append.2 ⟨hnames, List.forall_mem_singleton.2 isName_fileName⟩
  rw [configFile, pathOf_concat hall]

def firstConfig (w : Workspace) (directory : Address) : Option Text :=
  ((Path.ancestors (pathOf directory)).map (Path.join · fileName)).find? w.isFile

/-- The search from the root directory looks there only. -/
theorem firstConfig_root (w : Workspace) : w.firstConfig [] =
    if w.HoldsConfig [] then some (configFile []) else none := by
  have hjoin := @join_fileName [] (List.forall_mem_nil _)
  rw [firstConfig, Path.ancestors_of_parent?_eq_none rfl, List.map_singleton, hjoin]
  by_cases hholds : w.HoldsConfig []
  · rw [if_pos hholds, List.find?_cons_of_pos (isFile_iff.2 hholds)]
  · rw [if_neg hholds, List.find?_cons_of_neg (mt isFile_iff.1 hholds), List.find?_nil]

/-- Any other search looks in a directory and then goes on from the one that holds it. -/
theorem firstConfig_concat (w : Workspace) {name : Text}
    (hnames : ∀ n ∈ d ++ [name], Entry.IsName n) : w.firstConfig (d ++ [name]) =
      if w.HoldsConfig (d ++ [name]) then some (configFile (d ++ [name]))
      else w.firstConfig d := by
  rw [firstConfig, ancestors_pathOf_concat hnames, List.map_cons, join_fileName hnames]
  by_cases hholds : w.HoldsConfig (d ++ [name])
  · rw [if_pos hholds, List.find?_cons_of_pos (isFile_iff.2 hholds)]
  · rw [if_neg hholds, List.find?_cons_of_neg (mt isFile_iff.1 hholds), firstConfig]

variable {hit : Address} {name : Text}

theorem IsNearest.self (h : w.HoldsConfig d) : w.IsNearest d d where
  above := List.prefix_refl d
  holds := h
  closest := fun _ hother _ => hother

/-- A directory without a configuration file has the nearest one where the directory that holds it
has it. -/
theorem IsNearest.concat (h : w.IsNearest d hit) (hnot : ¬ w.HoldsConfig (d ++ [name])) :
    w.IsNearest (d ++ [name]) hit where
  above := h.above.trans (List.prefix_append d [name])
  holds := h.holds
  closest := by
    intro other hother hholds
    rcases List.prefix_concat_iff.1 hother with heq | hbelow
    · rw [heq] at hholds
      exact absurd hholds hnot
    · exact h.closest other hbelow hholds

theorem IsNearest.unique {other : Address} (h : w.IsNearest d hit) (h' : w.IsNearest d other) :
    hit = other := by
  have hle := h'.closest hit h.above h.holds
  have hge := h.closest other h'.above h'.holds
  exact hle.eq_of_length_le hge.length_le

/-- A search finds the nearest configuration file, or there is none on the way. -/
theorem firstConfig_cases (hnames : ∀ n ∈ d, Entry.IsName n) :
    (∃ hit, w.IsNearest d hit ∧ w.firstConfig d = some (configFile hit)) ∨
      (∀ a, a <+: d → ¬ w.HoldsConfig a) ∧ w.firstConfig d = none := by
  induction d using List.reverseRecOn with
  | nil =>
    rw [firstConfig_root]
    by_cases hholds : w.HoldsConfig []
    · exact .inl ⟨[], .self hholds, if_pos hholds⟩
    · refine .inr ⟨?_, if_neg hholds⟩
      intro a ha
      rwa [List.prefix_nil.1 ha]
  | append_singleton d name ih =>
    rw [firstConfig_concat w hnames]
    by_cases hholds : w.HoldsConfig (d ++ [name])
    · exact .inl ⟨d ++ [name], .self hholds, if_pos hholds⟩
    · rw [if_neg hholds]
      rcases ih (fun n hn => hnames n (List.mem_append_left _ hn)) with ⟨hit, hnearest, hfirst⟩ |
        ⟨hnone, hfirst⟩
      · exact .inl ⟨hit, hnearest.concat hholds, hfirst⟩
      · refine .inr ⟨?_, hfirst⟩
        intro a ha
        rcases List.prefix_concat_iff.1 ha with rfl | ha
        · exact hholds
        · exact hnone a ha

end Search

/-- The nearest configuration file stays so in another tree where the directories from there to the
start keep what they have. -/
theorem IsNearest.congr {w' : Workspace} {hit : Address} (h : w.IsNearest d hit)
    (hsame : ∀ a, hit <+: a → a <+: d → (w'.HoldsConfig a ↔ w.HoldsConfig a)) :
    w'.IsNearest d hit where
  above := h.above
  holds := (hsame hit (List.prefix_refl hit) h.above).2 h.holds
  closest := by
    intro other hother hholds
    rcases List.prefix_or_prefix_of_prefix hother h.above with habove | hbelow
    · exact habove
    · exact h.closest other hother ((hsame other hbelow hother).1 hholds)

end Workspace

namespace LoadedConfig

open Workspace

variable {w : Workspace} {start : Text} {d hit : Address}

theorem reads_ofFile {file : Text} {content : List UInt8}
    (h : w.entry file = .ok (.file content)) : Reads file content (ofFile w file) := by
  have hread : w.read file = .ok content := by
    rw [Workspace.read, h]
    rfl
  rw [ofFile, hread]
  cases hdecode : Text.Utf8.decode content with
  | error length =>
    simp only [hdecode]
    exact .notText hdecode
  | ok text =>
    simp only [hdecode]
    cases hconfig : Config.ofText? text with
    | none => exact .malformed hdecode hconfig
    | some config => exact .loaded hdecode hconfig

theorem ofFile_congr {w' : Workspace} {file : Text} (h : w'.entry file = w.entry file) :
    ofFile w' file = ofFile w file := by
  rw [ofFile, Workspace.read, h, ← Workspace.read, ofFile]

theorem nearest_eq_firstConfig (hw : w.tree.IsTree) (hstart : w.StartsIn start d) :
    nearest w start = (w.firstConfig d).elim (.ok {}) (ofFile w) := by
  rw [nearest, hstart.searchPath_eq hw, ← firstConfig]
  cases w.firstConfig d with
  | none => rfl
  | some file => rfl

theorem nearest_of_isNearest (hw : w.tree.IsTree) (hstart : w.StartsIn start d)
    (h : w.IsNearest d hit) : nearest w start = ofFile w (configFile hit) := by
  rw [nearest_eq_firstConfig hw hstart]
  rcases firstConfig_cases (hstart.isName hw) with ⟨other, hother, hfirst⟩ | ⟨hnone, -⟩
  · rw [hfirst, h.unique hother, Option.elim_some]
  · exact absurd h.holds (hnone hit h.above)

theorem nearest_of_none (hw : w.tree.IsTree) (hstart : w.StartsIn start d)
    (h : ∀ a, a <+: d → ¬ w.HoldsConfig a) : nearest w start = .ok {} := by
  rw [nearest_eq_firstConfig hw hstart]
  rcases firstConfig_cases (hstart.isName hw) with ⟨hit, hnearest, -⟩ | ⟨-, hfirst⟩
  · exact absurd hnearest.holds (h hit hnearest.above)
  · rw [hfirst, Option.elim_none]

/-- The search goes up from the start, or from the directory that holds it, and ends. -/
theorem exists_climbs_searchPath (w : Workspace) (start : Text) :
    ∃ first, (first = w.canonical start ∨ Path.parent? (w.canonical start) = some first) ∧
      Path.Climbs first (searchPath w start) := by
  simp only [searchPath]
  by_cases hfile : w.isFile (w.canonical start) = true
  · rw [if_pos hfile]
    refine ⟨_, ?_, Path.climbs_ancestors _⟩
    cases Path.parent? (w.canonical start) with
    | none => exact .inl rfl
    | some above => exact .inr rfl
  · rw [if_neg hfile]
    exact ⟨_, .inl rfl, Path.climbs_ancestors _⟩

/-- From every path the search goes up and ends. Where the path leads somewhere it starts in a
directory of the tree, in which, links apart, only a file of that name counts as configuration file,
as it does further up. The nearest such file decides: its content is the configuration or the error,
and no other tree that has the same from there down to the start gives anything else. Where there is
none, everything is as it is by default. -/
theorem nearest_is_final :
    (∀ (w : Workspace) (start : Text), ∃ first,
      (first = w.canonical start ∨ Path.parent? (w.canonical start) = some first) ∧
        Path.Climbs first (searchPath w start)) ∧
    ∀ (w : Workspace) (start : Text), w.tree.IsTree → w.pathExists start = true →
      ∃ d, w.StartsIn start d ∧
        (∀ a, a <+: d → (∀ way, w.tree.at? (a ++ [fileName]) ≠ some (.link way)) → ∀ content,
          (w.entry (configFile a) = .ok (.file content) ↔
            w.tree.at? (a ++ [fileName]) = some (.file content))) ∧
        ((∃ hit, w.IsNearest d hit ∧
            (∃ content, w.entry (configFile hit) = .ok (.file content) ∧
              Reads (configFile hit) content (nearest w start)) ∧
            ∀ (w' : Workspace) (start' : Text), w'.tree.IsTree → w'.StartsIn start' d →
              (∀ a, hit <+: a → a <+: d → (w'.HoldsConfig a ↔ w.HoldsConfig a)) →
              w'.entry (configFile hit) = w.entry (configFile hit) →
                nearest w' start' = nearest w start) ∨
          (∀ a, a <+: d → ¬ w.HoldsConfig a) ∧ nearest w start = .ok {}) := by
  refine ⟨exists_climbs_searchPath, ?_⟩
  intro w start hw hexists
  obtain ⟨d, hstart⟩ := exists_startsIn hexists
  obtain ⟨entries, hat⟩ := hstart.exists_entries
  refine ⟨d, hstart, ?_, ?_⟩
  · intro a ha hlink
    obtain ⟨inside, habove⟩ := exists_entries_of_prefix hat ha
    exact entry_configFile_iff hw habove hlink
  · rcases firstConfig_cases (hstart.isName hw) with ⟨hit, hnearest, -⟩ | ⟨hnone, -⟩
    · have houtcome := nearest_of_isNearest hw hstart hnearest
      obtain ⟨content, hentry⟩ := hnearest.holds
      refine .inl ⟨hit, hnearest, ⟨content, hentry, ?_⟩, ?_⟩
      · rw [houtcome]
        exact reads_ofFile hentry
      · intro w' start' hw' hstart' hsame hfile
        rw [nearest_of_isNearest hw' hstart' (hnearest.congr hsame), ofFile_congr hfile, houtcome]
    · exact .inr ⟨hnone, nearest_of_none hw hstart hnone⟩

/-- A project in a directory. Its configuration file is spoilt, there is another one above if so
asked, and in the directory of the sources stands a directory of this name. -/
def spoilt (above : List (Text × Entry)) : Workspace where
  cwd := ["p".toList]
  tree := .directory (above ++ [("p".toList, .directory
    [(fileName, .file [0x5B]),
      ("src".toList, .directory [(fileName, .directory []), ("a.js".toList, .file [])])])])

def outerConfig : List (Text × Entry) :=
  [(fileName, .file [])]

theorem isTree_spoilt {above : List (Text × Entry)} (h : above = [] ∨ above = outerConfig) :
    (spoilt above).tree.IsTree := by
  have hsources : (Entry.directory
      [(fileName, .directory []), ("a.js".toList, .file [])]).IsTree := by
    refine .directory (by decide) (by decide) (List.forall_mem_cons.2 ⟨?_, ?_⟩)
    · exact .directory (List.forall_mem_nil _) .nil (List.forall_mem_nil _)
    · exact List.forall_mem_singleton.2 (.file _)
  have hproject : (Entry.directory [(fileName, .file [0x5B]), ("src".toList, .directory
      [(fileName, .directory []), ("a.js".toList, .file [])])]).IsTree :=
    .directory (by decide) (by decide)
      (List.forall_mem_cons.2 ⟨.file _, List.forall_mem_singleton.2 hsources⟩)
  rcases h with rfl | rfl
  · exact .directory (by decide) (by decide) (List.forall_mem_singleton.2 hproject)
  · exact .directory (by decide) (by decide)
      (List.forall_mem_cons.2 ⟨.file _, List.forall_mem_singleton.2 hproject⟩)

/-- A bracket alone is no configuration. -/
theorem Reads.eq_malformed {file : Text} {outcome : Except ConfigError LoadedConfig}
    (h : Reads file [0x5B] outcome) : outcome = .error (.malformed file) := by
  have hdecode : Text.Utf8.decode [0x5B] = .ok ['['] := by decide
  have hconfig : Config.ofText? ['['] = none := rfl
  cases h with
  | notText h =>
    rw [hdecode] at h
    cases h
  | malformed h => rfl
  | loaded h hloaded =>
    rw [hdecode] at h
    obtain rfl := Except.ok.inj h
    rw [hconfig] at hloaded
    cases hloaded

/-- From a file of the sources the search passes over the directory of the name and ends at the
spoilt file, whether or not there is a configuration file above. -/
theorem nearest_is_final_spoilt :
    (spoilt outerConfig).tree.IsTree ∧ (spoilt outerConfig).pathExists "src/a.js".toList = true ∧
      (spoilt outerConfig).HoldsConfig [] ∧ ¬ (spoilt []).HoldsConfig [] ∧
      nearest (spoilt outerConfig) "src/a.js".toList =
        .error (.malformed "/p/.keyscan.toml".toList) ∧
      nearest (spoilt []) "/p/src".toList =
        nearest (spoilt outerConfig) "src/a.js".toList := by
  have htree := isTree_spoilt (.inr rfl)
  have hexists : (spoilt outerConfig).pathExists "src/a.js".toList = true := by decide
  refine ⟨htree, hexists, by decide, by decide, ?_⟩
  obtain ⟨-, hsearch⟩ := nearest_is_final
  obtain ⟨d, hstart, -, hcases⟩ := hsearch _ _ htree hexists
  obtain rfl : d = ["p".toList, "src".toList] := by
    have hplace : (spoilt outerConfig).resolve "src/a.js".toList true =
        .ok (["p".toList, "src".toList] ++ ["a.js".toList]) := rfl
    cases hstart with
    | directory hresolve hat =>
      rw [hplace] at hresolve
      obtain rfl := Except.ok.inj hresolve
      cases hat
    | file hresolve hat =>
      rw [hplace] at hresolve
      exact (List.append_inj_left' (Except.ok.inj hresolve) rfl).symm
  have hplaces (a : Address) (ha : a <+: ["p".toList, "src".toList])
      (hbelow : ["p".toList] <+: a) :
      a = ["p".toList] ∨ a = ["p".toList, "src".toList] := by
    have hconcat : a <+: ["p".toList] ++ ["src".toList] := ha
    rcases List.prefix_concat_iff.1 hconcat with h | h
    · exact .inr h
    · exact .inl (h.eq_of_length_le hbelow.length_le)
  have hproject : (spoilt outerConfig).HoldsConfig ["p".toList] := by decide
  rcases hcases with ⟨hit, hnearest, ⟨content, hentry, hreads⟩, hother⟩ | ⟨hnone, -⟩
  · obtain rfl : hit = ["p".toList] := by
      have hbelow := hnearest.closest _ (List.prefix_append _ _) hproject
      rcases hplaces hit hnearest.above hbelow with h | h
      · exact h
      · rw [h] at hnearest
        exact absurd hnearest.holds (by decide)
    constructor
    · cases hentry
      exact hreads.eq_malformed
    · apply hother _ _ (isTree_spoilt (.inl rfl)) (.directory rfl rfl) _ rfl
      intro a hbelow ha
      rcases hplaces a ha hbelow with rfl | rfl
      · decide
      · decide
  · exact absurd hproject (hnone _ (List.prefix_append _ _))

end LoadedConfig

end SecretScan
