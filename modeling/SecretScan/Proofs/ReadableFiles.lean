import SecretScan.Proofs.UnprunedWalk

/-!
Whatever a listing or a walk finds can be read. Resolving a path takes its segments one by one, so
the last segments can be exchanged for others as soon as these lead on from wherever the old ones
did. The path of an entry of a directory therefore leads to that entry, be it spelled with a slash
at the end of the directory or not, and by induction so does the path of every entry of a tree.
-/

namespace SecretScan

namespace Entry

/-- An address that paths can come to: it lies below a directory, and no link is there. -/
structure IsPlace (tree : Entry) (address : Address) : Prop where
  isDirectory : ∃ entries, tree = .directory entries
  not_link : ∀ way, tree.at? address ≠ some (.link way)

variable {tree : Entry} {here : Address} {entries : List (Text × Entry)}

theorem at?_concat (hat : tree.at? here = some (.directory entries)) (name : Text) :
    tree.at? (here ++ [name]) = entries.lookup name := by
  rw [at?_append, hat, Option.bind_some]
  cases hlookup : entries.lookup name with
  | none => simp [at?, Entry.entries, hlookup]
  | some inner => simp [at?, Entry.entries, hlookup]

/-- Whatever has something below it is a directory. -/
theorem exists_entries_of_append {below : Address} {inner : Entry} (hne : below ≠ [])
    (hat : tree.at? (here ++ below) = some inner) :
    ∃ entries, tree.at? here = some (.directory entries) := by
  rw [at?_append] at hat
  obtain ⟨e, hhere, hbelow⟩ := Option.bind_eq_some_iff.1 hat
  cases e with
  | directory entries => exact ⟨entries, hhere⟩
  | file => exact absurd (eq_nil_of_at? rfl hbelow).1 hne
  | link => exact absurd (eq_nil_of_at? rfl hbelow).1 hne

theorem exists_directory_of_at? (hat : tree.at? here = some (.directory entries)) :
    ∃ entries, tree = .directory entries := by
  by_cases hhere : here = []
  · rw [hhere] at hat
    exact ⟨entries, Option.some.inj hat⟩
  · obtain ⟨entries, htree⟩ := @exists_entries_of_append tree [] here _ hhere hat
    exact ⟨entries, Option.some.inj htree⟩

theorem isPlace_of_directory (hat : tree.at? here = some (.directory entries)) :
    tree.IsPlace here where
  isDirectory := exists_directory_of_at? hat
  not_link := by
    intro way hlink
    rw [hat] at hlink
    cases hlink

theorem isPlace_dropLast (hat : tree.at? here = some (.directory entries)) :
    tree.IsPlace here.dropLast := by
  rcases List.eq_nil_or_concat here with rfl | ⟨above, name, rfl⟩
  · exact isPlace_of_directory hat
  · rw [List.concat_eq_append] at hat ⊢
    rw [List.dropLast_concat]
    obtain ⟨entries, habove⟩ := exists_entries_of_append (List.cons_ne_nil _ _) hat
    exact isPlace_of_directory habove

end Entry

namespace Workspace

/-- A segment leads on to a place in the tree, or through a link, or nowhere, and which of these it is
does not depend on the segments behind it. -/
theorem step_cons (tree : Entry) (here : Address) (s : Text) :
    (∃ next, tree.IsPlace next ∧
        ∀ jump rest, step tree jump true here (s :: rest) = step tree jump true next rest) ∨
      (∃ start way, ∀ jump rest,
        step tree jump true here (s :: rest) = jump start (Text.splitOn '/' way ++ rest)) ∨
      ∃ fault, ∀ jump rest, step tree jump true here (s :: rest) = .error fault := by
  cases hat : tree.at? here with
  | none => exact .inr (.inr ⟨.notDirectory, fun _ _ => by rw [step, hat]⟩)
  | some e =>
    cases e with
    | file => exact .inr (.inr ⟨.notDirectory, fun _ _ => by rw [step, hat]⟩)
    | link => exact .inr (.inr ⟨.notDirectory, fun _ _ => by rw [step, hat]⟩)
    | directory entries =>
      have hhere := Entry.isPlace_of_directory hat
      have hnext := Entry.at?_concat hat s
      simp only [step, hat, Bool.not_true, Bool.and_false, Bool.false_eq_true, if_false]
      by_cases hdot : (s.isEmpty || s == ['.']) = true
      · exact .inl ⟨here, hhere, fun _ _ => if_pos hdot⟩
      by_cases hdots : (s == ['.', '.']) = true
      · have habove := Entry.isPlace_dropLast hat
        exact .inl ⟨here.dropLast, habove, fun _ _ => by rw [if_neg hdot, if_pos hdots]⟩
      by_cases hlong : isOverlong s = true
      · exact .inr (.inr ⟨_, fun _ _ => by rw [if_neg hdot, if_neg hdots, if_pos hlong]⟩)
      simp only [if_neg hdot, if_neg hdots, if_neg hlong]
      cases hlookup : entries.lookup s with
      | none => exact .inr (.inr ⟨_, fun _ _ => rfl⟩)
      | some inner =>
        rw [hlookup] at hnext
        cases inner with
        | file =>
          exact .inl ⟨here ++ [s], ⟨hhere.isDirectory, by simp [hnext]⟩, fun _ _ => rfl⟩
        | directory =>
          exact .inl ⟨here ++ [s], ⟨hhere.isDirectory, by simp [hnext]⟩, fun _ _ => rfl⟩
        | link way =>
          by_cases hway : way.isEmpty = true
          · exact .inr (.inr ⟨_, fun _ _ => if_pos hway⟩)
          · exact .inr (.inl ⟨_, way, fun _ _ => if_neg hway⟩)

section Segments

variable {tree : Entry} {target other : Address} {old new : List Text}

/-- Where the last segments lead is all that counts about them, provided that the same holds behind
links. -/
theorem step_exchange {jump : Address → List Text → Except PathFault Address}
    (hjump : ∀ here segments, jump here (segments ++ old) = .ok target →
      jump here (segments ++ new) = .ok other)
    (hlast : ∀ here, step tree jump true here old = .ok target →
      step tree jump true here new = .ok other)
    {here : Address} {segments : List Text}
    (h : step tree jump true here (segments ++ old) = .ok target) :
    step tree jump true here (segments ++ new) = .ok other := by
  induction segments generalizing here with
  | nil => exact hlast here h
  | cons s rest ih =>
    rw [List.cons_append] at h ⊢
    rcases step_cons tree here s with ⟨next, -, hnext⟩ | ⟨start, way, hway⟩ | ⟨fault, hfault⟩
    · rw [hnext] at h ⊢
      exact ih h
    · rw [hway, ← List.append_assoc] at h ⊢
      exact hjump _ _ h
    · rw [hfault] at h
      cases h

theorem follow_exchange {links : Nat}
    (hlast : ∀ jump here, step tree jump true here old = .ok target →
      step tree jump true here new = .ok other)
    {here : Address} {segments : List Text}
    (h : follow tree true links here (segments ++ old) = .ok target) :
    follow tree true links here (segments ++ new) = .ok other := by
  induction links generalizing here segments with
  | zero => exact step_exchange (fun _ _ h => by cases h) (hlast _) h
  | succ links ih => exact step_exchange (fun _ _ h => ih h) (hlast _) h

end Segments

variable {w : Workspace}

/-- A name leads from a directory to its entry, whatever would happen behind links. -/
theorem step_name {tree : Entry} {jump : Address → List Text → Except PathFault Address}
    {here : Address} {entries : List (Text × Entry)} {name : Text} {inner : Entry}
    (hat : tree.at? here = some (.directory entries)) (hname : Entry.IsName name)
    (hlookup : entries.lookup name = some inner) (hlink : ∀ way, inner ≠ .link way)
    (rest : List Text) :
    step tree jump true here (name :: rest) = step tree jump true (here ++ [name]) rest := by
  rw [step, hat]
  simp only [if_neg hname.not_skipped, if_neg hname.not_upward, hname.short, Bool.false_eq_true,
    if_false, hlookup]

theorem step_blank {tree : Entry} {jump : Address → List Text → Except PathFault Address}
    {here : Address} {entries : List (Text × Entry)}
    (hat : tree.at? here = some (.directory entries)) (rest : List Text) :
    step tree jump true here ([] :: rest) = step tree jump true here rest := by
  rw [step, hat]
  exact if_pos rfl

theorem eq_of_step_blank {tree : Entry} {jump : Address → List Text → Except PathFault Address}
    {here target : Address} (h : step tree jump true here [[]] = .ok target) : here = target := by
  rw [step] at h
  split at h
  · simp only [List.isEmpty_nil, Bool.true_or, if_true, step] at h
    exact Except.ok.inj h
  · cases h

theorem base_append {path : Text} (h : path ≠ []) (more : Text) (here : Address) :
    base (path ++ more) here = base path here := by
  rw [base, base, List.head?_append_of_ne_nil path h]

/-- The path of an entry of a directory leads to the entry. Where the path of the directory ends with
a slash, the blank segment behind it gives way to the name. -/
theorem entry_join {directory name : Text} {entries : List (Text × Entry)} {inner : Entry}
    (hentry : w.entry directory = .ok (.directory entries)) (hname : Entry.IsName name)
    (hlookup : entries.lookup name = some inner) (hlink : ∀ way, inner ≠ .link way) :
    w.entry (Path.join directory name) = .ok inner := by
  obtain ⟨address, hresolve, hat⟩ := entry_eq_ok.1 hentry
  have hat' : w.tree.at? (address ++ [name]) = some inner := by
    rw [Entry.at?_concat hat, hlookup]
  refine entry_eq_ok.2 ⟨address ++ [name], ?_, hat'⟩
  rw [resolve] at hresolve
  split at hresolve
  · cases hresolve
  rename_i hempty
  have hne : directory ≠ [] := fun hnil => hempty (by rw [hnil]; rfl)
  have hsplit : Text.splitOn '/' name = [name] := Text.splitOn_of_not_mem hname.slash_not_mem
  have hhead : ¬ (name.head? == some '/') = true := fun hslash =>
    hname.slash_not_mem (List.mem_of_head? (eq_of_beq hslash))
  have hstep (jump : Address → List Text → Except PathFault Address) :
      step w.tree jump true address [name] = .ok (address ++ [name]) := by
    rw [step_name hat hname hlookup hlink, step]
  rw [Path.join, if_neg hhead]
  by_cases hslash : directory.getLast? = some '/'
  · rw [if_pos (by simp [hslash]), resolve, if_neg (by simp [hne]), base_append hne]
    obtain ⟨front, rfl⟩ := List.getLast?_eq_some_iff.1 hslash
    rw [List.append_assoc, List.singleton_append, Text.splitOn_append_sep, hsplit]
    rw [Text.splitOn_append_sep] at hresolve
    refine follow_exchange (fun jump here hblank => ?_) hresolve
    rw [eq_of_step_blank hblank]
    exact hstep jump
  · rw [if_neg (by simp [hne, hslash]), resolve, if_neg (by simp), base_append hne,
      Text.splitOn_append_sep, hsplit]
    rw [← List.append_nil (Text.splitOn '/' directory)] at hresolve
    refine follow_exchange (fun jump here hend => ?_) hresolve
    rw [step] at hend
    obtain rfl := Except.ok.inj hend
    exact hstep jump

/-- The path of every entry below a directory of a tree leads to the entry, links excepted. -/
theorem entry_descend {path : Text} {e inner : Entry} {names : List Text}
    (hentry : w.entry path = .ok e) (he : e.IsTree) (hat : e.at? names = some inner)
    (hlink : ∀ way, inner ≠ .link way) : w.entry (names.foldl Path.join path) = .ok inner := by
  induction names generalizing path e with
  | nil =>
    obtain rfl := Option.some.inj hat
    exact hentry
  | cons name names ih =>
    obtain ⟨next, hlookup, hnext⟩ := Entry.at?_cons.1 hat
    have hnotLink (way : Text) : next ≠ .link way := by
      rintro rfl
      exact hlink way (Entry.eq_nil_of_at? rfl hnext).2.symm
    cases he with
    | file => cases hlookup
    | link => cases hlookup
    | directory hnames _ hinner =>
      have hmem := Entry.mem_of_lookup hlookup
      exact ih (entry_join hentry (hnames _ hmem) hlookup hnotLink) (hinner _ hmem) hnext

/-- Every file of a tree can be read at its path. -/
theorem read_of_holds (hw : w.tree.IsTree) {root path : Text} {content : List UInt8}
    (h : w.Holds root path (.file content)) : w.read path = .ok content := by
  obtain ⟨e, names, hentry, hat, rfl⟩ := h
  rw [read, entry_descend hentry (isTree_of_entry hw hentry) hat fun way heq => by cases heq]
  rfl

theorem exists_read_of_isFile {path : Text} (h : w.isFile path = true) :
    ∃ content, w.read path = .ok content := by
  obtain ⟨content, hentry⟩ := isFile_iff.1 h
  refine ⟨content, ?_⟩
  rw [read, hentry]
  rfl

end Workspace

theorem exists_read_of_discoverFiles {w : Workspace} (hw : w.tree.IsTree) {root : Text}
    {selector : Selector} {allKinds : Bool} {file : SourceFile}
    (h : file ∈ (discoverFiles w root selector allKinds).files) :
    ∃ content, w.read file.path = .ok content := by
  have hfile := files_discoverFiles_subset hw root selector allKinds h
  obtain ⟨path, hpath, rfl⟩ := List.mem_map.1 hfile
  obtain ⟨content, hholds⟩ := (Workspace.mem_filePaths hw path).1 (List.mem_filter.1 hpath).1
  exact ⟨content, Workspace.read_of_holds hw hholds⟩

end SecretScan
