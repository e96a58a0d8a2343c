import Mathlib.Data.List.Lex
import SecretScan.FileTree.Workspace

/-!
Listings of file trees. In a tree every directory names its entries by single components of paths,
each of them once. The files at or below a path can then be listed in the order of names, directory
by directory, and this is the order of their paths by components, without repetitions.
-/

namespace SecretScan

namespace Path

def named (pieces : List Text) : List Text :=
  pieces.filter fun s => !s.isEmpty && s != ['.']

/-- Paths in order: they agree on some components, and then the first one ends or has the lesser
component. -/
def Precedes (a b : Text) : Prop :=
  List.Lex (fun s t => Text.le s t = true ∧ s ≠ t) (components a) (components b)

theorem Precedes.ne {a b : Text} (h : Precedes a b) : a ≠ b := by
  rintro rfl
  have hirrefl (l : List Text) : ¬ List.Lex (fun s t => Text.le s t = true ∧ s ≠ t) l l := by
    intro hl
    induction l with
    | nil => cases hl
    | cons s l ih =>
      cases hl with
      | rel hs => exact hs.2 rfl
      | cons hl => exact ih hl
  exact hirrefl _ h

theorem named_append (a b : List Text) : named (a ++ b) = named a ++ named b :=
  List.filter_append ..

theorem components_slash (s : Text) :
    components ('/' :: s) = rootName :: named (Text.splitOn '/' ('/' :: s)) := rfl

theorem components_of_head_ne {path : Text} (h : path.head? ≠ some '/') :
    components path = if (Text.splitOn '/' path).head? = some ['.']
      then ['.'] :: named (Text.splitOn '/' path).tail else named (Text.splitOn '/' path) := by
  unfold components
  split
  · exact absurd rfl h
  · split
    · rename_i hpieces
      rw [hpieces]
      rfl
    · rename_i hpieces
      rw [if_neg]
      · rfl
      · intro hdot
        obtain ⟨rest, hrest⟩ := List.head?_eq_some_iff.1 hdot
        exact hpieces rest hrest

/-- What follows a slash adds its names to the components. -/
theorem components_append_slash {path : Text} (h : path ≠ []) (s : Text) :
    components (path ++ '/' :: s) = components path ++ named (Text.splitOn '/' s) := by
  obtain ⟨c, rest, rfl⟩ := List.exists_cons_of_ne_nil h
  by_cases hc : c = '/'
  · subst hc
    rw [components_slash, List.cons_append, components_slash, ← List.cons_append,
      Text.splitOn_append_sep, named_append, List.cons_append]
  · have hhead : (c :: rest).head? ≠ some '/' := by simpa using hc
    have hhead' : ((c :: rest) ++ '/' :: s).head? ≠ some '/' := by simpa using hc
    obtain ⟨piece, pieces, hpieces⟩ :=
      List.exists_cons_of_ne_nil (Text.splitOn_ne_nil '/' (c :: rest))
    rw [components_of_head_ne hhead, components_of_head_ne hhead', Text.splitOn_append_sep, hpieces,
      List.cons_append, List.head?_cons, List.head?_cons, List.tail_cons, List.tail_cons]
    by_cases hdot : some piece = some ['.']
    · rw [if_pos hdot, if_pos hdot, named_append, List.cons_append]
    · rw [if_neg hdot, if_neg hdot, ← List.cons_append, named_append]

end Path

namespace Entry

structure IsName (name : Text) : Prop where
  ne_nil : name ≠ []
  slash_not_mem : '/' ∉ name
  ne_dot : name ≠ ['.']
  ne_dots : name ≠ ['.', '.']
  short : Workspace.isOverlong name = false

instance (name : Text) : Decidable (IsName name) :=
  decidable_of_iff (name ≠ [] ∧ '/' ∉ name ∧ name ≠ ['.'] ∧ name ≠ ['.', '.'] ∧
      Workspace.isOverlong name = false)
    ⟨fun ⟨h₁, h₂, h₃, h₄, h₅⟩ => ⟨h₁, h₂, h₃, h₄, h₅⟩,
      fun ⟨h₁, h₂, h₃, h₄, h₅⟩ => ⟨h₁, h₂, h₃, h₄, h₅⟩⟩

variable {name : Text}

theorem IsName.not_skipped (h : IsName name) : ¬ (name.isEmpty || name == ['.']) = true := by
  simp [h.ne_nil, h.ne_dot]

theorem IsName.not_upward (h : IsName name) : ¬ (name == ['.', '.']) = true := by
  simp [h.ne_dots]

/-- Every directory names its entries, each by another name. -/
inductive IsTree : Entry → Prop
  | file (content : List UInt8) : IsTree (.file content)
  | link (target : Text) : IsTree (.link target)
  | directory {entries : List (Text × Entry)} (names : ∀ x ∈ entries, IsName x.1)
      (distinct : (entries.map Prod.fst).Nodup) (inner : ∀ x ∈ entries, IsTree x.2) :
      IsTree (.directory entries)

mutual

def files (path : Text) : Entry → List Text
  | .file _ => [path]
  | .link _ => []
  | .directory entries =>
    ((filesAll path entries).mergeSort fun a b => Text.le a.1 b.1).flatMap (·.2)

def filesAll (directory : Text) : List (Text × Entry) → List (Text × List Text)
  | [] => []
  | (name, e) :: rest => (name, files (Path.join directory name) e) :: filesAll directory rest

end

end Entry

namespace Path

theorem components_join (directory : Text) {name : Text} (h : Entry.IsName name) :
    components (join directory name) = components directory ++ [name] := by
  have hsplit : Text.splitOn '/' name = [name] := Text.splitOn_of_not_mem h.slash_not_mem
  have hnamed : named [name] = [name] := by simp [named, h.ne_nil, h.ne_dot]
  have hhead : name.head? ≠ some '/' := fun hslash =>
    h.slash_not_mem (List.mem_of_head? hslash)
  rw [join, if_neg (by simpa using hhead)]
  by_cases hempty : directory = []
  · have hdot : [name].head? ≠ some ['.'] := by simpa using h.ne_dot
    rw [if_pos (by simp [hempty]), hempty, List.nil_append, components_of_head_ne hhead, hsplit,
      if_neg hdot, hnamed]
    rfl
  · by_cases hslash : directory.getLast? = some '/'
    · obtain ⟨front, rfl⟩ := List.getLast?_eq_some_iff.1 hslash
      rw [if_pos (by simp), List.append_assoc, List.singleton_append]
      cases front with
      | nil =>
        rw [List.nil_append, List.nil_append, components_slash, components_slash,
          ← List.nil_append ('/' :: name), Text.splitOn_append_sep, named_append, hsplit, hnamed]
        rfl
      | cons c front =>
        have hne : c :: front ≠ [] := List.cons_ne_nil c front
        rw [components_append_slash hne, components_append_slash hne, hsplit, hnamed]
        simp [named, Text.splitOn]
    · rw [if_neg (by simp [hempty, hslash]), components_append_slash hempty, hsplit, hnamed]

theorem components_descend (path : Text) {names : List Text} (h : ∀ name ∈ names, Entry.IsName name) :
    components (names.foldl join path) = components path ++ names := by
  induction names generalizing path with
  | nil => rw [List.append_nil]; rfl
  | cons name names ih =>
    rw [List.foldl_cons, ih _ fun next hnext => h next (List.mem_cons_of_mem _ hnext),
      components_join path (h name List.mem_cons_self), List.append_assoc, List.singleton_append]

end Path

namespace Entry

theorem at?_cons {e inner : Entry} {name : Text} {names : List Text} :
    e.at? (name :: names) = some inner ↔
      ∃ next, e.entries.lookup name = some next ∧ next.at? names = some inner := by
  rw [at?]
  cases e.entries.lookup name with
  | none => simp
  | some next => simp

/-- Nothing lies below an entry without entries. -/
theorem eq_nil_of_at? {e inner : Entry} {names : List Text} (he : e.entries = [])
    (h : e.at? names = some inner) : names = [] ∧ e = inner := by
  cases names with
  | nil => exact ⟨rfl, Option.some.inj h⟩
  | cons name names =>
    obtain ⟨next, hlookup, -⟩ := at?_cons.1 h
    rw [he] at hlookup
    cases hlookup

/-- Going on from an entry inside. -/
theorem at?_append (e : Entry) (a b : Address) :
    e.at? (a ++ b) = (e.at? a).bind fun inner => inner.at? b := by
  induction a generalizing e with
  | nil => rfl
  | cons name a ih =>
    rw [List.cons_append, at?, at?]
    cases e.entries.lookup name with
    | none => rfl
    | some next => exact ih next

theorem mem_of_lookup {α : Type} {entries : List (Text × α)} {name : Text} {x : α}
    (h : entries.lookup name = some x) : (name, x) ∈ entries := by
  obtain ⟨front, behind, rfl, -⟩ := List.lookup_eq_some_iff.1 h
  simp

/-- Where names are distinct, an entry is found under its name. -/
theorem lookup_of_mem {α : Type} {entries : List (Text × α)} {name : Text} {x : α}
    (hdistinct : (entries.map Prod.fst).Nodup) (h : (name, x) ∈ entries) :
    entries.lookup name = some x := by
  obtain ⟨front, behind, rfl⟩ := List.append_of_mem h
  refine List.lookup_eq_some_iff.2 ⟨front, behind, rfl, fun p hp => ?_⟩
  rw [List.map_append, List.map_cons] at hdistinct
  have hne : p.1 ≠ name :=
    (List.pairwise_append.1 hdistinct).2.2 p.1 (List.mem_map_of_mem hp) name List.mem_cons_self
  simpa using hne.symm

theorem filesAll_eq_map (directory : Text) (entries : List (Text × Entry)) :
    filesAll directory entries = entries.map fun x => (x.1, x.2.files (Path.join directory x.1)) := by
  induction entries with
  | nil => rfl
  | cons x entries ih => rw [filesAll, ih, List.map_cons]

theorem files_directory (path : Text) (entries : List (Text × Entry)) :
    (directory entries).files path = (entries.mergeSort fun a b => Text.le a.1 b.1).flatMap
      fun x => x.2.files (Path.join path x.1) := by
  have hsort := @List.map_mergeSort (Text × Entry) (Text × List Text)
    (fun a b => Text.le a.1 b.1) (fun a b => Text.le a.1 b.1)
    (fun x => (x.1, x.2.files (Path.join path x.1))) entries fun _ _ _ _ => rfl
  rw [files, filesAll_eq_map, ← hsort, List.flatMap_map]

theorem IsTree.at? {e inner : Entry} {names : List Text} (he : e.IsTree)
    (h : e.at? names = some inner) : (∀ name ∈ names, IsName name) ∧ inner.IsTree := by
  induction names generalizing e with
  | nil =>
    obtain rfl := Option.some.inj h
    exact ⟨fun name hname => absurd hname List.not_mem_nil, he⟩
  | cons name names ih =>
    obtain ⟨next, hlookup, hnext⟩ := at?_cons.1 h
    cases he with
    | file => cases hlookup
    | link => cases hlookup
    | directory hnames _ hinner =>
      have hmem := mem_of_lookup hlookup
      obtain ⟨hrest, htree⟩ := ih (hinner _ hmem) hnext
      refine ⟨fun n hn => ?_, htree⟩
      rcases List.mem_cons.1 hn with rfl | hn
      · exact hnames _ hmem
      · exact hrest n hn

/-- The listing has the files of the tree and nothing else. -/
theorem mem_files_iff {e : Entry} (he : e.IsTree) {path file : Text} :
    file ∈ e.files path ↔
      ∃ names content, e.at? names = some (.file content) ∧ file = names.foldl Path.join path := by
  induction he generalizing path with
  | file content =>
    rw [files, List.mem_singleton]
    constructor
    · rintro rfl
      exact ⟨[], content, rfl, rfl⟩
    · rintro ⟨names, content', h, rfl⟩
      obtain ⟨rfl, -⟩ := eq_nil_of_at? rfl h
      rfl
  | link target =>
    constructor
    · intro h
      cases h
    · rintro ⟨names, content, h, -⟩
      obtain ⟨-, h⟩ := eq_nil_of_at? rfl h
      cases h
  | @directory entries hnames hdistinct hinner ih =>
    rw [files_directory, List.mem_flatMap]
    constructor
    · rintro ⟨⟨name, e⟩, hmem, hfile⟩
      rw [List.mem_mergeSort] at hmem
      obtain ⟨names, content, hat, rfl⟩ := (ih _ hmem).1 hfile
      exact ⟨name :: names, content, at?_cons.2 ⟨e, lookup_of_mem hdistinct hmem, hat⟩, rfl⟩
    · rintro ⟨names, content, hat, rfl⟩
      cases names with
      | nil => cases hat
      | cons name names =>
        obtain ⟨next, hlookup, hnext⟩ := at?_cons.1 hat
        have hmem := mem_of_lookup hlookup
        refine ⟨(name, next), List.mem_mergeSort.2 hmem, ?_⟩
        exact (ih _ hmem).2 ⟨names, content, hnext, rfl⟩

/-- Whatever is listed at a path lies at the path or below it. -/
theorem components_of_mem_files {e : Entry} (he : e.IsTree) {path file : Text}
    (h : file ∈ e.files path) :
    ∃ names, Path.components file = Path.components path ++ names := by
  obtain ⟨names, content, hat, rfl⟩ := (mem_files_iff he).1 h
  exact ⟨names, Path.components_descend path (he.at? hat).1⟩

/-- Entries in the order of their names, which are distinct, have names that increase. -/
theorem pairwise_names {entries : List (Text × Entry)} (h : (entries.map Prod.fst).Nodup) :
    (entries.mergeSort fun a b => Text.le a.1 b.1).Pairwise
      fun a b => Text.le a.1 b.1 = true ∧ a.1 ≠ b.1 := by
  have hle := @List.pairwise_mergeSort _ (fun a b : Text × Entry => Text.le a.1 b.1)
    (fun _ _ _ => Text.le_trans) (fun a b => Text.le_total a.1 b.1) entries
  have hne : (entries.mergeSort fun a b => Text.le a.1 b.1).Pairwise fun a b => a.1 ≠ b.1 :=
    (List.Perm.pairwise_iff Ne.symm (List.mergeSort_perm entries _)).2 (List.pairwise_map.1 h)
  exact hle.and hne

/-- The listing is in the order of paths: two of them part in a directory, at names that increase. -/
theorem pairwise_files {e : Entry} (he : e.IsTree) (path : Text) :
    (e.files path).Pairwise Path.Precedes := by
  induction he generalizing path with
  | file => exact List.pairwise_singleton _ _
  | link => exact .nil
  | @directory entries hnames hdistinct hinner ih =>
    rw [files_directory, List.pairwise_flatMap]
    constructor
    · intro x hx
      exact ih x (List.mem_mergeSort.1 hx) _
    · refine (pairwise_names hdistinct).imp_of_mem fun {x y} hx hy hlt => ?_
      have hx := List.mem_mergeSort.1 hx
      have hy := List.mem_mergeSort.1 hy
      intro a ha b hb
      obtain ⟨below, hbelow⟩ := components_of_mem_files (hinner x hx) ha
      obtain ⟨below', hbelow'⟩ := components_of_mem_files (hinner y hy) hb
      rw [Path.components_join path (hnames x hx), List.append_assoc, List.singleton_append]
        at hbelow
      rw [Path.components_join path (hnames y hy), List.append_assoc, List.singleton_append]
        at hbelow'
      rw [Path.Precedes, hbelow, hbelow']
      exact List.Lex.append_left (fun s t => Text.le s t = true ∧ s ≠ t) (.rel hlt) _

end Entry

namespace Workspace

/-- The entry lies at the path, which is the root or leads on from it by the names of a tree. -/
def Holds (w : Workspace) (root path : Text) (inner : Entry) : Prop :=
  ∃ e names, w.entry root = .ok e ∧ e.at? names = some inner ∧ path = names.foldl Path.join root

end Workspace

end SecretScan
