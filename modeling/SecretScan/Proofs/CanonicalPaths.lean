import SecretScan.Proofs.ParentPaths
import SecretScan.Proofs.ReadableFiles

/-!
Canonical paths. Whatever a path leads to is no link, since links are replaced by what they hold, so
the absolute path of its address goes through directories only and leads to the same entry. What is
named in a directory at an address is therefore found by one more step from there.
-/

namespace SecretScan

namespace Workspace

section Places

variable {tree : Entry} {links : Nat} {here address : Address} {segments : List Text}

theorem isPlace_of_step {jump : Address → List Text → Except PathFault Address}
    (hjump : ∀ start segments address, segments ≠ [] → jump start segments = .ok address →
      tree.IsPlace address)
    (hhere : segments ≠ [] ∨ tree.IsPlace here)
    (h : step tree jump true here segments = .ok address) : tree.IsPlace address := by
  induction segments generalizing here with
  | nil =>
    rw [step] at h
    obtain rfl := Except.ok.inj h
    exact hhere.resolve_left fun hne => hne rfl
  | cons s rest ih =>
    rcases step_cons tree here s with ⟨next, hplace, hnext⟩ | ⟨start, way, hway⟩ | ⟨fault, hfault⟩
    · rw [hnext] at h
      exact ih (.inr hplace) h
    · rw [hway] at h
      apply hjump _ _ _ _ h
      exact List.append_ne_nil_of_left_ne_nil (Text.splitOn_ne_nil '/' way) rest
    · rw [hfault] at h
      cases h

theorem isPlace_of_follow (hne : segments ≠ [])
    (h : follow tree true links here segments = .ok address) : tree.IsPlace address := by
  induction links generalizing here segments address with
  | zero =>
    apply isPlace_of_step _ (.inl hne) h
    intro start rest address _ hjump
    cases hjump
  | succ links ih =>
    apply isPlace_of_step _ (.inl hne) h
    intro start rest address hrest hjump
    exact ih hrest hjump

end Places

variable {w : Workspace} {address : Address} {name : Text} {e : Entry}
  {entries : List (Text × Entry)}

theorem isPlace_of_resolve {path : Text} (h : w.resolve path true = .ok address) :
    w.tree.IsPlace address := by
  rw [resolve] at h
  split at h
  · cases h
  · exact isPlace_of_follow (Text.splitOn_ne_nil '/' path) h

theorem entry_root (hroot : ∃ entries, w.tree = .directory entries) :
    w.entry Path.rootName = .ok w.tree := by
  obtain ⟨entries, htree⟩ := hroot
  have hat : w.tree.at? [] = some (.directory entries) := congrArg some htree
  refine entry_eq_ok.2 ⟨[], ?_, rfl⟩
  show step w.tree (follow w.tree true 39) true [] [[], []] = .ok []
  rw [step_blank hat, step_blank hat, step]

/-- The absolute path of a place leads to the entry there. -/
theorem entry_pathOf (hw : w.tree.IsTree) (hplace : w.tree.IsPlace address)
    (hat : w.tree.at? address = some e) : w.entry (pathOf address) = .ok e := by
  rw [pathOf_eq_descend (hw.at? hat).1]
  apply entry_descend (entry_root hplace.isDirectory) hw hat
  intro way hlink
  rw [hlink] at hat
  exact hplace.not_link way hat

theorem canonical_eq_pathOf {path : Text} (h : w.resolve path true = .ok address) :
    w.canonical path = pathOf address := by
  rw [canonical, h]

section Descent

variable {tree : Entry} {jump : Address → List Text → Except PathFault Address} {here : Address}
  {names rest : List Text}

/-- Directories are gone through by their names. -/
theorem step_descend (hnames : ∀ n ∈ names, Entry.IsName n)
    (hat : tree.at? (here ++ names) = some (.directory entries)) :
    step tree jump true here (names ++ rest) = step tree jump true (here ++ names) rest := by
  induction names generalizing here with
  | nil => rw [List.nil_append, List.append_nil]
  | cons name names ih =>
    rw [Entry.at?_append] at hat
    obtain ⟨e, hhere, hbelow⟩ := Option.bind_eq_some_iff.1 hat
    obtain ⟨next, hlookup, hnext⟩ := Entry.at?_cons.1 hbelow
    have hlink (way : Text) : next ≠ .link way := by
      intro heq
      rw [heq] at hnext
      cases (Entry.eq_nil_of_at? rfl hnext).2
    cases e with
    | file => cases hlookup
    | link => cases hlookup
    | directory inside =>
      have hconcat : tree.at? (here ++ [name] ++ names) = some (.directory entries) := by
        rw [Entry.at?_append, Entry.at?_concat hhere]
        show (inside.lookup name).bind _ = _
        rw [show inside.lookup name = some next from hlookup]
        exact hnext
      rw [List.cons_append, step_name hhere (hnames name List.mem_cons_self) hlookup hlink,
        ih (fun n hn => hnames n (List.mem_cons_of_mem _ hn)) hconcat, List.append_assoc,
        List.singleton_append]

end Descent

/-- What is named in a directory at an address is looked up there. -/
theorem resolve_pathOf_concat (hw : w.tree.IsTree)
    (hat : w.tree.at? address = some (.directory entries)) (hname : Entry.IsName name) :
    w.resolve (pathOf (address ++ [name])) true =
      step w.tree (follow w.tree true (linkLimit - 1)) true address [name] := by
  have hnames := (hw.at? hat).1
  have hall : ∀ n ∈ address ++ [name], Entry.IsName n :=
    List.forall_mem_append.2 ⟨hnames, List.forall_mem_singleton.2 hname⟩
  have hsplit : Text.splitOn '/' (pathOf (address ++ [name])) = [] :: (address ++ [name]) := by
    have hne : address ++ [name] ≠ [] := List.append_ne_nil_of_right_ne_nil _ (List.cons_ne_nil _ _)
    have hroot := Text.splitOn_append_sep '/' [] (Text.join ['/'] (address ++ [name]))
    rw [Text.splitOn_join hne fun n hn => (hall n hn).slash_not_mem] at hroot
    exact hroot
  obtain ⟨inside, htree⟩ := Entry.exists_directory_of_at? hat
  have hroot : w.tree.at? [] = some (.directory inside) := congrArg some htree
  show step w.tree (follow w.tree true (linkLimit - 1)) true [] (Text.splitOn '/' _) = _
  rw [hsplit, step_blank hroot, step_descend hnames hat, List.nil_append]

/-- A name that a directory does not have leads nowhere. -/
theorem resolve_pathOf_of_missing (hw : w.tree.IsTree)
    (hat : w.tree.at? address = some (.directory entries)) (hname : Entry.IsName name)
    (hnone : w.tree.at? (address ++ [name]) = none) :
    w.resolve (pathOf (address ++ [name])) true = .error .notFound := by
  rw [Entry.at?_concat hat] at hnone
  rw [resolve_pathOf_concat hw hat hname, step, hat]
  simp only [if_neg hname.not_skipped, if_neg hname.not_upward, hname.short, Bool.false_eq_true,
    if_false, hnone]

end Workspace

end SecretScan
