import SecretScan.Proofs.FileListing

/-!
Paths of what lies below a directory. Such a path is that of the directory, with a slash at its end,
and then the names that lead on from there, with slashes between them. The absolute path of an
address is an instance of this, with the root directory in front.
-/

namespace SecretScan

namespace Path

variable {root name : Text} {names : List Text}

def asDirectory (path : Text) : Text :=
  join path []

theorem asDirectory_of_not_slash (h : root ≠ []) (hslash : root.getLast? ≠ some '/') :
    asDirectory root = root ++ ['/'] := by
  simp [asDirectory, join, h, hslash]

theorem getLast?_asDirectory (h : root ≠ []) : (asDirectory root).getLast? = some '/' := by
  by_cases hslash : root.getLast? = some '/'
  · simp [asDirectory, join, hslash]
  · simp [asDirectory_of_not_slash h hslash]

theorem join_eq_asDirectory_append (hroot : root ≠ []) (hname : Entry.IsName name) :
    join root name = asDirectory root ++ name := by
  have hhead : ¬ name.head? = some '/' := by
    intro hslash
    exact hname.slash_not_mem (List.mem_of_head? hslash)
  by_cases hslash : root.getLast? = some '/'
  · simp [asDirectory, join, hslash, hhead]
  · rw [asDirectory_of_not_slash hroot hslash]
    simp [join, hslash, hhead, hroot]

theorem join_ne_nil (hroot : root ≠ []) (hname : Entry.IsName name) : join root name ≠ [] := by
  rw [join_eq_asDirectory_append hroot hname]
  exact List.append_ne_nil_of_right_ne_nil _ hname.ne_nil

theorem asDirectory_join (hroot : root ≠ []) (hname : Entry.IsName name) :
    asDirectory (join root name) = join root name ++ ['/'] := by
  apply asDirectory_of_not_slash (join_ne_nil hroot hname)
  rw [join_eq_asDirectory_append hroot hname, List.getLast?_append_of_ne_nil _ hname.ne_nil]
  intro hslash
  exact hname.slash_not_mem (List.mem_of_getLast? hslash)

/-- The path of what lies below a directory. -/
theorem descend_eq (hroot : root ≠ []) (hnames : ∀ name ∈ names, Entry.IsName name)
    (hne : names ≠ []) :
    names.foldl join root = asDirectory root ++ Text.join ['/'] names := by
  induction names generalizing root with
  | nil => exact absurd rfl hne
  | cons name names ih =>
    have hname := hnames name List.mem_cons_self
    have hjoin := join_eq_asDirectory_append hroot hname
    rw [List.foldl_cons]
    cases names with
    | nil => simp [hjoin, Text.join, List.intercalate]
    | cons next names =>
      have hbelow := ih (join_ne_nil hroot hname)
        (fun n hn => hnames n (List.mem_cons_of_mem _ hn)) (List.cons_ne_nil _ _)
      rw [hbelow, asDirectory_join hroot hname, hjoin, Text.join_cons_cons]
      simp only [List.append_assoc]

end Path

namespace Workspace

theorem pathOf_eq_descend {address : Address} (h : ∀ name ∈ address, Entry.IsName name) :
    pathOf address = address.foldl Path.join Path.rootName := by
  by_cases hne : address = []
  · rw [hne]
    rfl
  · have hdescend := @Path.descend_eq Path.rootName address (List.cons_ne_nil _ _) h hne
    rw [hdescend]
    rfl

theorem pathOf_concat {address : Address} {name : Text}
    (h : ∀ n ∈ address ++ [name], Entry.IsName n) :
    pathOf (address ++ [name]) = Path.join (pathOf address) name := by
  have haddress : ∀ n ∈ address, Entry.IsName n := fun n hn => h n (List.mem_append_left _ hn)
  rw [pathOf_eq_descend h, pathOf_eq_descend haddress, List.foldl_append]
  rfl

end Workspace

end SecretScan
