import SecretScan.Proofs.PathDescent

/-!
The way up from a path. A parent is shorter than the path, so that going from parent to parent comes
to an end with every path, at one that has no parent. From the absolute path of an address it goes
through the absolute paths of all shorter addresses, down to that of the root directory.
-/

namespace SecretScan

namespace Path

theorem length_dropBlankEnd_le (s : Text) : (dropBlankEnd s).length ≤ s.length := by
  fun_induction dropBlankEnd s with
  | case1 rest hempty => simp
  | case2 rest hrest ih => exact Nat.le_succ_of_le ih
  | case3 rest ih =>
    simp only [List.length_cons] at ih ⊢
    omega
  | case4 other => exact Nat.le_refl _

/-- Without blanks at its end only the root directory ends with a slash. -/
theorem eq_root_of_dropBlankEnd {s rest : Text} (h : dropBlankEnd s = '/' :: rest) : rest = [] := by
  fun_induction dropBlankEnd s with
  | case1 rest' hempty => exact (List.cons.inj h).2.symm
  | case2 rest' hrest ih => exact ih h
  | case3 rest' ih => exact ih h
  | case4 other hslash hdot => exact absurd h (hslash _)

theorem length_parent?_lt {path above : Text} (h : parent? path = some above) :
    above.length < path.length := by
  have hle := length_dropBlankEnd_le path.reverse
  rw [List.length_reverse] at hle
  unfold parent? at h
  split at h
  · cases h
  · cases h
  · rename_i last hnil hroot
    obtain rfl := Option.some.inj h
    cases hlast : dropBlankEnd path.reverse with
    | nil => exact absurd hlast hnil
    | cons c rest =>
      have hc : c ≠ '/' := by
        intro hc
        rw [hc] at hlast
        rw [eq_root_of_dropBlankEnd hlast] at hlast
        exact hroot hlast
      have habove := length_dropBlankEnd_le (rest.dropWhile (· != '/'))
      have hdrop := (List.dropWhile_suffix (· != '/') (l := rest)).length_le
      rw [hlast] at hle
      rw [List.length_reverse, List.dropWhile_cons_of_pos (by simpa using hc)]
      simp only [List.length_cons] at hle
      omega

/-- The way up from a path: to its parent, and so on to a path that has none. -/
inductive Climbs : Text → List Text → Prop
  | top {path : Text} (h : parent? path = none) : Climbs path [path]
  | up {path above : Text} {rest : List Text} (h : parent? path = some above)
      (hrest : Climbs above rest) : Climbs path (path :: rest)

theorem Climbs.unique {path : Text} {a b : List Text} (ha : Climbs path a) (hb : Climbs path b) :
    a = b := by
  induction ha generalizing b with
  | top h =>
    cases hb with
    | top => rfl
    | up h' => rw [h] at h'; cases h'
  | up h hrest ih =>
    cases hb with
    | top h' => rw [h] at h'; cases h'
    | up h' hrest' =>
      rw [h] at h'
      obtain rfl := Option.some.inj h'
      rw [ih hrest']

/-- The bound on the number of parents is never reached. -/
theorem climbs_selfAndParents {n : Nat} {path : Text} (h : path.length ≤ n) :
    Climbs path (selfAndParents n path) := by
  induction n generalizing path with
  | zero =>
    obtain rfl := List.eq_nil_of_length_eq_zero (Nat.le_zero.1 h)
    exact .top rfl
  | succ n ih =>
    rw [selfAndParents]
    cases hparent : parent? path with
    | none => exact .top hparent
    | some above =>
      have hlt := length_parent?_lt hparent
      exact .up hparent (ih (by omega))

theorem climbs_ancestors (path : Text) : Climbs path (ancestors path) :=
  climbs_selfAndParents (Nat.le_refl _)

theorem ancestors_of_parent?_eq_none {path : Text} (h : parent? path = none) :
    ancestors path = [path] :=
  (climbs_ancestors path).unique (.top h)

theorem ancestors_of_parent?_eq_some {path above : Text} (h : parent? path = some above) :
    ancestors path = path :: ancestors above :=
  (climbs_ancestors path).unique (.up h (climbs_ancestors above))

variable {root name : Text}

/-- No blanks stand behind a name. -/
theorem dropBlankEnd_of_isName (h : Entry.IsName name) (rest : Text) :
    dropBlankEnd (name.reverse ++ '/' :: rest) = name.reverse ++ '/' :: rest := by
  obtain ⟨c, front, hname⟩ := List.exists_cons_of_ne_nil (mt List.reverse_eq_nil_iff.1 h.ne_nil)
  have hmem (d : Char) (hd : d ∈ c :: front) : d ≠ '/' := by
    intro hslash
    rw [← hname, List.mem_reverse, hslash] at hd
    exact h.slash_not_mem hd
  rw [hname, List.cons_append]
  unfold dropBlankEnd
  split
  · rename_i heq
    exact absurd (List.cons.inj heq).1 (hmem c List.mem_cons_self)
  · rename_i heq
    obtain ⟨rfl, hbehind⟩ := List.cons.inj heq
    cases front with
    | nil => exact absurd (List.reverse_eq_iff.1 hname) h.ne_dot
    | cons d front =>
      have hd := hmem d (List.mem_cons_of_mem _ List.mem_cons_self)
      exact absurd (List.cons.inj hbehind).1 hd
  · rfl

theorem exists_reverse_join (hroot : root ≠ []) (hname : Entry.IsName name) :
    ∃ front, (asDirectory root).reverse = '/' :: front ∧
      (join root name).reverse = name.reverse ++ '/' :: front := by
  obtain ⟨front, hfront⟩ := List.getLast?_eq_some_iff.1 (getLast?_asDirectory hroot)
  refine ⟨front.reverse, by simp [hfront], ?_⟩
  rw [join_eq_asDirectory_append hroot hname, hfront]
  simp

theorem dropBlankEnd_join (hroot : root ≠ []) (hname : Entry.IsName name) :
    dropBlankEnd (join root name).reverse = (join root name).reverse := by
  obtain ⟨front, -, hjoin⟩ := exists_reverse_join hroot hname
  rw [hjoin, dropBlankEnd_of_isName hname]

/-- The parent of what lies in a directory is the directory, without the blanks at its end. -/
theorem parent?_join (hroot : root ≠ []) (hname : Entry.IsName name) :
    parent? (join root name) = some (dropBlankEnd (asDirectory root).reverse).reverse := by
  obtain ⟨front, hfront, hjoin⟩ := exists_reverse_join hroot hname
  have hslash : ∀ c ∈ name.reverse, (c != '/') = true := by
    intro c hc
    rw [bne_iff_ne]
    intro heq
    exact hname.slash_not_mem (heq ▸ List.mem_reverse.1 hc)
  have hdrop : (name.reverse ++ '/' :: front).dropWhile (· != '/') =
      (asDirectory root).reverse := by
    rw [List.dropWhile_append_of_pos hslash, hfront]
    simp
  unfold parent?
  rw [dropBlankEnd_join hroot hname, hjoin]
  split
  · rename_i heq
    simp at heq
  · rename_i heq
    have hlength := congrArg List.length heq
    have hpos := List.length_pos_of_ne_nil hname.ne_nil
    simp only [List.length_append, List.length_reverse, List.length_cons, List.length_nil]
      at hlength
    omega
  · rw [hdrop]

end Path

namespace Workspace

variable {address : Address} {name : Text}

theorem pathOf_ne_nil (address : Address) : pathOf address ≠ [] :=
  List.cons_ne_nil _ _

theorem dropBlankEnd_asDirectory (h : ∀ n ∈ address, Entry.IsName n) :
    Path.dropBlankEnd (Path.asDirectory (pathOf address)).reverse = (pathOf address).reverse := by
  rcases List.eq_nil_or_concat address with rfl | ⟨above, name, rfl⟩
  · rfl
  · rw [List.concat_eq_append] at h ⊢
    have hname : Entry.IsName name := h name (List.mem_append_right _ List.mem_cons_self)
    have hroot := pathOf_ne_nil above
    have hpath := Path.join_ne_nil hroot hname
    rw [pathOf_concat h, Path.asDirectory_join hroot hname, List.reverse_append,
      List.reverse_singleton, List.singleton_append, Path.dropBlankEnd,
      if_neg (by simpa using hpath), Path.dropBlankEnd_join hroot hname]

theorem parent?_pathOf_concat (h : ∀ n ∈ address ++ [name], Entry.IsName n) :
    Path.parent? (pathOf (address ++ [name])) = some (pathOf address) := by
  have hname := h name (List.mem_append_right _ List.mem_cons_self)
  rw [pathOf_concat h, Path.parent?_join (pathOf_ne_nil address) hname, dropBlankEnd_asDirectory,
    List.reverse_reverse]
  intro n hn
  exact h n (List.mem_append_left _ hn)

theorem ancestors_pathOf_concat (h : ∀ n ∈ address ++ [name], Entry.IsName n) :
    Path.ancestors (pathOf (address ++ [name])) =
      pathOf (address ++ [name]) :: Path.ancestors (pathOf address) :=
  Path.ancestors_of_parent?_eq_some (parent?_pathOf_concat h)

end Workspace

end SecretScan
