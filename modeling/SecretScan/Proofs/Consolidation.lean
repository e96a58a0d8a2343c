import Mathlib.Data.List.Basic
import Mathlib.Data.List.Induction
import SecretScan.Finding
import SecretScan.Proofs.StableOrder

/-!
The order and the repetitions of findings. Dropping repetitions keeps the first finding of every
kind, text and place; sorting leaves the findings of one place in the order they had. A list in
order is determined by what it holds at each place, so two lists that agree place by place are
consolidated to the same one.
-/

namespace SecretScan.Finding

def place (f : Finding) : Text × Nat :=
  (f.fileKey, f.line)

def key (f : Finding) : Text × Nat × Text :=
  (f.kind, f.line, f.matched)

theorem repeats_iff (f g : Finding) :
    f.repeats g = true ↔ f.fileKey = g.fileKey ∧ f.key = g.key := by
  simp only [repeats, key, Bool.and_eq_true, beq_iff_eq, Prod.mk.injEq]
  constructor
  · rintro ⟨⟨⟨hline, hmatched⟩, hkind⟩, hfile⟩
    exact ⟨hfile, hkind, hline, hmatched⟩
  · rintro ⟨hfile, hkind, hline, hmatched⟩
    exact ⟨⟨⟨hline, hmatched⟩, hkind⟩, hfile⟩

theorem repeats_refl (f : Finding) : f.repeats f = true :=
  (repeats_iff f f).2 ⟨rfl, rfl⟩

theorem repeats_trans {f g h : Finding} (hfg : f.repeats g = true) (hgh : g.repeats h = true) :
    f.repeats h = true := by
  rw [repeats_iff] at *
  exact ⟨hfg.1.trans hgh.1, hfg.2.trans hgh.2⟩

theorem place_eq_of_repeats {f g : Finding} (h : f.repeats g = true) : f.place = g.place := by
  obtain ⟨hfile, hkey⟩ := (repeats_iff f g).1 h
  simp only [key, Prod.mk.injEq] at hkey
  simp only [place, hfile, hkey.2.1]

theorem le_iff (f g : Finding) :
    le f g = true ↔ f.fileKey = g.fileKey ∧ f.line ≤ g.line ∨
      f.fileKey ≠ g.fileKey ∧ Text.le f.fileKey g.fileKey = true := by
  by_cases hfile : f.fileKey = g.fileKey
  · simp [le, hfile]
  · simp [le, hfile]

theorem le_of_place_eq {f g : Finding} (h : f.place = g.place) : le f g = true := by
  obtain ⟨hfile, hline⟩ := Prod.mk.inj h
  exact (le_iff f g).2 (.inl ⟨hfile, Nat.le_of_eq hline⟩)

/-- The order says nothing about findings of one place and tells any others apart. -/
theorem place_eq_of_le {f g : Finding} (hfg : le f g = true) (hgf : le g f = true) :
    f.place = g.place := by
  rw [le_iff] at hfg hgf
  rcases hfg with ⟨hfile, hfg⟩ | ⟨hne, hfg⟩
  · rcases hgf with ⟨-, hgf⟩ | ⟨hne, -⟩
    · simp only [place, hfile, Nat.le_antisymm hfg hgf]
    · exact absurd hfile.symm hne
  · rcases hgf with ⟨hfile, -⟩ | ⟨-, hgf⟩
    · exact absurd hfile.symm hne
    · exact absurd (Text.le_antisymm hfg hgf) hne

section Repetitions

/-- The step of dropping repetitions: one more finding at the end of a list. -/
theorem dedup_concat_kept (l : List Finding) (f : Finding) :
    dedup (l ++ [f]) = if (dedup l).any f.repeats then dedup l else dedup l ++ [f] := by
  simp only [dedup, List.foldl_append, List.foldl_cons, List.foldl_nil, List.any_reverse]
  split
  · rfl
  · rw [List.reverse_cons]

/-- A finding repeats one of those kept if it repeats any at all. -/
theorem any_repeats_dedup (l : List Finding) (f : Finding) :
    (dedup l).any f.repeats = l.any f.repeats := by
  induction l using List.reverseRecOn with
  | nil => rfl
  | append_singleton l g ih =>
    rw [dedup_concat_kept, List.any_append, ← ih]
    split
    · rename_i hg
      obtain ⟨h, hh, hgh⟩ := List.any_eq_true.1 hg
      by_cases hfg : f.repeats g = true
      · have hkept : (dedup l).any f.repeats = true :=
          List.any_eq_true.2 ⟨h, hh, repeats_trans hfg hgh⟩
        simp [hkept]
      · simp [hfg]
    · rw [List.any_append]

theorem dedup_concat (l : List Finding) (f : Finding) :
    dedup (l ++ [f]) = if l.any f.repeats then dedup l else dedup l ++ [f] := by
  rw [dedup_concat_kept, any_repeats_dedup]

/-- Dropping repetitions and selecting findings can be done in either order, when the selection
does not tell repeated findings apart. -/
theorem dedup_filter (p : Finding → Bool) (hp : ∀ f g, f.repeats g = true → p f = p g)
    (l : List Finding) : dedup (l.filter p) = (dedup l).filter p := by
  induction l using List.reverseRecOn with
  | nil => rfl
  | append_singleton l f ih =>
    rw [List.filter_append, dedup_concat]
    by_cases hf : p f = true
    · have hany : (l.filter p).any f.repeats = l.any f.repeats := by
        rw [List.any_filter, Bool.eq_iff_iff, List.any_eq_true, List.any_eq_true]
        constructor
        · rintro ⟨g, hg, h⟩
          exact ⟨g, hg, (Bool.and_eq_true_iff.1 h).2⟩
        · rintro ⟨g, hg, h⟩
          exact ⟨g, hg, by rw [h, ← hp f g h, hf]; rfl⟩
      rw [List.filter_cons, if_pos hf, List.filter_nil, dedup_concat, hany, ih]
      split
      · rfl
      · rw [List.filter_append, List.filter_cons, if_pos hf, List.filter_nil]
    · rw [List.filter_cons, if_neg hf, List.filter_nil, List.append_nil, ih]
      split
      · rfl
      · rw [List.filter_append, List.filter_cons, if_neg hf, List.filter_nil, List.append_nil]

/-- Dropping repetitions commutes with a change of the findings that makes no two of them
repeat each other, or stop doing so. -/
theorem dedup_map (φ : Finding → Finding) (l : List Finding)
    (hφ : ∀ f ∈ l, ∀ g ∈ l, (φ f).repeats (φ g) = f.repeats g) :
    dedup (l.map φ) = (dedup l).map φ := by
  induction l using List.reverseRecOn with
  | nil => rfl
  | append_singleton l f ih =>
    have hf : f ∈ l ++ [f] := List.mem_append_right l (List.mem_singleton_self f)
    have ih := ih fun g hg h hh =>
      hφ g (List.mem_append_left _ hg) h (List.mem_append_left _ hh)
    have hany : (l.map φ).any (φ f).repeats = l.any f.repeats := by
      rw [List.any_map, Bool.eq_iff_iff, List.any_eq_true, List.any_eq_true]
      constructor
      · rintro ⟨g, hg, h⟩
        exact ⟨g, hg, hφ f hf g (List.mem_append_left _ hg) ▸ h⟩
      · rintro ⟨g, hg, h⟩
        exact ⟨g, hg, (hφ f hf g (List.mem_append_left _ hg)).trans h⟩
    rw [List.map_append, List.map_singleton, dedup_concat, dedup_concat, hany, ih]
    split
    · rfl
    · rw [List.map_append, List.map_singleton]

theorem mem_take_iff {l : List Finding} {g : Finding} {i : Nat} :
    g ∈ l.take i ↔ ∃ j < i, l[j]? = some g := by
  rw [List.mem_iff_getElem?]
  refine exists_congr fun j => ?_
  rw [List.getElem?_take]
  by_cases hj : j < i
  · simp only [hj, if_true, true_and]
  · simp only [hj, if_false, reduceCtorEq, false_and]

theorem pairwise_filter_zipIdx (p : Finding × Nat → Bool) (l : List Finding) :
    (l.zipIdx.filter p).Pairwise fun x y => x.2 < y.2 := by
  refine List.Pairwise.filter _ (List.pairwise_map.1 ?_)
  rw [List.zipIdx_map_snd]
  exact List.pairwise_lt_range'

/-- The findings kept are those with no kept finding before them that they repeat, where a
selection was made first. Indices tell equal findings apart. -/
theorem dedup_filter_eq_zipIdx (keep : Finding → Bool) (l : List Finding) :
    dedup (l.filter keep) = ((l.zipIdx.filter fun (f, i) =>
      keep f && !(l.take i).any fun g => keep g && f.repeats g).map Prod.fst) := by
  induction l using List.reverseRecOn with
  | nil => rfl
  | append_singleton l f ih =>
    have hfront : ((l.zipIdx.filter fun (g, i) =>
          keep g && !((l ++ [f]).take i).any fun h => keep h && g.repeats h).map Prod.fst) =
        dedup (l.filter keep) := by
      rw [ih]
      refine congrArg (List.map Prod.fst) (List.filter_congr ?_)
      rintro ⟨g, i⟩ hg
      have hi : i ≤ l.length := by
        have := List.mem_zipIdx hg
        omega
      simp only [List.take_append_of_le_length hi]
    rw [List.filter_append, List.zipIdx_append, List.filter_append, List.map_append, hfront]
    by_cases hf : keep f = true
    · have hany : (l.filter keep).any f.repeats = l.any fun g => keep g && f.repeats g := by
        rw [List.any_filter]
      rw [List.filter_cons, if_pos hf, List.filter_nil, dedup_concat, hany]
      by_cases hr : (l.any fun g => keep g && f.repeats g) = true
      · simp [hr]
      · simp [hr, hf]
    · simp [hf]

theorem dedup_sublist (l : List Finding) : (dedup l).Sublist l := by
  induction l using List.reverseRecOn with
  | nil => exact .slnil
  | append_singleton l f ih =>
    rw [dedup_concat]
    split
    · exact ih.trans (List.sublist_append_left l [f])
    · exact ih.append (.refl [f])

/-- Nothing is dropped exactly when no finding repeats one before it. -/
theorem length_dedup_eq_iff (l : List Finding) :
    (dedup l).length = l.length ↔ l.Pairwise fun f g => ¬ g.repeats f = true := by
  induction l using List.reverseRecOn with
  | nil => exact ⟨fun _ => .nil, fun _ => rfl⟩
  | append_singleton l f ih =>
    have hle := (dedup_sublist l).length_le
    rw [dedup_concat, List.pairwise_append, ← ih, List.length_append, List.length_singleton]
    by_cases hf : l.any f.repeats = true
    · rw [if_pos hf]
      obtain ⟨g, hg, hrepeats⟩ := List.any_eq_true.1 hf
      constructor
      · intro hlength
        omega
      · intro ⟨_, _, hnew⟩
        exact absurd hrepeats (hnew g hg f (List.mem_singleton_self f))
    · rw [if_neg hf, List.length_append, List.length_singleton, Nat.add_right_cancel_iff]
      constructor
      · intro hlength
        refine ⟨hlength, List.pairwise_singleton _ f, fun g hg h hh hrepeats => ?_⟩
        obtain rfl := List.mem_singleton.1 hh
        exact hf (List.any_eq_true.2 ⟨g, hg, hrepeats⟩)
      · intro ⟨hlength, _⟩
        exact hlength

end Repetitions

section Order

/-- Sorting leaves the findings of one place in the order that they had. -/
theorem filter_place_sort (l : List Finding) (p : Text × Nat) :
    (sort l).filter (·.place == p) = l.filter (·.place == p) :=
  @filter_mergeSort _ _ _ _ le place (fun _ _ _ => Finding.le_trans) Finding.le_total
    (fun _ _ => le_of_place_eq) l p

/-- What holds of any two findings as they stand in a list, holds of those of one place as they
stand after sorting. -/
theorem pairwise_sort_of_place {R : Finding → Finding → Prop} {l : List Finding}
    (h : l.Pairwise R) : (sort l).Pairwise fun f g => f.place = g.place → R f g :=
  @pairwise_mergeSort_of_key _ _ _ _ le place (fun _ _ _ => Finding.le_trans) Finding.le_total
    (fun _ _ => le_of_place_eq) _ _ h

/-- Findings in order are determined by what stands at each place. -/
theorem eq_of_filter_place {l k : List Finding} (hl : l.Pairwise fun f g => le f g = true)
    (hk : k.Pairwise fun f g => le f g = true)
    (h : ∀ p, l.filter (·.place == p) = k.filter (·.place == p)) : l = k :=
  @eq_of_filter_key _ _ _ _ le place (fun _ _ => place_eq_of_le) l k hl hk h

/-- What is added to findings in order is what is added at each place. -/
theorem extendedBy_of_filter_place {p : Finding → Prop} {l k : List Finding}
    (hl : l.Pairwise fun f g => le f g = true) (hk : k.Pairwise fun f g => le f g = true)
    (h : ∀ c, ExtendedBy p (l.filter (·.place == c)) (k.filter (·.place == c))) :
    ExtendedBy p l k :=
  @extendedBy_of_filter_key _ _ _ _ le place (fun _ _ => place_eq_of_le) p l k hl hk h

theorem filter_sort (p : Finding → Bool) (l : List Finding) :
    (sort l).filter p = sort (l.filter p) := by
  refine eq_of_filter_place ((pairwise_sort l).filter p) (pairwise_sort _) fun c => ?_
  rw [List.filter_comm, filter_place_sort, filter_place_sort, List.filter_comm]

end Order

section Consolidated

theorem pairwise_consolidate (l : List Finding) :
    (consolidate l).Pairwise fun f g => le f g = true :=
  pairwise_sort (dedup l)

theorem mem_consolidate {f : Finding} {l : List Finding} :
    f ∈ consolidate l ↔ f ∈ dedup l :=
  (sort_perm (dedup l)).mem_iff

/-- Every finding is in the consolidated list or repeats one that is. -/
theorem exists_mem_consolidate {f : Finding} {l : List Finding} (hf : f ∈ l) :
    ∃ g ∈ consolidate l, f.repeats g = true := by
  have hany : (dedup l).any f.repeats = true := by
    rw [any_repeats_dedup]
    exact List.any_eq_true.2 ⟨f, hf, repeats_refl f⟩
  obtain ⟨g, hg, hfg⟩ := List.any_eq_true.1 hany
  exact ⟨g, mem_consolidate.2 hg, hfg⟩

/-- What a consolidated list holds at a place depends on what was found there alone. -/
theorem filter_place_consolidate (l : List Finding) (p : Text × Nat) :
    (consolidate l).filter (·.place == p) = dedup (l.filter (·.place == p)) := by
  rw [consolidate, filter_place_sort, dedup_filter]
  intro f g h
  rw [place_eq_of_repeats h]

theorem consolidate_congr {l k : List Finding}
    (h : ∀ p, l.filter (·.place == p) = k.filter (·.place == p)) :
    consolidate l = consolidate k := by
  refine eq_of_filter_place (pairwise_consolidate l) (pairwise_consolidate k) fun p => ?_
  rw [filter_place_consolidate, filter_place_consolidate, h]

/-- Consolidating and selecting findings can be done in either order, when the selection goes by
place. -/
theorem consolidate_filter (p : Finding → Bool) (hp : ∀ f g, f.place = g.place → p f = p g)
    (l : List Finding) : consolidate (l.filter p) = (consolidate l).filter p := by
  refine eq_of_filter_place (pairwise_consolidate _) ((pairwise_consolidate l).filter p) fun c => ?_
  have hrepeats (f g : Finding) (h : f.repeats g = true) : p f = p g :=
    hp f g (place_eq_of_repeats h)
  calc (consolidate (l.filter p)).filter (·.place == c)
      = dedup ((l.filter (·.place == c)).filter p) := by
        rw [filter_place_consolidate, List.filter_comm]
    _ = ((consolidate l).filter (·.place == c)).filter p := by
        rw [dedup_filter p hrepeats, filter_place_consolidate]
    _ = ((consolidate l).filter p).filter (·.place == c) := List.filter_comm ..

/-- Lists that share no place and stand in order can be consolidated one by one. -/
theorem consolidate_append {a b : List Finding}
    (h : ∀ f ∈ a, ∀ g ∈ b, le f g = true ∧ f.place ≠ g.place) :
    consolidate (a ++ b) = consolidate a ++ consolidate b := by
  have hmem {f : Finding} {l : List Finding} (hf : f ∈ consolidate l) : f ∈ l :=
    (dedup_sublist l).mem (mem_consolidate.1 hf)
  refine eq_of_filter_place (pairwise_consolidate _) ?_ fun p => ?_
  · exact List.pairwise_append.2 ⟨pairwise_consolidate a, pairwise_consolidate b,
      fun f hf g hg => (h f (hmem hf) g (hmem hg)).1⟩
  · rw [filter_place_consolidate, List.filter_append, List.filter_append,
      filter_place_consolidate, filter_place_consolidate]
    by_cases ha : a.filter (·.place == p) = []
    · rw [ha]
      rfl
    · have hb : b.filter (·.place == p) = [] := by
        obtain ⟨f, hf⟩ := List.exists_mem_of_ne_nil _ ha
        obtain ⟨hfa, hfp⟩ := List.mem_filter.1 hf
        rw [List.filter_eq_nil_iff]
        intro g hg hgp
        exact (h f hfa g hg).2 ((eq_of_beq hfp).trans (eq_of_beq hgp).symm)
      rw [hb, List.append_nil]
      exact (List.append_nil _).symm

/-- The same for parts that are mixed with each other: each place belongs to the first parts or to
the second ones, so the others have nothing there. -/
theorem consolidate_flatMap_append {α : Type} (xs : List α) (a b : α → List Finding)
    (h : ∀ x ∈ xs, ∀ y ∈ xs, ∀ f ∈ a x, ∀ g ∈ b y, le f g = true ∧ f.place ≠ g.place) :
    consolidate (xs.flatMap fun x => a x ++ b x) =
      consolidate (xs.flatMap a) ++ consolidate (xs.flatMap b) := by
  have hsplit : consolidate (xs.flatMap a ++ xs.flatMap b) =
      consolidate (xs.flatMap a) ++ consolidate (xs.flatMap b) := by
    refine consolidate_append fun f hf g hg => ?_
    obtain ⟨x, hx, hf⟩ := List.mem_flatMap.1 hf
    obtain ⟨y, hy, hg⟩ := List.mem_flatMap.1 hg
    exact h x hx y hy f hf g hg
  rw [← hsplit]
  refine consolidate_congr fun p => ?_
  simp only [List.filter_append, List.filter_flatMap]
  by_cases ha : ∀ x ∈ xs, (a x).filter (·.place == p) = []
  · have hempty : (xs.flatMap fun x => (a x).filter (·.place == p)) = [] :=
      List.flatMap_eq_nil_iff.2 ha
    rw [hempty, List.nil_append]
    exact List.flatMap_congr fun x hx => by rw [ha x hx, List.nil_append]
  · have hb : ∀ y ∈ xs, (b y).filter (·.place == p) = [] := by
      simp only [not_forall] at ha
      obtain ⟨x, hx, hne⟩ := ha
      obtain ⟨f, hf⟩ := List.exists_mem_of_ne_nil _ hne
      obtain ⟨hfa, hfp⟩ := List.mem_filter.1 hf
      intro y hy
      rw [List.filter_eq_nil_iff]
      intro g hg hgp
      exact (h x hx y hy f hfa g hg).2 ((eq_of_beq hfp).trans (eq_of_beq hgp).symm)
    have hempty : (xs.flatMap fun y => (b y).filter (·.place == p)) = [] :=
      List.flatMap_eq_nil_iff.2 hb
    rw [hempty, List.append_nil]
    exact List.flatMap_congr fun x hx => by rw [hb x hx, List.append_nil]

/-- A change of findings that keeps repetitions and order passes through. -/
theorem consolidate_map (φ : Finding → Finding) (l : List Finding)
    (hrepeats : ∀ f ∈ l, ∀ g ∈ l, (φ f).repeats (φ g) = f.repeats g)
    (hle : ∀ f ∈ l, ∀ g ∈ l, le (φ f) (φ g) = le f g) :
    consolidate (l.map φ) = (consolidate l).map φ := by
  rw [consolidate, dedup_map φ l hrepeats, sort, consolidate, sort]
  refine (List.map_mergeSort fun f hf g hg => ?_).symm
  exact (hle f ((dedup_sublist l).mem hf) g ((dedup_sublist l).mem hg)).symm

end Consolidated

end SecretScan.Finding
