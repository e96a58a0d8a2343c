import SecretScan.Proofs.Consolidation

/-!
Consolidating is canonical: the result is settled by the positions at which a list holds something
new, put in order by file, by line and then by position. Each list of several can therefore be
consolidated before the whole, any number of times, and repetitions can be dropped before or after
sorting.
-/

namespace SecretScan.Finding

section Repetitions

/-- Of two lists in a row, the second contributes what the first does not have. -/
theorem dedup_append (a b : List Finding) :
    dedup (a ++ b) = dedup a ++ (dedup b).filter fun g => !a.any g.repeats := by
  induction b using List.reverseRecOn with
  | nil => simp only [List.append_nil, dedup, List.foldl_nil, List.reverse_nil, List.filter_nil]
  | append_singleton b f ih =>
    rw [← List.append_assoc, dedup_concat, dedup_concat, List.any_append, ih]
    by_cases hb : b.any f.repeats = true
    · rw [hb, Bool.or_true, if_pos rfl, if_pos rfl]
    · rw [if_neg hb, List.filter_append, Bool.eq_false_iff.2 hb, Bool.or_false]
      by_cases ha : a.any f.repeats = true
      · simp only [ha, if_true, List.filter_cons, Bool.not_true, Bool.false_eq_true, if_false,
          List.filter_nil, List.append_nil]
      · simp only [ha, if_false, List.filter_cons, Bool.not_false, if_true,
          List.filter_nil, List.append_assoc, Bool.false_eq_true]

/-- What is kept has no repetitions left to drop. -/
theorem dedup_dedup (l : List Finding) : dedup (dedup l) = dedup l := by
  induction l using List.reverseRecOn with
  | nil => rfl
  | append_singleton l f ih =>
    rw [dedup_concat]
    split
    · exact ih
    · rename_i hf
      rw [dedup_concat, any_repeats_dedup, if_neg hf, ih]

theorem dedup_flatMap_dedup (ls : List (List Finding)) :
    dedup (ls.flatMap dedup) = dedup ls.flatten := by
  induction ls with
  | nil => rfl
  | cons l ls ih =>
    have hany : (fun g : Finding => !(dedup l).any g.repeats) = fun g => !l.any g.repeats := by
      funext g
      rw [any_repeats_dedup]
    rw [List.flatMap_cons, List.flatten_cons, dedup_append, dedup_append, dedup_dedup, ih, hany]

end Repetitions

section Pieces

theorem consolidate_flatMap_consolidate (ls : List (List Finding)) :
    consolidate (ls.flatMap consolidate) = consolidate ls.flatten := by
  refine eq_of_filter_place (pairwise_consolidate _) (pairwise_consolidate _) fun p => ?_
  calc (consolidate (ls.flatMap consolidate)).filter (·.place == p)
      = dedup (ls.flatMap fun l => (consolidate l).filter (·.place == p)) := by
        rw [filter_place_consolidate, List.filter_flatMap]
    _ = dedup ((ls.map (·.filter (·.place == p))).flatMap dedup) := by
        rw [List.flatMap_map]
        simp only [filter_place_consolidate]
    _ = dedup (ls.flatten.filter (·.place == p)) := by
        rw [dedup_flatMap_dedup, List.filter_flatten]
    _ = (consolidate ls.flatten).filter (·.place == p) := (filter_place_consolidate _ p).symm

theorem consolidate_consolidate (l : List Finding) :
    consolidate (consolidate l) = consolidate l := by
  simpa using consolidate_flatMap_consolidate [l]

theorem dedup_sort (l : List Finding) : dedup (sort l) = sort (dedup l) := by
  refine eq_of_filter_place ((pairwise_sort l).sublist (dedup_sublist _)) (pairwise_sort _)
    fun p => ?_
  have hplace (f g : Finding) (h : f.repeats g = true) :
      (f.place == p) = (g.place == p) := by
    rw [place_eq_of_repeats h]
  rw [← dedup_filter _ hplace, filter_place_sort, filter_place_sort, dedup_filter _ hplace]

end Pieces

section Positions

/-- A list has a finding at a position, and none with its file, kind, line and text before. -/
structure IsFirst (l : List Finding) (f : Finding) (i : Nat) : Prop where
  here : l[i]? = some f
  new : ∀ j < i, ∀ g, l[j]? = some g → (g.fileKey, g.key) ≠ (f.fileKey, f.key)

def Ahead (x y : Finding × Nat) : Prop :=
  le x.1 y.1 = true ∧ (x.1.place = y.1.place → x.2 < y.2)

/-- The second list holds what the first has for the first time, in order, and nothing else. -/
def IsConsolidation (l r : List Finding) : Prop :=
  ∃ rows : List (Finding × Nat), r = rows.map Prod.fst ∧
    (∀ f i, (f, i) ∈ rows ↔ IsFirst l f i) ∧ rows.Pairwise Ahead

def firsts (l : List Finding) : List (Finding × Nat) :=
  l.zipIdx.filter fun (f, i) => !(l.take i).any f.repeats

theorem map_fst_firsts (l : List Finding) : (firsts l).map Prod.fst = dedup l := by
  have h := dedup_filter_eq_zipIdx (fun _ => true) l
  rw [List.filter_true] at h
  exact h.symm

theorem mem_firsts {l : List Finding} {f : Finding} {i : Nat} :
    (f, i) ∈ firsts l ↔ IsFirst l f i := by
  rw [firsts, List.mem_filter, List.mk_mem_zipIdx_iff_getElem?, Bool.not_eq_true',
    List.any_eq_false]
  constructor
  · rintro ⟨hi, hnew⟩
    refine ⟨hi, fun j hj g hg heq => ?_⟩
    obtain ⟨hfile, hkey⟩ := Prod.mk.inj heq
    exact hnew g (mem_take_iff.2 ⟨j, hj, hg⟩) ((repeats_iff f g).2 ⟨hfile.symm, hkey.symm⟩)
  · rintro ⟨hi, hnew⟩
    refine ⟨hi, fun g hg hrepeats => ?_⟩
    obtain ⟨hfile, hkey⟩ := (repeats_iff f g).1 hrepeats
    obtain ⟨j, hj, hg⟩ := mem_take_iff.1 hg
    exact hnew j hj g hg (Prod.ext hfile.symm hkey.symm)

theorem isConsolidation_consolidate (l : List Finding) : IsConsolidation l (consolidate l) := by
  let below (x y : Finding × Nat) : Bool := le x.1 y.1
  have htrans (x y z : Finding × Nat) (hxy : below x y = true) (hyz : below y z = true) :
      below x z = true := Finding.le_trans hxy hyz
  have htotal (x y : Finding × Nat) : (below x y || below y x) = true :=
    Finding.le_total x.1 y.1
  have hplace (x y : Finding × Nat) (h : x.1.place = y.1.place) : below x y = true :=
    le_of_place_eq h
  refine ⟨(firsts l).mergeSort below, ?_, fun f i => ?_, ?_⟩
  · rw [List.map_mergeSort (s := le) fun _ _ _ _ => rfl, map_fst_firsts]
    rfl
  · rw [List.mem_mergeSort, mem_firsts]
  · exact (List.pairwise_mergeSort htrans htotal _).and
      (pairwise_mergeSort_of_key htrans htotal hplace (pairwise_filter_zipIdx _ l))

/-- The rows of a consolidation are settled by which they are. -/
theorem IsConsolidation.eq {l r r' : List Finding} (h : IsConsolidation l r)
    (h' : IsConsolidation l r') : r = r' := by
  obtain ⟨rows, rfl, hrows, hahead⟩ := h
  obtain ⟨rows', rfl, hrows', hahead'⟩ := h'
  have hnodup {rows : List (Finding × Nat)} (h : rows.Pairwise Ahead) : rows.Nodup :=
    h.imp fun {x y} hxy heq => absurd (hxy.2 (by rw [heq])) (by rw [heq]; exact Nat.lt_irrefl _)
  have hperm : rows.Perm rows' :=
    (List.perm_ext_iff_of_nodup (hnodup hahead) (hnodup hahead')).2 fun x =>
      (hrows x.1 x.2).trans (hrows' x.1 x.2).symm
  refine congrArg (List.map Prod.fst) (hperm.eq_of_pairwise (fun x y _ _ hxy hyx => ?_)
    hahead hahead')
  have hplace : x.1.place = y.1.place := place_eq_of_le hxy.1 hyx.1
  exact absurd (hxy.2 hplace) (Nat.lt_asymm (hyx.2 hplace.symm))

end Positions

/-- Consolidating piece by piece, twice, or with the steps exchanged comes to the same, and what
it comes to is the first finding of every file, kind, line and text in order, nothing else. -/
theorem consolidate_canonical :
    (∀ ls : List (List Finding), consolidate (ls.flatMap consolidate) = consolidate ls.flatten) ∧
      ∀ l : List Finding,
        consolidate (consolidate l) = consolidate l ∧
        sort (dedup l) = dedup (sort l) ∧
        ∀ r, r = consolidate l ↔ IsConsolidation l r := by
  refine ⟨consolidate_flatMap_consolidate, fun l => ⟨consolidate_consolidate l,
    (dedup_sort l).symm, fun r => ⟨?_, fun h => ?_⟩⟩⟩
  · rintro rfl
    exact isConsolidation_consolidate l
  · exact h.eq (isConsolidation_consolidate l)

end SecretScan.Finding
