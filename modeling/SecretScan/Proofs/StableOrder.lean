import Mathlib.Data.List.Basic

/-!
Lists in an order that is settled by keys. Entries with one key may stand in either order, and
sorting leaves them as they were; any others are told apart. A list in order is therefore determined
by what it holds for each key, and it grows by new members exactly if that grows for each key.
-/

namespace SecretScan

/-- The second list has the members of the first one in their order. Whatever else it has, in
between, has a property. -/
inductive ExtendedBy {α : Type} (p : α → Prop) : List α → List α → Prop
  | nil : ExtendedBy p [] []
  | keep {l k : List α} (x : α) (h : ExtendedBy p l k) : ExtendedBy p (x :: l) (x :: k)
  | add {l k : List α} {x : α} (hx : p x) (h : ExtendedBy p l k) : ExtendedBy p l (x :: k)

namespace ExtendedBy

variable {α β : Type} {p : α → Prop} {l k l' k' : List α}

theorem refl (l : List α) : ExtendedBy p l l := by
  induction l with
  | nil => exact .nil
  | cons x l ih => exact .keep x ih

theorem of_forall (h : ∀ x ∈ k, p x) : ExtendedBy p [] k := by
  induction k with
  | nil => exact .nil
  | cons x k ih =>
    exact .add (h x List.mem_cons_self) (ih fun y hy => h y (List.mem_cons_of_mem x hy))

theorem append (h : ExtendedBy p l k) (h' : ExtendedBy p l' k') :
    ExtendedBy p (l ++ l') (k ++ k') := by
  induction h with
  | nil => exact h'
  | keep x _ ih => exact .keep x ih
  | add hx _ ih => exact .add hx ih

theorem append_right (l : List α) (h : ∀ x ∈ k, p x) : ExtendedBy p l (l ++ k) := by
  induction l with
  | nil => exact of_forall h
  | cons x l ih => exact .keep x ih

theorem map {q : β → Prop} {φ : α → β} (hφ : ∀ x, p x → q (φ x)) (h : ExtendedBy p l k) :
    ExtendedBy q (l.map φ) (k.map φ) := by
  induction h with
  | nil => exact .nil
  | keep x _ ih => exact .keep (φ x) ih
  | add hx _ ih => exact .add (hφ _ hx) ih

theorem filter (keep : α → Bool) (h : ExtendedBy p l k) :
    ExtendedBy p (l.filter keep) (k.filter keep) := by
  induction h with
  | nil => exact .nil
  | keep x _ ih =>
    rw [List.filter_cons, List.filter_cons]
    split
    · exact .keep x ih
    · exact ih
  | add hx _ ih =>
    rw [List.filter_cons]
    split
    · exact .add hx ih
    · exact ih

theorem flatMap {xs : List β} {a b : β → List α} (h : ∀ x ∈ xs, ExtendedBy p (a x) (b x)) :
    ExtendedBy p (xs.flatMap a) (xs.flatMap b) := by
  induction xs with
  | nil => exact .nil
  | cons x xs ih =>
    exact (h x List.mem_cons_self).append (ih fun y hy => h y (List.mem_cons_of_mem x hy))

theorem sublist (h : ExtendedBy p l k) : l.Sublist k := by
  induction h with
  | nil => exact .slnil
  | keep x _ ih => exact ih.cons_cons x
  | add _ _ ih => exact ih.cons _

/-- With nothing to add, a list is extended to itself alone. -/
theorem eq_of_forall_not (h : ExtendedBy p l k) (hp : ∀ x, ¬ p x) : l = k := by
  induction h with
  | nil => rfl
  | keep x _ ih => rw [ih]
  | add hx _ _ => exact absurd hx (hp _)

end ExtendedBy

section Keys

variable {α κ : Type} [BEq κ] [LawfulBEq κ] {below : α → α → Bool} {key : α → κ}

omit [LawfulBEq κ] in
theorem filter_key_cons_of_ne {x : α} {c : κ} (hc : (key x == c) = false) (l : List α) :
    (x :: l).filter (key · == c) = l.filter (key · == c) :=
  List.filter_cons_of_neg (ne_true_of_eq_false hc)

theorem filter_key_cons_of_eq {x : α} {c : κ} (hc : key x = c) (l : List α) :
    (x :: l).filter (key · == c) = x :: l.filter (key · == c) :=
  List.filter_cons_of_pos (beq_iff_eq.2 hc)

omit [LawfulBEq κ] in
/-- Entries of a pair of keys are those of one key among those of the other. -/
theorem filter_pair_key {κ' : Type} [BEq κ'] (key' : α → κ') (l : List α) (c : κ × κ') :
    l.filter (fun x => (key x, key' x) == c) =
      (l.filter (key · == c.1)).filter (key' · == c.2) := by
  rw [List.filter_filter]
  apply List.filter_congr
  intro x _
  exact Bool.and_comm ..

/-- What blocks hold for a key is what those blocks hold that are all of this key. -/
theorem filter_key_flatMap {β : Type} {block : β → List α} {blockKey : β → κ} {xs : List β}
    (h : ∀ x ∈ xs, ∀ f ∈ block x, key f = blockKey x) (c : κ) :
    (xs.flatMap block).filter (key · == c) = (xs.filter (blockKey · == c)).flatMap block := by
  induction xs with
  | nil => rfl
  | cons x xs ih =>
    have hx := h x List.mem_cons_self
    rw [List.flatMap_cons, List.filter_append, ih fun y hy => h y (List.mem_cons_of_mem x hy)]
    by_cases hc : blockKey x = c
    · have hall : (block x).filter (key · == c) = block x := by
        rw [List.filter_eq_self]
        intro f hf
        exact beq_iff_eq.2 ((hx f hf).trans hc)
      rw [hall, filter_key_cons_of_eq hc, List.flatMap_cons]
    · have hnone : (block x).filter (key · == c) = [] := by
        rw [List.filter_eq_nil_iff]
        intro f hf heq
        exact hc ((hx f hf).symm.trans (eq_of_beq heq))
      rw [hnone, filter_key_cons_of_ne (beq_false_of_ne hc), List.nil_append]

/-- Where no two entries have one key, at most one has a given key. -/
theorem filter_key_of_nodup {l : List α} (h : (l.map key).Nodup) (c : κ) :
    l.filter (key · == c) = [] ∨ ∃ x, l.filter (key · == c) = [x] := by
  induction l with
  | nil => exact .inl rfl
  | cons x l ih =>
    rw [List.map_cons, List.nodup_cons] at h
    by_cases hc : key x = c
    · have hnone : l.filter (key · == c) = [] := by
        rw [List.filter_eq_nil_iff]
        intro y hy heq
        apply h.1
        rw [hc, ← eq_of_beq heq]
        exact List.mem_map_of_mem hy
      refine .inr ⟨x, ?_⟩
      rw [filter_key_cons_of_eq hc, hnone]
    · rw [filter_key_cons_of_ne (beq_false_of_ne hc)]
      exact ih h.2

section Blocks

variable {β : Type} {block : β → List α} {blockKey : β → κ} {xs : List β}
variable (h : ∀ x ∈ xs, ∀ f ∈ block x, key f = blockKey x) (hnodup : (xs.map blockKey).Nodup)
include h hnodup

/-- Blocks with different keys can be found again when they are put in a row. -/
theorem filter_key_flatMap_of_mem {x : β} (hx : x ∈ xs) :
    (xs.flatMap block).filter (key · == blockKey x) = block x := by
  have hmem : x ∈ xs.filter (blockKey · == blockKey x) :=
    List.mem_filter.2 ⟨hx, beq_self_eq_true _⟩
  rw [filter_key_flatMap h]
  rcases filter_key_of_nodup hnodup (blockKey x) with hnone | ⟨y, hone⟩
  · rw [hnone] at hmem
    cases hmem
  · rw [hone] at hmem ⊢
    obtain rfl := List.mem_singleton.1 hmem
    exact List.flatMap_singleton ..

/-- It makes no difference for a key in which order such blocks stand. -/
theorem filter_key_flatMap_of_perm {ys : List β} (hperm : ys.Perm xs) (c : κ) :
    (ys.flatMap block).filter (key · == c) = (xs.flatMap block).filter (key · == c) := by
  have hys : ∀ y ∈ ys, ∀ f ∈ block y, key f = blockKey y :=
    fun y hy => h y (hperm.mem_iff.1 hy)
  have hsame : ys.filter (blockKey · == c) = xs.filter (blockKey · == c) := by
    have hfilter := hperm.filter (blockKey · == c)
    rcases filter_key_of_nodup hnodup c with hnone | ⟨x, hone⟩
    · rw [hnone] at hfilter ⊢
      exact hfilter.eq_nil
    · rw [hone] at hfilter ⊢
      exact hfilter.eq_singleton
  rw [filter_key_flatMap hys, filter_key_flatMap h, hsame]

end Blocks

section Determined

variable (hkey : ∀ a b, below a b = true → below b a = true → key a = key b)
include hkey

omit [BEq κ] [LawfulBEq κ] in
/-- Where two lists in order have both first elements in common, they cannot tell them apart. -/
theorem key_eq_of_mem_cons {f g : α} {l k : List α}
    (hl : (f :: l).Pairwise fun a b => below a b = true)
    (hk : (g :: k).Pairwise fun a b => below a b = true) (hfk : f ∈ g :: k) (hgl : g ∈ f :: l) :
    key f = key g := by
  rcases List.mem_cons.1 hfk with rfl | hfk
  · rfl
  rcases List.mem_cons.1 hgl with rfl | hgl
  · rfl
  exact hkey f g (List.rel_of_pairwise_cons hl hgl) (List.rel_of_pairwise_cons hk hfk)

/-- Lists in order can be compared key by key: where neither of their first elements is added, each
stands in the other list as well, so the two are one. -/
theorem extendedBy_of_filter_key {p : α → Prop} {l k : List α}
    (hl : l.Pairwise fun a b => below a b = true) (hk : k.Pairwise fun a b => below a b = true)
    (h : ∀ c, ExtendedBy p (l.filter (key · == c)) (k.filter (key · == c))) : ExtendedBy p l k := by
  induction k generalizing l with
  | nil =>
    cases l with
    | nil => exact .nil
    | cons f l =>
      have hf := h (key f)
      rw [filter_key_cons_of_eq rfl] at hf
      cases hf
  | cons g k ih =>
    have hg := h (key g)
    rw [filter_key_cons_of_eq rfl] at hg
    generalize hlg : l.filter (key · == key g) = lg at hg
    cases hg with
    | add hpg hrest =>
      refine .add hpg (ih hl hk.of_cons fun c => ?_)
      by_cases hc : key g = c
      · rw [← hc, hlg]
        exact hrest
      · have hrest := h c
        rw [filter_key_cons_of_ne (x := g) (beq_false_of_ne hc)] at hrest
        exact hrest
    | keep _ hrest =>
      have hgl : g ∈ l := by
        have : g ∈ l.filter (key · == key g) := hlg ▸ List.mem_cons_self
        exact (List.mem_filter.1 this).1
      cases l with
      | nil => cases hgl
      | cons f l =>
        have hfk : f ∈ g :: k := by
          have hsub := (h (key f)).sublist
          rw [filter_key_cons_of_eq rfl] at hsub
          exact (List.mem_filter.1 (hsub.mem List.mem_cons_self)).1
        rw [filter_key_cons_of_eq (key_eq_of_mem_cons hkey hl hk hfk hgl)] at hlg
        obtain ⟨rfl, rfl⟩ := List.cons.inj hlg
        refine .keep f (ih hl.of_cons hk.of_cons fun c => ?_)
        by_cases hc : key f = c
        · rw [← hc]
          exact hrest
        · have hrest := h c
          rw [filter_key_cons_of_ne (beq_false_of_ne hc),
            filter_key_cons_of_ne (beq_false_of_ne hc)] at hrest
          exact hrest

theorem eq_of_filter_key {l k : List α} (hl : l.Pairwise fun a b => below a b = true)
    (hk : k.Pairwise fun a b => below a b = true)
    (h : ∀ c, l.filter (key · == c) = k.filter (key · == c)) : l = k := by
  have hnone : ExtendedBy (fun _ => False) l k := by
    refine extendedBy_of_filter_key hkey hl hk fun c => ?_
    rw [h c]
    exact .refl _
  exact hnone.eq_of_forall_not fun _ => not_false

end Determined

section Sorted

variable (htrans : ∀ a b c, below a b = true → below b c = true → below a c = true)
variable (htotal : ∀ a b, (below a b || below b a) = true)
variable (hsame : ∀ a b, key a = key b → below a b = true)
include htrans htotal hsame

/-- Sorting leaves the entries of one key in the order that they had. -/
theorem filter_mergeSort (l : List α) (c : κ) :
    (l.mergeSort below).filter (key · == c) = l.filter (key · == c) := by
  have hclass : (l.filter (key · == c)).Pairwise fun a b => below a b = true := by
    refine List.pairwise_of_forall_mem_list ?_
    intro a ha b hb
    exact hsame a b ((eq_of_beq (List.mem_filter.1 ha).2).trans
      (eq_of_beq (List.mem_filter.1 hb).2).symm)
  have hsub : (l.filter (key · == c)).Sublist (l.mergeSort below) :=
    List.sublist_mergeSort htrans htotal hclass List.filter_sublist
  have hsub := hsub.filter (key · == c)
  rw [List.filter_filter] at hsub
  simp only [Bool.and_self] at hsub
  exact (hsub.eq_of_length ((List.mergeSort_perm l below).filter _).length_eq.symm).symm

/-- What holds of any two entries as they stand in a list, holds of those of one key as they
stand after sorting. -/
theorem pairwise_mergeSort_of_key {R : α → α → Prop} {l : List α} (h : l.Pairwise R) :
    (l.mergeSort below).Pairwise fun a b => key a = key b → R a b := by
  refine List.pairwise_of_forall_sublist fun {a b} hsub hab => ?_
  have hsub := hsub.filter (key · == key a)
  rw [filter_mergeSort htrans htotal hsame] at hsub
  simp only [List.filter_cons, hab, beq_self_eq_true, if_true, List.filter_nil] at hsub
  exact h.forall_sublist (hsub.trans List.filter_sublist)

/-- Lists that hold the same for each key are sorted to the same list. -/
theorem mergeSort_congr (hkey : ∀ a b, below a b = true → below b a = true → key a = key b)
    {l k : List α} (h : ∀ c, l.filter (key · == c) = k.filter (key · == c)) :
    l.mergeSort below = k.mergeSort below := by
  refine eq_of_filter_key hkey (List.pairwise_mergeSort htrans htotal l)
    (List.pairwise_mergeSort htrans htotal k) fun c => ?_
  rw [filter_mergeSort htrans htotal hsame, filter_mergeSort htrans htotal hsame, h c]

end Sorted

end Keys

end SecretScan
