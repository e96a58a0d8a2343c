import Mathlib.Data.List.Forall2
import SecretScan.Proofs.FaultyPatterns

/-!
Custom patterns by their indices. The options are gone through twice, once for the patterns that do
not compile and once for the signatures of those that do, and both times a pattern keeps the index
at which it stands there. So each pattern is reported, switched off or in use, exactly one of the
three, and under one key: its own, or else the one that its index gives it, whatever becomes of the
patterns around it.
-/

namespace SecretScan

/-- The values that a function has on the entries of a list stand in the order of these entries. -/
theorem forall₂_filterMap {α β : Type} {f : α → Option β} {keep : α → Bool} (l : List α)
    (h : ∀ x, keep x = (f x).isSome) :
    List.Forall₂ (fun x y => f x = some y) (l.filter keep) (l.filterMap f) := by
  induction l with
  | nil => exact List.Forall₂.nil
  | cons x l ih =>
    have hx := h x
    cases hvalue : f x with
    | none =>
      rw [hvalue, Option.isSome_none] at hx
      rw [List.filterMap_cons_none hvalue, List.filter_cons_of_neg (Bool.eq_false_iff.1 hx)]
      exact ih
    | some y =>
      rw [hvalue, Option.isSome_some] at hx
      rw [List.filterMap_cons_some hvalue, List.filter_cons_of_pos hx]
      exact List.Forall₂.cons hvalue ih

namespace CustomPattern

section Key

variable {p : CustomPattern} (index : Nat)

theorem key_of_ruleId {id : Text} (hid : p.ruleId = some id) (hne : Text.trim id ≠ []) :
    p.key index = Text.trim id := by
  obtain ⟨c, rest, htrim⟩ := List.exists_cons_of_ne_nil hne
  unfold key
  rw [hid, Option.map_some, htrim]

theorem key_of_blank (hblank : ∀ id, p.ruleId = some id → Text.trim id = []) :
    p.key index = "custom_".toList ++ Text.ofNat (index + 1) := by
  unfold key
  cases hid : p.ruleId with
  | none => rfl
  | some id =>
    rw [Option.map_some, hblank id hid]

theorem key_of_compile {index : Nat} {s : Signature} (h : p.compile index = .ok s) :
    s.key = p.key index :=
  (Signature.Definition.of_compile h).1

end Key

structure IsReportedBy (label : Text) (x : CustomPattern × Nat) (f : Finding) : Prop where
  exists_fault : ∃ fault, x.1.compile x.2 = .error fault ∧
    f = x.1.faultFinding x.2 fault label
  key_infix : x.1.key x.2 <:+: f.description

structure Becomes (x : CustomPattern × Nat) (s : Signature) : Prop where
  compile_eq : x.1.compile x.2 = .ok s
  key_eq : s.key = x.1.key x.2

end CustomPattern

namespace ScanOptions

open CustomPattern

/-- The custom patterns with their indices, dealt out to three lists, and what the lists account for.
Every pattern is in one of them once. The first has those that do not compile, and the validation
has a finding for each of them in order; the third has those that compile and are not switched off,
and these become the custom signatures in order. -/
structure Sorts (o : ScanOptions) (label : Text)
    (faulty disabled active : List (CustomPattern × Nat)) : Prop where
  perm : (faulty ++ disabled ++ active).Perm o.customPatterns.zipIdx
  faulty_sublist : faulty.Sublist o.customPatterns.zipIdx
  active_sublist : active.Sublist o.customPatterns.zipIdx
  not_compiles : ∀ x ∈ faulty, ¬ x.1.Compiles
  key_mem_disabled : ∀ x ∈ disabled, x.1.Compiles ∧ x.1.key x.2 ∈ o.disabled
  key_not_mem_disabled : ∀ x ∈ active, x.1.Compiles ∧ x.1.key x.2 ∉ o.disabled
  reported : List.Forall₂ (IsReportedBy label) faulty (validateCustomPatterns o label)
  used : List.Forall₂ Becomes active o.customSignatures

variable (o : ScanOptions)

def compiledPatterns : List (CustomPattern × Nat) :=
  o.customPatterns.zipIdx.filter fun x => x.1.Compiles

/-- The patterns that compile become signatures in order. -/
theorem forall₂_becomes : List.Forall₂ Becomes o.compiledPatterns
    (o.customPatterns.zipIdx.filterMap fun x => (x.1.compile x.2).toOption) := by
  have hcompiles (x : CustomPattern × Nat) :
      decide x.1.Compiles = (x.1.compile x.2).toOption.isSome := by
    rw [Bool.eq_iff_iff, decide_eq_true_iff, x.1.compiles_iff x.2, Option.isSome_iff_exists]
    simp only [toOption_eq_some_iff]
  apply (forall₂_filterMap o.customPatterns.zipIdx hcompiles).imp
  intro x s hs
  have hcompile : x.1.compile x.2 = .ok s := toOption_eq_some_iff.1 hs
  exact ⟨hcompile, key_of_compile hcompile⟩

/-- The patterns that do not compile are reported in order. -/
theorem forall₂_isReportedBy (label : Text) :
    List.Forall₂ (IsReportedBy label) (o.customPatterns.zipIdx.filter fun x => ¬ x.1.Compiles)
      (validateCustomPatterns o label) := by
  have hfaulty (x : CustomPattern × Nat) :
      decide (¬ x.1.Compiles) = ((x.1.faulty? x.2).map (·.finding label)).isSome := by
    rw [Option.isSome_map, Bool.eq_iff_iff, decide_eq_true_iff, ← x.1.faulty?_eq_none_iff x.2,
      Option.isSome_iff_ne_none]
  rw [validateCustomPatterns_eq, faultyPatterns, List.map_filterMap]
  apply (forall₂_filterMap o.customPatterns.zipIdx hfaulty).imp
  intro x f hf
  obtain ⟨y, hy, rfl⟩ := Option.map_eq_some_iff.1 hf
  obtain ⟨hpattern, hindex⟩ := faulty?_eq_some_iff.1 hy
  obtain ⟨p, index⟩ := x
  subst hpattern hindex
  exact ⟨⟨y.fault, y.fails, rfl⟩, y.key_infix_description label⟩

/-- Dealt out by whether they compile, and then by whether their keys are switched off, the patterns
are all there once. -/
theorem perm_customPatterns (off : CustomPattern × Nat → Bool) :
    ((o.customPatterns.zipIdx.filter fun x => ¬ x.1.Compiles) ++ o.compiledPatterns.filter off ++
      o.compiledPatterns.filter fun x => !off x).Perm o.customPatterns.zipIdx := by
  have hcompiled : (o.compiledPatterns.filter off ++
      o.compiledPatterns.filter fun x => !off x).Perm o.compiledPatterns :=
    List.filter_append_perm off o.compiledPatterns
  have hall : (o.compiledPatterns ++ o.customPatterns.zipIdx.filter fun x =>
      !decide x.1.Compiles).Perm o.customPatterns.zipIdx :=
    List.filter_append_perm _ o.customPatterns.zipIdx
  simp only [← decide_not] at hall
  rw [List.append_assoc]
  exact (hcompiled.append_left _).trans (List.perm_append_comm.trans hall)

/-- Every custom pattern is accounted for: it does not compile and has one finding, or its key is
switched off, or it is in use under its key. A key that is not given is made from the index alone. -/
theorem sorts_customPatterns (label : Text) :
    (∃ faulty disabled active, o.Sorts label faulty disabled active) ∧
      (∀ (p : CustomPattern) index, (∀ id, p.ruleId = some id → Text.trim id = []) →
        p.key index = "custom_".toList ++ Text.ofNat (index + 1)) ∧
      ∀ (p : CustomPattern) index id, p.ruleId = some id → Text.trim id ≠ [] →
        p.key index = Text.trim id := by
  refine ⟨?_, fun p index => key_of_blank index, fun p index id => key_of_ruleId index⟩
  let off (x : CustomPattern × Nat) : Bool := o.disabled.contains (x.1.key x.2)
  refine ⟨_, _, _, o.perm_customPatterns off, List.filter_sublist,
    List.filter_sublist.trans List.filter_sublist, ?_, ?_, ?_, o.forall₂_isReportedBy label, ?_⟩
  · intro x hx
    exact of_decide_eq_true (List.mem_filter.1 hx).2
  · intro x hx
    obtain ⟨hcompiled, hoff⟩ := List.mem_filter.1 hx
    exact ⟨of_decide_eq_true (List.mem_filter.1 hcompiled).2, List.contains_iff_mem.1 hoff⟩
  · intro x hx
    obtain ⟨hcompiled, hon⟩ := List.mem_filter.1 hx
    refine ⟨of_decide_eq_true (List.mem_filter.1 hcompiled).2, ?_⟩
    intro hmem
    rw [Bool.not_eq_true', Bool.eq_false_iff] at hon
    exact hon (List.contains_iff_mem.2 hmem)
  · apply List.rel_filter _ o.forall₂_becomes
    intro x s hbecomes
    change (!o.disabled.contains (x.1.key x.2)) = true ↔ (!o.disabled.contains s.key) = true
    rw [hbecomes.key_eq]

def blankPattern : CustomPattern := ⟨"B", "b", .high, some " ", none⟩

def paddedPattern : CustomPattern := ⟨"C", "c", .high, some " third ", none⟩

def mixedOptions : ScanOptions where
  disabled := ["third"]
  customPatterns :=
    [⟨"A", "[", .high, none, none⟩, blankPattern, paddedPattern, ⟨"D", "d", .high, none, none⟩]

/-- The two patterns in use are the second and the fourth, and their keys say so. -/
theorem sorts_customPatterns_mixed :
    (∃ faulty disabled active, mixedOptions.Sorts ".keyscan.toml" faulty disabled active) ∧
      blankPattern.key 1 = "custom_2".toList ∧ paddedPattern.key 2 = "third".toList ∧
      mixedOptions.customSignatures.map (·.key) = ["custom_2".toList, "custom_4".toList] := by
  obtain ⟨hsorts, hblank, hgiven⟩ := mixedOptions.sorts_customPatterns ".keyscan.toml"
  refine ⟨hsorts, ?_, ?_, by decide +kernel⟩
  · apply hblank blankPattern 1
    intro id hid
    rw [← Option.some.inj hid]
    decide
  · exact hgiven paddedPattern 2 " third " rfl (by decide)

end ScanOptions

end SecretScan
