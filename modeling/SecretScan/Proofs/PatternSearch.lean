import SecretScan.Proofs.PatternMemory

/-!
What a search finds: the first way from the leftmost position that has one. The numbering of a
compiled pattern gives every branching place a number of its own, so that this holds of every
pattern without loops.
-/

namespace SecretScan

namespace Plan

/-- The places of a plan have numbers of their own, from the first number on and below the last. -/
structure Numbered (first last : Nat) (p : Plan) : Prop where
  le : first ≤ last
  nodup : p.places.Nodup
  bounds : ∀ x ∈ p.places, first ≤ x ∧ x < last

namespace Numbered

variable {first middle last : Nat} {a b : Plan}

theorem of_places_eq_nil {p : Plan} (h : p.places = []) (hle : first ≤ last) :
    Numbered first last p :=
  ⟨hle, by rw [h]; exact .nil, by rw [h]; simp⟩

theorem widen {p : Plan} (h : Numbered first middle p) (hle : middle ≤ last) :
    Numbered first last p := by
  refine ⟨Nat.le_trans h.le hle, h.nodup, fun x hx => ?_⟩
  have hbounds := h.bounds x hx
  omega

theorem seq (ha : Numbered first middle a) (hb : Numbered middle last b) :
    Numbered first last (.seq a b) := by
  have hle := ha.le
  have hle' := hb.le
  refine ⟨by omega, List.nodup_append.2 ⟨ha.nodup, hb.nodup, fun x hx y hy => ?_⟩, fun x hx => ?_⟩
  · have hx := (ha.bounds x hx).2
    have hy := (hb.bounds y hy).1
    omega
  · rcases List.mem_append.1 hx with hx | hx
    · have hbounds := ha.bounds x hx
      omega
    · have hbounds := hb.bounds x hx
      omega

/-- A place in front of what it branches to. -/
theorem cons {p : Plan} {inner : List Nat} (hplaces : p.places = first :: inner)
    (ha : Numbered (first + 1) last a) (hinner : a.places = inner) : Numbered first last p := by
  have hle := ha.le
  have hbounds := ha.bounds
  rw [hinner] at hbounds
  refine ⟨by omega, ?_, fun x hx => ?_⟩
  · rw [hplaces]
    refine List.nodup_cons.2 ⟨fun hmem => ?_, hinner ▸ ha.nodup⟩
    have := (hbounds first hmem).1
    omega
  · rw [hplaces] at hx
    rcases List.mem_cons.1 hx with rfl | hx
    · omega
    · have := hbounds x hx
      omega

theorem alt (ha : Numbered (first + 1) middle a) (hb : Numbered middle last b) :
    Numbered first last (.alt first a b) :=
  (ha.seq hb).cons rfl rfl

theorem option (ha : Numbered (first + 1) last a) (greedy : Bool) :
    Numbered first last (.option first a greedy) :=
  ha.cons rfl rfl

theorem loop (ha : Numbered (first + 1) last a) (greedy : Bool) :
    Numbered first last (.loop first a greedy) :=
  ha.cons rfl rfl

theorem capture (ha : Numbered first last a) (index : Nat) :
    Numbered first last (.capture index a) :=
  ⟨ha.le, ha.nodup, ha.bounds⟩

theorem span (first : Nat) (s : CharSet) (least : Nat) (most : Option Nat) (greedy : Bool) :
    Numbered first (first + 1) (.span first s least most greedy) :=
  ⟨by omega, List.pairwise_singleton _ first, fun x hx => by
    obtain rfl := List.mem_singleton.1 hx
    omega⟩

end Numbered

section Number

variable {body : Nat → Plan × Nat}
variable (hbody : ∀ place, Numbered place (body place).2 (body place).1)
include hbody

theorem numbered_copies (count place : Nat) :
    Numbered place (copies body count place).2 (copies body count place).1 := by
  induction count generalizing place with
  | zero => exact .of_places_eq_nil rfl (Nat.le_refl _)
  | succ count ih =>
    cases count with
    | zero => exact hbody place
    | succ count => exact (hbody place).seq (ih _)

theorem numbered_optionals (greedy : Bool) (count place : Nat) :
    Numbered place (optionals body greedy count place).2 (optionals body greedy count place).1 := by
  induction count generalizing place with
  | zero => exact .of_places_eq_nil rfl (Nat.le_refl _)
  | succ count ih =>
    cases count with
    | zero => exact (hbody (place + 1)).option greedy
    | succ count => exact ((hbody (place + 1)).seq (ih _)).option greedy

/-- The rounds that there must be, and those that there may be. -/
theorem numbered_bounded (greedy : Bool) (least most place : Nat) :
    let first := copies body least place
    let others := optionals body greedy (most - least) first.2
    Numbered place others.2
      (if (least == 0) = true then others.1
        else if most ≤ least then first.1 else .seq first.1 others.1) := by
  intro first others
  have hfirst : Numbered place first.2 first.1 := numbered_copies hbody least place
  have hothers : Numbered first.2 others.2 others.1 := numbered_optionals hbody greedy _ _
  split
  · rename_i hleast
    obtain rfl : least = 0 := eq_of_beq hleast
    exact hothers
  · split
    · exact hfirst.widen hothers.le
    · exact hfirst.seq hothers

/-- The rounds before the last one that there must be, and the loop that starts with that one. -/
theorem numbered_unbounded (greedy : Bool) (least place : Nat) :
    let first := copies body least place
    let last := body (first.2 + 1)
    Numbered place last.2
      (if (least == 0) = true then .loop first.2 last.1 greedy
        else .seq first.1 (.loop first.2 last.1 greedy)) := by
  intro first last
  have hfirst : Numbered place first.2 first.1 := numbered_copies hbody least place
  have hlast : Numbered first.2 last.2 (.loop first.2 last.1 greedy) :=
    (hbody (first.2 + 1)).loop greedy
  split
  · rename_i hleast
    obtain rfl : least = 0 := eq_of_beq hleast
    exact hlast
  · exact hfirst.seq hlast

end Number

theorem numbered_number (loose : Bool) (e : Expr) (place : Nat) :
    Numbered place (number loose e place).2 (number loose e place).1 := by
  induction e generalizing loose place with
  | empty => exact .of_places_eq_nil rfl (Nat.le_refl _)
  | set s => exact .of_places_eq_nil rfl (Nat.le_refl _)
  | look l => exact .of_places_eq_nil rfl (Nat.le_refl _)
  | seq a b iha ihb => exact (iha loose place).seq (ihb loose _)
  | alt a b iha ihb => exact (iha loose (place + 1)).alt (ihb loose _)
  | capture index a ih => exact (ih loose place).capture index
  | rep a least most greedy ih =>
    generalize hr : number loose (.rep a least most greedy) place = r
    unfold number at hr
    extract_lets general loose at hr
    have hgeneral (body : Nat → Plan × Nat)
        (hbody : ∀ place, Numbered place (body place).2 (body place).1) :
        Numbered place (general body).2 (general body).1 := by
      cases most with
      | some most => exact numbered_bounded hbody greedy least most place
      | none =>
        cases least with
        | zero => exact ((hbody (place + 1 + 1)).loop greedy).option greedy
        | succ least => exact numbered_unbounded hbody greedy least place
    subst hr
    cases a with
    | set s =>
      change Numbered place (if loose = true then _ else _ : Plan × Nat).2
        (if loose = true then _ else _ : Plan × Nat).1
      split
      · exact hgeneral _ fun place => .of_places_eq_nil rfl (Nat.le_refl _)
      · exact .span place s least most greedy
    | _ => exact hgeneral _ (ih loose)

section Search

variable {line : Text} {p : Plan}

/-- Nothing is left to match at the end of a plan. -/
theorem answers_end (line : Text) :
    Continuation.Answers line (fun _ => False) (fun _ => True) (fun i slots => some (i, slots))
      (fun c slots _ => .found c.index slots) where
  gives _ _ _ _ _ := rfl
  isSome_eq _ _ _ := rfl
  sound_of_agreeOn _ _ _ _ := trivial

theorem firstAnswer_end (p : Plan) (i : Nat) :
    p.firstAnswer line (fun i slots => some (i, slots)) i [] = (ways line p i).head? := by
  simp only [firstAnswer, List.append_nil]
  cases ways line p i <;> rfl

/-- An attempt at a position finds the first way from there; where there is none, the memory that it
leaves is sound again. -/
theorem run_end_cases (hfree : p.isLoopFree = true) (hnodup : p.places.Nodup) {i : Nat}
    (hi : i ≤ line.length) {entered : Entered}
    (hclear : p.Cleared line (Leads fun i slots => some (i, slots)) entered) :
    let attempt := p.run (fun c slots _ => .found c.index slots) (Cursor.ofIndex line i) [] entered
    (∃ w, (ways line p i).head? = some w ∧ attempt = .found w.1 w.2) ∨
      ((ways line p i).head? = none ∧ ∃ left, attempt = .failed left ∧
        p.Cleared line (Leads fun i slots => some (i, slots)) left) := by
  intro attempt
  have hanswers := findsFirst_run hfree hnodup (fun _ _ h => h) (answers_end line)
  have hgives := hanswers.gives i hi [] entered ⟨hclear, trivial⟩
  rw [firstAnswer_end] at hgives
  change attempt.Gives _ _ _ _ at hgives
  cases hattempt : attempt with
  | found stop slots =>
    rw [hattempt] at hgives
    exact .inl ⟨(stop, slots), hgives, rfl⟩
  | failed left =>
    rw [hattempt] at hgives
    obtain ⟨hnone, ⟨hleft, -⟩, -⟩ := hgives
    exact .inr ⟨hnone, left, rfl, hleft⟩

/-- A search finds the first way from the leftmost position that has one, and what it remembers of
the positions it has passed does not matter. -/
theorem searchFrom_eq (hfree : p.isLoopFree = true) (hnodup : p.places.Nodup) {fuel i : Nat}
    {entered : Entered} (hi : i + fuel = line.length)
    (hclear : p.Cleared line (Leads fun i slots => some (i, slots)) entered) :
    p.searchFrom fuel (Cursor.ofIndex line i) entered =
      (List.range' i (fuel + 1)).findSome? fun j =>
        (ways line p j).head?.map fun w => (j, w.1, w.2) := by
  induction fuel generalizing i entered with
  | zero =>
    rw [List.range'_one, List.findSome?_singleton, searchFrom]
    have hle : i ≤ line.length := by omega
    rcases run_end_cases hfree hnodup hle hclear with
      ⟨w, hhead, hrun⟩ | ⟨hhead, left, hrun, -⟩
    · rw [hrun, hhead]
      rfl
    · rw [hrun, hhead]
      rfl
  | succ fuel ih =>
    rw [List.range'_succ, List.findSome?_cons, searchFrom]
    have hle : i ≤ line.length := by omega
    rcases run_end_cases hfree hnodup hle hclear with
      ⟨w, hhead, hrun⟩ | ⟨hhead, left, hrun, hleft⟩
    · rw [hrun, hhead]
      rfl
    · have hx : (line)[i]? = some (line)[i] := List.getElem?_eq_getElem (by omega)
      rw [hrun, hhead, Option.map_none, ← ih (by omega) hleft, Cursor.ofIndex_succ hx]
      simp only [Cursor.ofIndex, Cursor.drop_of_getElem? hx]

end Search

end Plan

namespace Pattern

/-- A pattern whose plan is loop-free and numbers its places apart finds the first way of its plan
from the leftmost position, at or after the given one, that has a way. -/
theorem matchFrom?_eq (p : Pattern) (hfree : p.plan.isLoopFree = true)
    (hnodup : p.plan.places.Nodup) (line : Text) (position : Nat) :
    p.matchFrom? line position =
      (List.range' position (line.length + 1 - position)).findSome? fun i =>
        (p.plan.ways line i).head?.map fun w => ⟨i, w.1, w.2⟩ := by
  unfold matchFrom?
  by_cases hposition : line.length < position
  · have hnone : line.length + 1 - position = 0 := by omega
    rw [if_pos hposition, hnone]
    rfl
  · have hcursor : (Cursor.start line).forward position = Cursor.ofIndex line position := by
      rw [Cursor.start_eq, Cursor.forward_ofIndex position (by omega), Nat.zero_add]
    have hlength : (Cursor.ofIndex line position).rest.length = line.length - position :=
      List.length_drop
    have hcount : line.length - position + 1 = line.length + 1 - position := by omega
    have hfuel : position + (line.length - position) = line.length := by omega
    have hsearch := Plan.searchFrom_eq hfree hnodup hfuel
      (Plan.cleared_of_not_mem fun _ => Std.TreeSet.not_mem_emptyc)
    simp only [if_neg hposition, hcursor, hlength, hsearch, hcount, List.map_findSome?]
    refine congrArg (List.findSome? · _) (funext fun i => ?_)
    exact Option.map_map _ _ _

theorem findSome?_range'_eq_some_iff {α : Type} {f : Nat → Option α} {first count : Nat} {x : α} :
    (List.range' first count).findSome? f = some x ↔
      ∃ i, first ≤ i ∧ i < first + count ∧ f i = some x ∧ ∀ j, first ≤ j → j < i → f j = none := by
  induction count generalizing first with
  | zero =>
    constructor
    · intro h
      cases h
    · intro ⟨i, hfirst, hlast, _⟩
      omega
  | succ count ih =>
    rw [List.range'_succ, List.findSome?_cons]
    cases hfound : f first with
    | some y =>
      constructor
      · intro h
        obtain rfl : y = x := Option.some.inj h
        exact ⟨first, Nat.le_refl _, by omega, hfound, fun j hj hlt => by omega⟩
      · intro ⟨i, hfirst, _, hi, hnone⟩
        rcases Nat.eq_or_lt_of_le hfirst with rfl | hlt
        · exact hfound.symm.trans hi
        · exact nomatch hfound.symm.trans (hnone first (Nat.le_refl _) hlt)
    | none =>
      refine ih.trans ⟨fun ⟨i, hfirst, hlast, hi, hnone⟩ => ?_,
        fun ⟨i, hfirst, hlast, hi, hnone⟩ => ?_⟩
      · refine ⟨i, by omega, by omega, hi, fun j hj hlt => ?_⟩
        rcases Nat.eq_or_lt_of_le hj with rfl | hj
        · exact hfound
        · exact hnone j hj hlt
      · have hne : i ≠ first := fun heq => nomatch (heq ▸ hi).symm.trans hfound
        exact ⟨i, by omega, by omega, hi, fun j hj => hnone j (by omega)⟩

section LoopFree

variable {p : Pattern} (hfree : p.plan.isLoopFree = true) (hnodup : p.plan.places.Nodup)
variable {line : Text} {position : Nat}
include hfree hnodup

theorem matchFrom?_eq_some_iff {m : Match} : p.matchFrom? line position = some m ↔
    position ≤ m.start ∧ m.start ≤ line.length ∧
      (p.plan.ways line m.start).head? = some (m.stop, m.slots) ∧
      ∀ j, position ≤ j → j < m.start → p.plan.ways line j = [] := by
  rw [matchFrom?_eq p hfree hnodup, findSome?_range'_eq_some_iff]
  simp only [Option.map_eq_some_iff, Option.map_eq_none_iff, List.head?_eq_none_iff]
  constructor
  · intro ⟨i, hfirst, hlast, ⟨w, hw, hm⟩, hnone⟩
    obtain rfl := hm
    exact ⟨hfirst, show i ≤ line.length by omega, hw, hnone⟩
  · intro ⟨hfirst, hlast, hw, hnone⟩
    exact ⟨m.start, hfirst, by omega, ⟨_, hw, rfl⟩, hnone⟩

theorem matchFrom?_eq_none_iff : p.matchFrom? line position = none ↔
    ∀ i, position ≤ i → i ≤ line.length → p.plan.ways line i = [] := by
  rw [matchFrom?_eq p hfree hnodup, List.findSome?_eq_none_iff]
  simp only [List.mem_range'_1, Option.map_eq_none_iff, List.head?_eq_none_iff]
  constructor
  · intro h i hfirst hlast
    exact h i ⟨hfirst, by omega⟩
  · intro h i hi
    exact h i hi.1 (by omega)

end LoopFree

/-- A compiled pattern numbers its branching places apart. -/
theorem nodup_places_of_compile {source : Text} {p : Pattern} (h : compile source = .ok p) :
    p.plan.places.Nodup := by
  cases hparse : PatternTree.parse source with
  | error fault => simp [compile, hparse, bind, Except.bind] at h
  | ok parsed =>
    cases hmeaning : Expr.ofTree {} parsed.1 with
    | error fault => simp [compile, hparse, hmeaning, bind, Except.bind] at h
    | ok meant =>
      simp only [compile, hparse, hmeaning, bind, Except.bind] at h
      split at h
      · cases h
      · obtain rfl := Except.ok.inj h
        exact (Plan.numbered_number false meant.1 0).nodup

end Pattern

end SecretScan
