import SecretScan.Proofs.PatternSpan

/-!
The ways in which a plan can go on. From a position of a line a loop-free plan has a list of ways,
the preferred ones first; a way is the position where it ends together with the groups that it adds.
This is what a pattern means, without regard to how a search goes about it. Plans with loops are
left out.
-/

namespace SecretScan

def Cursor.ofIndex (line : Text) (i : Nat) : Cursor :=
  ⟨i, (line.take i).getLast?, line.drop i⟩

namespace Cursor

variable {line : Text} {i : Nat}

theorem start_eq (line : Text) : start line = ofIndex line 0 := rfl

theorem drop_of_getElem? {x : Char} (h : (line)[i]? = some x) :
    line.drop i = x :: line.drop (i + 1) := by
  obtain ⟨hi, rfl⟩ := List.getElem?_eq_some_iff.1 h
  exact List.drop_eq_getElem_cons hi

theorem ofIndex_succ {x : Char} (h : (line)[i]? = some x) :
    ofIndex line (i + 1) = ⟨i + 1, some x, line.drop (i + 1)⟩ := by
  rw [ofIndex, List.take_add_one, h, Option.toList_some, List.getLast?_concat]

theorem forward_ofIndex (n : Nat) (h : i + n ≤ line.length) :
    (ofIndex line i).forward n = ofIndex line (i + n) := by
  induction n generalizing i with
  | zero => rfl
  | succ n ih =>
    have hx : (line)[i]? = some (line)[i] := List.getElem?_eq_getElem (by omega)
    have hforward : (ofIndex line i).forward (n + 1) = (ofIndex line (i + 1)).forward n := by
      rw [ofIndex_succ hx, ofIndex, drop_of_getElem? hx]
      rfl
    rw [hforward, ih (by omega), Nat.add_right_comm, Nat.add_assoc]

end Cursor

namespace Plan

/-- No part of the plan can go round any number of times, except runs of characters of one set. -/
def isLoopFree : Plan → Bool
  | .empty => true
  | .set _ => true
  | .look _ => true
  | .seq a b => a.isLoopFree && b.isLoopFree
  | .alt _ a b => a.isLoopFree && b.isLoopFree
  | .capture _ a => a.isLoopFree
  | .option _ a _ => a.isLoopFree
  | .loop _ _ _ => false
  | .span _ _ _ _ _ => true

def longest (s : CharSet) (most : Option Nat) (rest : Text) : Nat :=
  most.elim (rest.takeWhile s.contains).length (min (rest.takeWhile s.contains).length)

def stops (line : Text) (s : CharSet) (least : Nat) (most : Option Nat) (i : Nat) : List Nat :=
  List.range' (i + least) (longest s most (line.drop i) + 1 - least)

/-- The ways in which a loop-free plan can go on from a position, the preferred ones first: where
each ends, and the groups that it adds. -/
def ways (line : Text) : Plan → Nat → List (Nat × Slots)
  | .empty, i => [(i, [])]
  | .set s, i => if (line)[i]?.any s.contains then [(i + 1, [])] else []
  | .look l, i => if l.holds (line.take i).getLast? (line)[i]? then [(i, [])] else []
  | .seq a b, i => (ways line a i).flatMap fun w =>
      (ways line b w.1).map fun v => (v.1, v.2 ++ w.2)
  | .alt _ a b, i => ways line a i ++ ways line b i
  | .capture index a, i =>
    (ways line a i).map fun w => (w.1, (2 * index + 1, w.1) :: w.2 ++ [(2 * index, i)])
  | .option _ a greedy, i => if greedy then ways line a i ++ [(i, [])] else (i, []) :: ways line a i
  | .loop _ _ _, _ => []
  | .span _ s least most greedy, i =>
    (if greedy then (stops line s least most i).reverse else stops line s least most i).map (·, [])

section Reach

variable {line : Text} {s : CharSet}

theorem longest_cons_of_stop {most : Option Nat} {c : Char} {rest : Text}
    (h : (most != some 0 && s.contains c) = false) : longest s most (c :: rest) = 0 := by
  rw [Bool.and_eq_false_iff] at h
  rcases h with h | h
  · obtain rfl : most = some 0 := by simpa using h
    exact Nat.min_zero _
  · rw [longest, List.takeWhile_cons, h]
    cases most with
    | none => rfl
    | some most => exact Nat.zero_min most

theorem longest_cons_of_go {most : Option Nat} {c : Char} {rest : Text}
    (h : (most != some 0 && s.contains c) = true) :
    longest s most (c :: rest) = longest s (most.map (· - 1)) rest + 1 := by
  rw [Bool.and_eq_true] at h
  rw [longest, List.takeWhile_cons, h.2, longest]
  cases most with
  | none => rfl
  | some most =>
    have hmost : most ≠ 0 := by simpa using h.1
    simp only [Option.elim_some, Option.map_some, if_true, List.length_cons]
    omega

/-- A run that cannot go on stops here, unless it needs more characters. -/
theorem stops_of_longest_eq_zero {least : Nat} {most : Option Nat} {i : Nat}
    (h : longest s most (line.drop i) = 0) :
    stops line s least most i = if least == 0 then [i] else [] := by
  rw [stops, h]
  cases least with
  | zero => rfl
  | succ least =>
    have hnone : 0 + 1 - (least + 1) = 0 := by omega
    rw [hnone]
    rfl

/-- A run that can go on stops here or further on. -/
theorem stops_of_go {least : Nat} {most : Option Nat} {i : Nat} {c : Char}
    (hc : (line)[i]? = some c) (hgo : (most != some 0 && s.contains c) = true) :
    stops line s least most i = (if least == 0 then [i] else []) ++
      stops line s (least - 1) (most.map (· - 1)) (i + 1) := by
  rw [stops, Cursor.drop_of_getElem? hc, longest_cons_of_go hgo, stops]
  cases least with
  | zero => rfl
  | succ least =>
    have hstart : i + 1 + least = i + (least + 1) := by omega
    have hcount (n : Nat) : n + 1 + 1 - (least + 1) = n + 1 - least := by omega
    simp only [Nat.add_sub_cancel, hstart, hcount]
    rfl

theorem reach_eq (least : Nat) (most : Option Nat) (i : Nat) :
    reach s least most (Cursor.ofIndex line i).before i (line.drop i) =
      (stops line s least most i).map (Cursor.ofIndex line) := by
  generalize hrest : line.drop i = rest
  have hhere : Cursor.mk i (Cursor.ofIndex line i).before rest = Cursor.ofIndex line i := by
    rw [← hrest]
    rfl
  induction rest generalizing i least most with
  | nil =>
    have hlongest : longest s most (line.drop i) = 0 := by
      rw [hrest]
      cases most with
      | none => rfl
      | some most => exact Nat.zero_min most
    rw [reach, hhere, stops_of_longest_eq_zero hlongest, apply_ite (List.map _)]
    rfl
  | cons c rest ih =>
    have hc : (line)[i]? = some c := by rw [← List.head?_drop, hrest]; rfl
    rw [reach, hhere]
    cases hgo : most != some 0 && s.contains c with
    | false =>
      have hlongest : longest s most (line.drop i) = 0 := by
        rw [hrest, longest_cons_of_stop hgo]
      rw [stops_of_longest_eq_zero hlongest, apply_ite (List.map _)]
      rfl
    | true =>
      have hnext : line.drop (i + 1) = rest := by
        have hcons := Cursor.drop_of_getElem? hc
        rw [hrest] at hcons
        exact (List.cons.inj hcons).2.symm
      have hbefore : (Cursor.ofIndex line (i + 1)).before = some c := by
        rw [Cursor.ofIndex_succ hc]
      have hrun := ih (least - 1) (most.map (· - 1)) (i + 1) hnext (by rw [← hnext]; rfl)
      rw [hbefore] at hrun
      rw [stops_of_go hc hgo, List.map_append, ← hrun, apply_ite (List.map _)]
      rfl

/-- A run of characters can be continued up to a length when so many characters of the set follow.
-/
theorem le_longest_iff {most : Option Nat} {rest : Text} {k : Nat} : k ≤ longest s most rest ↔
    (∃ run after, rest = run ++ after ∧ run.all s.contains = true ∧ run.length = k) ∧
      ∀ m ∈ most, k ≤ m := by
  have hrun : k ≤ (rest.takeWhile s.contains).length ↔
      ∃ run after, rest = run ++ after ∧ run.all s.contains = true ∧ run.length = k := by
    constructor
    · intro hk
      refine ⟨(rest.takeWhile s.contains).take k,
        (rest.takeWhile s.contains).drop k ++ rest.dropWhile s.contains, ?_, ?_, ?_⟩
      · rw [← List.append_assoc, List.take_append_drop, List.takeWhile_append_dropWhile]
      · rw [List.all_eq_true]
        exact fun c hc => List.all_eq_true.1 List.all_takeWhile c (List.mem_of_mem_take hc)
      · rw [List.length_take, Nat.min_eq_left hk]
    · intro ⟨run, after, hrest, hall, hlength⟩
      rw [hrest, List.takeWhile_append_of_pos (List.all_eq_true.1 hall), List.length_append]
      omega
  rw [← hrun]
  cases most with
  | none => simp [longest]
  | some most =>
    simp only [longest, Option.elim_some, Nat.le_min, Option.mem_def, Option.some.injEq, forall_eq']

theorem mem_stops_iff {least : Nat} {most : Option Nat} {i j : Nat} :
    j ∈ stops line s least most i ↔ ∃ run after, line.drop i = run ++ after ∧
      run.all s.contains = true ∧ j = i + run.length ∧ least ≤ run.length ∧
        ∀ m ∈ most, run.length ≤ m := by
  rw [stops, List.mem_range'_1]
  constructor
  · intro ⟨hfirst, hlast⟩
    have hle : j - i ≤ longest s most (line.drop i) := by omega
    obtain ⟨⟨run, after, hrest, hall, hlength⟩, hmost⟩ := le_longest_iff.1 hle
    exact ⟨run, after, hrest, hall, by omega, by omega, hlength ▸ hmost⟩
  · intro ⟨run, after, hrest, hall, hj, hleast, hmost⟩
    have hle := le_longest_iff.2 ⟨⟨run, after, hrest, hall, rfl⟩, hmost⟩
    omega

theorem stops_le {least : Nat} {most : Option Nat} {i : Nat} (hi : i ≤ line.length) :
    ∀ j ∈ stops line s least most i, j ≤ line.length := by
  intro j hj
  have hrun : ((line.drop i).takeWhile s.contains).length ≤ line.length - i := by
    rw [← List.length_drop]
    exact (List.takeWhile_prefix _).length_le
  have hlongest : longest s most (line.drop i) ≤ line.length - i := by
    cases most with
    | none => exact hrun
    | some most => exact Nat.le_trans (Nat.min_le_left _ _) hrun
  rw [stops, List.mem_range'_1] at hj
  omega

end Reach

section Ways

variable {line : Text} {s : CharSet} {i : Nat} {w : Nat × Slots}

theorem ways_seq_set (s : CharSet) (p : Plan) (i : Nat) :
    ways line (.seq (.set s) p) i =
      if (line)[i]?.any s.contains then ways line p (i + 1) else [] := by
  rw [ways, ways]
  split
  · simp only [List.flatMap_cons, List.flatMap_nil, List.append_nil, List.map_id']
  · rfl

theorem mem_ways_set_iff : w ∈ ways line (.set s) i ↔
    (line)[i]?.any s.contains = true ∧ w = (i + 1, []) := by
  rw [ways]
  split <;> simp_all

theorem mem_ways_look_iff {l : Look} : w ∈ ways line (.look l) i ↔
    l.holds (line.take i).getLast? (line)[i]? = true ∧ w = (i, []) := by
  rw [ways]
  split <;> simp_all

theorem mem_ways_option_iff {place : Nat} {a : Plan} {greedy : Bool} :
    w ∈ ways line (.option place a greedy) i ↔ w ∈ ways line a i ∨ w = (i, []) := by
  rw [ways]
  split <;> simp [or_comm]

theorem mem_ways_capture_iff {index : Nat} {a : Plan} : w ∈ ways line (.capture index a) i ↔
    ∃ u ∈ ways line a i, w = (u.1, (2 * index + 1, u.1) :: u.2 ++ [(2 * index, i)]) := by
  simp only [ways, List.mem_map, eq_comm (b := w)]

theorem mem_ways_seq_iff {a b : Plan} : w ∈ ways line (.seq a b) i ↔
    ∃ u ∈ ways line a i, ∃ v ∈ ways line b u.1, w = (v.1, v.2 ++ u.2) := by
  simp only [ways, List.mem_flatMap, List.mem_map, eq_comm (b := w)]

theorem mem_ways_span_iff {place least : Nat} {most : Option Nat} {greedy : Bool} :
    w ∈ ways line (.span place s least most greedy) i ↔
      w.2 = [] ∧ w.1 ∈ stops line s least most i := by
  have hstops : (∃ j ∈ stops line s least most i, (j, []) = w) ↔
      w.2 = [] ∧ w.1 ∈ stops line s least most i := by
    constructor
    · intro ⟨j, hj, hw⟩
      obtain rfl := hw
      exact ⟨rfl, hj⟩
    · intro ⟨hslots, hj⟩
      exact ⟨w.1, hj, Prod.ext rfl hslots.symm⟩
  rw [ways, List.mem_map, ← hstops]
  cases greedy
  · rfl
  · simp only [if_true, List.mem_reverse]

end Ways

end Plan

end SecretScan
