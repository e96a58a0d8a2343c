import Mathlib.Data.List.Infix
import SecretScan.Selection.Glob

/-!
The language of globs. A path matches a glob when its segments can be dealt out to the segments of
the glob in order, any number of them to a double star and one to every other segment. The table of
answers that speeds the decision up is a record of true answers about rests of the glob and of the
path: every step leaves it so, and therefore the decision is right.
-/

namespace SecretScan.Glob

/-- The segments of the path are what the segments of the glob stand for, in order. -/
inductive Matches : List Text → List Text → Prop
  | nil : Matches [] []
  | segment {g s : Text} {glob path : List Text} (hg : g ≠ anyDepth)
      (hs : Wildcard.matchesSegment s g = true) (hrest : Matches glob path) :
      Matches (g :: glob) (s :: path)
  | depth {glob path : List Text} (passed : List Text) (hrest : Matches glob path) :
      Matches (anyDepth :: glob) (passed ++ path)

theorem matches_nil_iff (path : List Text) : Matches [] path ↔ path = [] := by
  constructor
  · intro h
    cases h
    rfl
  · rintro rfl
    exact .nil

theorem not_matches_segment_nil {g : Text} (hg : g ≠ anyDepth) (glob : List Text) :
    ¬ Matches (g :: glob) [] := by
  generalize hpath : ([] : List Text) = path
  intro h
  cases h with
  | segment => cases hpath
  | depth => exact hg rfl

theorem matches_segment_iff {g : Text} (hg : g ≠ anyDepth) (s : Text) (glob path : List Text) :
    Matches (g :: glob) (s :: path) ↔ Wildcard.matchesSegment s g = true ∧ Matches glob path := by
  constructor
  · generalize hpath : s :: path = whole
    intro h
    cases h with
    | segment _ hs hrest =>
      obtain ⟨rfl, rfl⟩ := List.cons.inj hpath
      exact ⟨hs, hrest⟩
    | depth => exact absurd rfl hg
  · rintro ⟨hs, hrest⟩
    exact .segment hg hs hrest

theorem matches_depth_iff (glob path : List Text) :
    Matches (anyDepth :: glob) path ↔ ∃ rest, rest <:+ path ∧ Matches glob rest := by
  constructor
  · intro h
    cases h with
    | segment hg => exact absurd rfl hg
    | depth passed hrest => exact ⟨_, List.suffix_append passed _, hrest⟩
  · rintro ⟨rest, ⟨passed, rfl⟩, hrest⟩
    exact .depth passed hrest

/-- Double stars at the end stand for everything that is left. -/
theorem matches_anyDepth (path : List Text) : Matches [anyDepth] path :=
  (matches_depth_iff [] path).2 ⟨[], List.nil_suffix, .nil⟩

/-- Behind a glob that matches a path, double stars match whatever lies below the path. -/
theorem Matches.append_anyDepth {glob path : List Text} (h : Matches glob path) (rest : List Text) :
    Matches (glob ++ [anyDepth]) (path ++ rest) := by
  induction h with
  | nil => exact matches_anyDepth rest
  | segment hg hs hrest ih => exact .segment hg hs ih
  | @depth glob path passed hrest ih =>
    rw [List.append_assoc]
    exact .depth passed ih

section Table

def IsTrue (glob path : List Text) (table : Table) : Prop :=
  ∀ g p answer, g <:+ glob → p <:+ path →
    table[slot (path.length + 1) g p]?.join = some answer → (answer = true ↔ Matches g p)

variable {glob path : List Text} {table : Table}

theorem isTrue_emptyTable (glob path : List Text) : IsTrue glob path (emptyTable glob path) := by
  intro g p answer hg hp hanswer
  rw [emptyTable, Array.getElem?_replicate] at hanswer
  split at hanswer
  · cases hanswer
  · cases hanswer

/-- Rests of one list that are equally long are the same. -/
theorem eq_of_suffix_of_length {l a b : List Text} (ha : a <:+ l) (hb : b <:+ l)
    (h : a.length = b.length) : a = b :=
  (List.suffix_of_suffix_length_le ha hb (Nat.le_of_eq h)).eq_of_length h

/-- No two pairs of rests share a place in the table. -/
theorem slot_inj {g g' p p' : List Text} (hg : g <:+ glob) (hg' : g' <:+ glob) (hp : p <:+ path)
    (hp' : p' <:+ path) (h : slot (path.length + 1) g p = slot (path.length + 1) g' p') :
    g = g' ∧ p = p' := by
  have hwidth : 0 < path.length + 1 := Nat.succ_pos _
  have hlt : p.length < path.length + 1 := Nat.lt_succ_of_le hp.length_le
  have hlt' : p'.length < path.length + 1 := Nat.lt_succ_of_le hp'.length_le
  have hrow : g.length = g'.length := by
    have h := congrArg (· / (path.length + 1)) h
    simp only [slot, Nat.mul_comm _ (path.length + 1), Nat.mul_add_div hwidth,
      Nat.div_eq_of_lt hlt, Nat.div_eq_of_lt hlt', Nat.add_zero] at h
    exact h
  have hcolumn : p.length = p'.length := by
    rw [slot, slot, hrow] at h
    exact Nat.add_left_cancel h
  exact ⟨eq_of_suffix_of_length hg hg' hrow, eq_of_suffix_of_length hp hp' hcolumn⟩

/-- A true answer can be put on record. -/
theorem IsTrue.record (ht : IsTrue glob path table) {g p : List Text} {answer : Bool}
    (hg : g <:+ glob) (hp : p <:+ path) (h : answer = true ↔ Matches g p) :
    IsTrue glob path (table.setIfInBounds (slot (path.length + 1) g p) (some answer)) := by
  intro g' p' answer' hg' hp' hanswer
  by_cases hslot : slot (path.length + 1) g p = slot (path.length + 1) g' p'
  · obtain ⟨rfl, rfl⟩ := slot_inj hg hg' hp hp' hslot
    rw [Array.getElem?_setIfInBounds, if_pos rfl] at hanswer
    split at hanswer
    · obtain rfl : answer = answer' := Option.some.inj hanswer
      exact h
    · cases hanswer
  · rw [Array.getElem?_setIfInBounds_ne hslot] at hanswer
    exact ht g' p' answer' hg' hp' hanswer

/-- What a step owes that decides about a rest of the glob and a rest of the path, given a table of
true answers: the answer is true, and so is the table that it leaves. -/
def IsRight (glob path g p : List Text) (result : Bool × Table) : Prop :=
  (result.1 = true ↔ Matches g p) ∧ IsTrue glob path result.2

theorem isRight_anyRest {g p : List Text} {decideRest : List Text → Table → Bool × Table}
    (hdecide : ∀ p table, p <:+ path → IsTrue glob path table →
      IsRight glob path g p (decideRest p table))
    (hp : p <:+ path) (ht : IsTrue glob path table) :
    IsRight glob path (anyDepth :: g) p (anyRest decideRest p table) := by
  induction p generalizing table with
  | nil =>
    obtain ⟨hanswer, htable⟩ := hdecide [] table hp ht
    refine ⟨?_, htable⟩
    rw [anyRest, hanswer, matches_depth_iff]
    constructor
    · intro h
      exact ⟨[], List.suffix_rfl, h⟩
    · rintro ⟨rest, hrest, h⟩
      rwa [List.suffix_nil.1 hrest] at h
  | cons s p ih =>
    obtain ⟨hanswer, htable⟩ := hdecide (s :: p) table hp ht
    have hbehind := ih ((List.suffix_cons s p).trans hp) htable
    rw [anyRest]
    cases hfound : (decideRest (s :: p) table).1 with
    | true =>
      simp only [hfound, if_true]
      refine ⟨⟨fun _ => ?_, fun _ => rfl⟩, htable⟩
      exact (matches_depth_iff _ _).2 ⟨s :: p, List.suffix_rfl, hanswer.1 hfound⟩
    | false =>
      have hhere : ¬ Matches g (s :: p) := by
        intro h
        rw [hanswer.2 h] at hfound
        cases hfound
      simp only [hfound, Bool.false_eq_true, if_false]
      refine ⟨?_, hbehind.2⟩
      rw [hbehind.1, matches_depth_iff, matches_depth_iff]
      constructor
      · rintro ⟨rest, hrest, h⟩
        exact ⟨rest, hrest.trans (List.suffix_cons s p), h⟩
      · rintro ⟨rest, hrest, h⟩
        rcases List.suffix_cons_iff.1 hrest with rfl | hrest
        · exact absurd h hhere
        · exact ⟨rest, hrest, h⟩

/-- Looking an answer up first, and recording it when it is new, changes nothing about it. -/
theorem isRight_lookup {g p : List Text} (hg : g <:+ glob) (hp : p <:+ path)
    (ht : IsTrue glob path table) {fresh : Bool × Table}
    (hfresh : IsRight glob path g p fresh) :
    IsRight glob path g p
      (match table[slot (path.length + 1) g p]?.join with
        | some known => (known, table)
        | none => (fresh.1, fresh.2.setIfInBounds (slot (path.length + 1) g p) (some fresh.1))) := by
  split
  · rename_i known hknown
    exact ⟨ht g p known hg hp hknown, ht⟩
  · exact ⟨hfresh.1, hfresh.2.record hg hp hfresh.1⟩

/-- The answer for a rest of the glob that begins with a segment, when it is not on record. -/
theorem isRight_fresh {first : Text} {g p : List Text} (ht : IsTrue glob path table)
    (hdecide : ∀ p table, p <:+ path → IsTrue glob path table →
      IsRight glob path g p (visit (path.length + 1) g p table)) :
    p <:+ path → IsRight glob path (first :: g) p
      (if first == anyDepth then
        if g.isEmpty then (true, table) else anyRest (visit (path.length + 1) g) p table
      else match p with
        | [] => (false, table)
        | s :: rest =>
          if Wildcard.matchesSegment s first then visit (path.length + 1) g rest table
          else (false, table)) := by
  intro hp
  by_cases hdepth : first = anyDepth
  · rw [if_pos (beq_iff_eq.2 hdepth), hdepth]
    split
    · rename_i hlast
      obtain rfl : g = [] := List.isEmpty_iff.1 hlast
      exact ⟨⟨fun _ => matches_anyDepth p, fun _ => rfl⟩, ht⟩
    · exact isRight_anyRest hdecide hp ht
  · rw [if_neg (mt beq_iff_eq.1 hdepth)]
    cases p with
    | nil =>
      refine ⟨⟨fun h => ?_, fun h => ?_⟩, ht⟩
      · cases h
      · exact absurd h (not_matches_segment_nil hdepth g)
    | cons s p =>
      rw [IsRight, matches_segment_iff hdepth]
      simp only
      split
      · rename_i hs
        rw [and_iff_right hs]
        exact hdecide p table ((List.suffix_cons s p).trans hp) ht
      · rename_i hs
        refine ⟨⟨fun h => ?_, fun h => ?_⟩, ht⟩
        · cases h
        · exact absurd h.1 hs

/-- The step of the decision: it answers truly and leaves a table of true answers. -/
theorem isRight_visit {g p : List Text} (hg : g <:+ glob) (hp : p <:+ path)
    (ht : IsTrue glob path table) :
    IsRight glob path g p (visit (path.length + 1) g p table) := by
  induction g generalizing p table with
  | nil =>
    have hfresh : IsRight glob path [] p (p.isEmpty, table) :=
      ⟨by rw [matches_nil_iff, List.isEmpty_iff], ht⟩
    exact isRight_lookup hg hp ht hfresh
  | cons first g ih =>
    have hrest : g <:+ glob := (List.suffix_cons first g).trans hg
    exact isRight_lookup hg hp ht (isRight_fresh ht (fun q table hq ht => ih hrest hq ht) hp)

end Table

theorem matchesSegments_iff (glob path : List Text) :
    matchesSegments glob path = true ↔ Matches glob path :=
  (isRight_visit List.suffix_rfl List.suffix_rfl (isTrue_emptyTable glob path)).1

theorem accepts_iff (path glob : Text) :
    accepts path glob = true ↔ Matches (Path.segments glob) (Path.segments path) :=
  matchesSegments_iff _ _

end SecretScan.Glob
