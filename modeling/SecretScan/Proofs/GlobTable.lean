import Mathlib.Data.List.Forall2
import Mathlib.Data.List.Infix
import SecretScan.Proofs.GlobLanguage

/-!
The table behind the decision about globs. The same decision is written down twice more: without a
table, and with every access to the table checked, so that it comes to nothing as soon as a place
lies outside. A sound table has a place for each pair of rests and holds only answers that the
decision without a table gives. Every step that starts from a sound table goes through, gives that
answer and leaves a sound table, so the table is never left and never changes an answer.
-/

namespace SecretScan

def Path.pieces (s : Text) : List Text :=
  if s.isEmpty then [] else Text.splitOn '/' s

theorem Path.pieces_relative (path : Text) : pieces (relative path) = segments path := by
  have hslash : ∀ s ∈ segments path, '/' ∉ s := fun s hs => slash_not_mem_of_mem_segments hs
  by_cases hnone : segments path = []
  · rw [relative, hnone]
    rfl
  · have hsplit : Text.splitOn '/' (relative path) = segments path :=
      Text.splitOn_join hnone hslash
    have hne : relative path ≠ [] := by
      intro hempty
      rw [hempty] at hsplit
      have hblank : ([] : Text) ∈ segments path := by
        rw [← hsplit]
        exact List.mem_cons_self
      have hkept := (List.mem_filter.1 hblank).2
      cases hkept
    rw [pieces, if_neg (by simpa using hne), hsplit]

namespace Glob

/-- What a segment of a glob may take of a path: two stars take any segments, and any other segment
takes one segment that it matches. -/
def Takes (g : Text) (block : List Text) : Prop :=
  g = anyDepth ∨ ∃ s, block = [s] ∧ Wildcard.matchesSegment s g = true

theorem Matches.exists_blocks {glob path : List Text} (h : Matches glob path) :
    ∃ blocks, List.Forall₂ Takes glob blocks ∧ blocks.flatten = path := by
  induction h with
  | nil => exact ⟨[], .nil, rfl⟩
  | @segment g s glob path hg hs hrest ih =>
    obtain ⟨blocks, htakes, rfl⟩ := ih
    exact ⟨[s] :: blocks, .cons (.inr ⟨s, rfl, hs⟩) htakes, rfl⟩
  | @depth glob path passed hrest ih =>
    obtain ⟨blocks, htakes, rfl⟩ := ih
    exact ⟨passed :: blocks, .cons (.inl rfl) htakes, rfl⟩

theorem matches_flatten {glob : List Text} {blocks : List (List Text)}
    (h : List.Forall₂ Takes glob blocks) : Matches glob blocks.flatten := by
  induction h with
  | nil => exact .nil
  | @cons g block glob blocks htakes hrest ih =>
    rw [List.flatten_cons]
    by_cases hg : g = anyDepth
    · subst hg
      exact .depth block ih
    · rcases htakes with hdepth | ⟨s, rfl, hs⟩
      · exact absurd hdepth hg
      · exact .segment hg hs ih

/-- A path matches exactly when it can be cut into one block for each segment of the glob. -/
theorem matches_iff_exists_blocks (glob path : List Text) :
    Matches glob path ↔ ∃ blocks, List.Forall₂ Takes glob blocks ∧ blocks.flatten = path := by
  constructor
  · intro h
    exact h.exists_blocks
  · rintro ⟨blocks, htakes, rfl⟩
    exact matches_flatten htakes

def plain : List Text → List Text → Bool
  | [], path => path.isEmpty
  | g :: glob, path =>
    if g == anyDepth then glob.isEmpty || path.tails.any (plain glob)
    else match path with
      | [] => false
      | s :: rest => Wildcard.matchesSegment s g && plain glob rest

theorem plain_iff (glob path : List Text) : plain glob path = true ↔ Matches glob path := by
  induction glob generalizing path with
  | nil => rw [plain, List.isEmpty_iff, matches_nil_iff]
  | cons g glob ih =>
    unfold plain
    by_cases hdepth : g = anyDepth
    · subst hdepth
      rw [if_pos (beq_self_eq_true _), matches_depth_iff, Bool.or_eq_true, List.any_eq_true]
      simp only [List.mem_tails, ih]
      constructor
      · rintro (hlast | h)
        · obtain rfl : glob = [] := List.isEmpty_iff.1 hlast
          exact ⟨[], List.nil_suffix, .nil⟩
        · exact h
      · intro h
        exact .inr h
    · rw [if_neg (mt beq_iff_eq.1 hdepth)]
      cases path with
      | nil =>
        have hnot := not_matches_segment_nil hdepth glob
        simp [hnot]
      | cons s rest => rw [matches_segment_iff hdepth, Bool.and_eq_true, ih]

section Checked

def record? (table : Table) (place : Nat) (answer : Bool) : Option Table :=
  if place < table.size then some (table.setIfInBounds place (some answer)) else none

def anyRest? (visit : List Text → Table → Option (Bool × Table)) :
    List Text → Table → Option (Bool × Table)
  | [], table => visit [] table
  | s :: path, table =>
    match visit (s :: path) table with
    | none => none
    | some (found, table) => if found then some (true, table) else anyRest? visit path table

/-- Decides whether the rest of a path matches the rest of a glob, and records the answer. There is
no result as soon as a place is read or written that lies outside of the table. -/
def visit? (width : Nat) : List Text → List Text → Table → Option (Bool × Table)
  | [], path, table =>
    match table[slot width [] path]? with
    | none => none
    | some (some known) => some (known, table)
    | some none =>
      (record? table (slot width [] path) path.isEmpty).map fun table => (path.isEmpty, table)
  | g :: glob, path, table =>
    match table[slot width (g :: glob) path]? with
    | none => none
    | some (some known) => some (known, table)
    | some none =>
      let fresh :=
        if g == anyDepth then
          if glob.isEmpty then some (true, table) else anyRest? (visit? width glob) path table
        else match path with
          | [] => some (false, table)
          | s :: rest =>
            if Wildcard.matchesSegment s g then visit? width glob rest table
            else some (false, table)
      fresh.bind fun (result, table) =>
        (record? table (slot width (g :: glob) path) result).map fun table => (result, table)

end Checked

section Table

variable {glob path : List Text} {table : Table}

/-- There is a place in the table for each pair of rests. -/
theorem slot_lt {g p : List Text} (hg : g <:+ glob) (hp : p <:+ path) :
    slot (path.length + 1) g p < (glob.length + 1) * (path.length + 1) := by
  have hrow : g.length ≤ glob.length := hg.length_le
  have hcolumn : p.length < path.length + 1 := Nat.lt_succ_of_le hp.length_le
  have hrows : g.length * (path.length + 1) ≤ glob.length * (path.length + 1) :=
    Nat.mul_le_mul_right _ hrow
  rw [slot, Nat.add_mul, Nat.one_mul]
  omega

/-- Each place in the table belongs to a pair of rests. -/
theorem exists_slot_eq {i : Nat} (hi : i < (glob.length + 1) * (path.length + 1)) :
    ∃ g p, g <:+ glob ∧ p <:+ path ∧ slot (path.length + 1) g p = i := by
  have hrow : i / (path.length + 1) < glob.length + 1 :=
    Nat.div_lt_of_lt_mul (by rwa [Nat.mul_comm])
  have hcolumn : i % (path.length + 1) < path.length + 1 := Nat.mod_lt _ (Nat.succ_pos _)
  have hsum := Nat.div_add_mod' i (path.length + 1)
  generalize i / (path.length + 1) = row at hrow hsum
  generalize i % (path.length + 1) = column at hcolumn hsum
  have hg : (glob.drop (glob.length - row)).length = row := by
    rw [List.length_drop]
    omega
  have hp : (path.drop (path.length - column)).length = column := by
    rw [List.length_drop]
    omega
  refine ⟨_, _, List.drop_suffix (glob.length - row) glob,
    List.drop_suffix (path.length - column) path, ?_⟩
  rw [slot, hg, hp, hsum]

/-- The table has a place for each pair of rests, and what stands in it is the answer that the
decision without a table gives for the pair. -/
structure Sound (glob path : List Text) (table : Table) : Prop where
  size_eq : table.size = (glob.length + 1) * (path.length + 1)
  answer_eq : ∀ i answer, table[i]? = some (some answer) →
    ∃ g p, g <:+ glob ∧ p <:+ path ∧ slot (path.length + 1) g p = i ∧ answer = plain g p

theorem eq_plain_of_iff {answer : Bool} {g p : List Text} (h : answer = true ↔ Matches g p) :
    answer = plain g p := by
  rw [Bool.eq_iff_iff, h, plain_iff]

/-- Tables of true answers are sound when they have the right size. -/
theorem sound_iff : Sound glob path table ↔
    table.size = (glob.length + 1) * (path.length + 1) ∧ IsTrue glob path table := by
  constructor
  · intro h
    refine ⟨h.size_eq, fun g p answer hg hp hanswer => ?_⟩
    obtain ⟨g', p', hg', hp', hslot, rfl⟩ := h.answer_eq _ _ (Option.join_eq_some_iff.1 hanswer)
    obtain ⟨rfl, rfl⟩ := slot_inj hg' hg hp' hp hslot
    exact plain_iff g' p'
  · rintro ⟨hsize, htrue⟩
    refine ⟨hsize, fun i answer hanswer => ?_⟩
    have hi : i < table.size := (Array.getElem?_eq_some_iff.1 hanswer).1
    obtain ⟨g, p, hg, hp, rfl⟩ := exists_slot_eq (hsize ▸ hi)
    have hjoin := Option.join_eq_some_iff.2 hanswer
    exact ⟨g, p, hg, hp, rfl, eq_plain_of_iff (htrue g p answer hg hp hjoin)⟩

theorem sound_emptyTable (glob path : List Text) : Sound glob path (emptyTable glob path) :=
  sound_iff.2 ⟨Array.size_replicate, isTrue_emptyTable glob path⟩

theorem record?_eq_some {place : Nat} (h : place < table.size) (answer : Bool) :
    record? table place answer = some (table.setIfInBounds place (some answer)) :=
  if_pos h

def GoesThrough (table : Table) (checked : Option (Bool × Table)) (result : Bool × Table) : Prop :=
  checked = some result ∧ result.2.size = table.size

theorem goesThrough_anyRest {size : Nat} {decideRest : List Text → Table → Bool × Table}
    {decideRest? : List Text → Table → Option (Bool × Table)} {p : List Text}
    (hdecide : ∀ p table, p <:+ path → table.size = size →
      GoesThrough table (decideRest? p table) (decideRest p table))
    (hp : p <:+ path) (hsize : table.size = size) :
    GoesThrough table (anyRest? decideRest? p table) (anyRest decideRest p table) := by
  induction p generalizing table with
  | nil => exact hdecide [] table hp hsize
  | cons s p ih =>
    obtain ⟨hchecked, hkept⟩ := hdecide (s :: p) table hp hsize
    rw [anyRest?, hchecked, anyRest]
    by_cases hfound : (decideRest (s :: p) table).1 = true
    · simp only [hfound, if_true]
      exact ⟨rfl, hkept⟩
    · simp only [hfound]
      obtain ⟨hbehind, hkept'⟩ := ih ((List.suffix_cons s p).trans hp) (hkept.trans hsize)
      exact ⟨hbehind, hkept'.trans hkept⟩

/-- Looking up an answer, or recording it when it is new, goes through where the place lies within
the table and finding the answer goes through. -/
theorem goesThrough_lookup {place : Nat} (hplace : place < table.size)
    {fresh? : Option (Bool × Table)} {fresh : Bool × Table}
    (hfresh : GoesThrough table fresh? fresh) :
    GoesThrough table
      (match table[place]? with
        | none => none
        | some (some known) => some (known, table)
        | some none => fresh?.bind fun (result, table) =>
          (record? table place result).map fun table => (result, table))
      (match table[place]?.join with
        | some known => (known, table)
        | none => (fresh.1, fresh.2.setIfInBounds place (some fresh.1))) := by
  obtain ⟨hchecked, hkept⟩ := hfresh
  have hread : table[place]? = some table[place] := Array.getElem?_eq_getElem hplace
  cases hknown : table[place] with
  | some known =>
    rw [hread, hknown]
    exact ⟨rfl, rfl⟩
  | none =>
    have hwrite := record?_eq_some (hkept.symm ▸ hplace) fresh.1
    rw [hread, hknown, hchecked]
    constructor
    · simp only [Option.bind_some, hwrite, Option.map_some, Option.join_some]
    · simp only [Option.join_some, Array.size_setIfInBounds, hkept]

/-- Finding an answer for a rest of the glob that begins with a segment goes through when deciding
about the rest behind the segment does. -/
theorem goesThrough_fresh {size : Nat} {first : Text} {g p : List Text}
    (hdecide : ∀ p table, p <:+ path → table.size = size →
      GoesThrough table (visit? (path.length + 1) g p table) (visit (path.length + 1) g p table))
    (hsize : table.size = size) :
    p <:+ path → GoesThrough table
      (if first == anyDepth then
        if g.isEmpty then some (true, table) else anyRest? (visit? (path.length + 1) g) p table
      else match p with
        | [] => some (false, table)
        | s :: rest =>
          if Wildcard.matchesSegment s first then visit? (path.length + 1) g rest table
          else some (false, table))
      (if first == anyDepth then
        if g.isEmpty then (true, table) else anyRest (visit (path.length + 1) g) p table
      else match p with
        | [] => (false, table)
        | s :: rest =>
          if Wildcard.matchesSegment s first then visit (path.length + 1) g rest table
          else (false, table)) := by
  intro hp
  by_cases hdepth : (first == anyDepth) = true
  · rw [if_pos hdepth, if_pos hdepth]
    by_cases hlast : g.isEmpty = true
    · rw [if_pos hlast, if_pos hlast]
      exact ⟨rfl, rfl⟩
    · rw [if_neg hlast, if_neg hlast]
      exact goesThrough_anyRest hdecide hp hsize
  · rw [if_neg hdepth, if_neg hdepth]
    cases p with
    | nil => exact ⟨rfl, rfl⟩
    | cons s p =>
      by_cases hs : Wildcard.matchesSegment s first = true
      · simp only [if_pos hs]
        exact hdecide p table ((List.suffix_cons s p).trans hp) hsize
      · simp only [if_neg hs]
        exact ⟨rfl, rfl⟩

/-- Every place that the decision reads or writes lies within the table. The induction is on the
rest of the glob, with any rest of the path and any table of the right size. -/
theorem goesThrough_visit {g p : List Text} (hg : g <:+ glob) (hp : p <:+ path)
    (hsize : table.size = (glob.length + 1) * (path.length + 1)) :
    GoesThrough table (visit? (path.length + 1) g p table) (visit (path.length + 1) g p table) := by
  have hplace : slot (path.length + 1) g p < table.size := by
    rw [hsize]
    exact slot_lt hg hp
  induction g generalizing p table with
  | nil =>
    have hfresh : GoesThrough table (some (p.isEmpty, table)) (p.isEmpty, table) := ⟨rfl, rfl⟩
    exact goesThrough_lookup hplace hfresh
  | cons first g ih =>
    have hrest : g <:+ glob := (List.suffix_cons first g).trans hg
    have hdecide : ∀ q table, q <:+ path →
        table.size = (glob.length + 1) * (path.length + 1) →
        GoesThrough table (visit? (path.length + 1) g q table)
          (visit (path.length + 1) g q table) := by
      intro q table hq hsize
      exact ih hrest hq hsize (hsize ▸ slot_lt hrest hq)
    exact goesThrough_lookup hplace (goesThrough_fresh hdecide hsize hp)

/-- The step of the decision: from a sound table it goes through, answers as the decision without a
table does and leaves a sound table. -/
theorem visit?_of_sound {g p : List Text} (hg : g <:+ glob) (hp : p <:+ path)
    (hsound : Sound glob path table) :
    visit? (path.length + 1) g p table =
        some (plain g p, (visit (path.length + 1) g p table).2) ∧
      Sound glob path (visit (path.length + 1) g p table).2 := by
  obtain ⟨hsize, htrue⟩ := sound_iff.1 hsound
  obtain ⟨hchecked, hkept⟩ := goesThrough_visit hg hp hsize
  obtain ⟨hanswer, htable⟩ := isRight_visit hg hp htrue
  refine ⟨?_, sound_iff.2 ⟨hkept.trans hsize, htable⟩⟩
  rw [hchecked, ← eq_plain_of_iff hanswer]

/-- Deciding with a table is as good as deciding without one: the table is sound at the start, and
whichever pair of rests the decision comes to, and whatever sound table it has by then, it has the
places that it needs, answers as without a table and leaves a sound table. -/
structure IsTransparent (glob path : List Text) (answer : Bool) : Prop where
  start : Sound glob path (emptyTable glob path)
  step : ∀ g p table, g <:+ glob → p <:+ path → Sound glob path table →
    ∃ next, visit? (path.length + 1) g p table = some (plain g p, next) ∧ Sound glob path next
  result : ∃ table,
    visit? (path.length + 1) glob path (emptyTable glob path) = some (answer, table)

theorem isTransparent_matchesSegments (glob path : List Text) :
    IsTransparent glob path (matchesSegments glob path) where
  start := sound_emptyTable glob path
  step g p table hg hp hsound := by
    obtain ⟨hchecked, hnext⟩ := visit?_of_sound hg hp hsound
    exact ⟨_, hchecked, hnext⟩
  result := by
    have hsize := (sound_emptyTable glob path).size_eq
    exact ⟨_, (goesThrough_visit List.suffix_rfl List.suffix_rfl hsize).1⟩

end Table

/-- A glob accepts exactly the paths that can be cut into one block for each of its segments, and
the table makes no difference to that. -/
theorem accepts_iff_exists_blocks (path glob : Text) :
    (accepts path glob = true ↔ ∃ blocks,
        List.Forall₂ Takes (Path.pieces (Path.relative glob)) blocks ∧
          blocks.flatten = Path.pieces (Path.relative path)) ∧
      IsTransparent (Path.pieces (Path.relative glob)) (Path.pieces (Path.relative path))
        (accepts path glob) := by
  rw [Path.pieces_relative, Path.pieces_relative]
  constructor
  · rw [accepts_iff, matches_iff_exists_blocks]
  · exact isTransparent_matchesSegments (Path.segments glob) (Path.segments path)

/-- Two stars in the middle take two segments, and two stars at the end none. -/
example : accepts "src/a/b/x.js".toList "./src/**/*.js/**".toList = true := by decide

end Glob

end SecretScan
