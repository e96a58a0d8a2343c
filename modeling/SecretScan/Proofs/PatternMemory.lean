import SecretScan.Proofs.PatternWays

/-!
Why the memory of a search does not change what it finds. A search tries the ways of a plan in order
and remembers at which positions the branching places have been entered. Since every place has a
number of its own, the same is left to match whenever a place is entered, so that entering it again
at the same position fails as it did before. Behind a round of a loop the places of its body are
entered again with something else left to match, which is why loops are left out.
-/

namespace SecretScan

namespace Entered

theorem mem_insert_iff {entered : Entered} {x y : Nat × Nat} :
    y ∈ entered.insert x ↔ y = x ∨ y ∈ entered := by
  rw [Std.TreeSet.mem_insert]
  refine or_congr ?_ Iff.rfl
  obtain ⟨a, b⟩ := x
  obtain ⟨c, d⟩ := y
  change (compare a c).then (compare b d) = .eq ↔ _
  rw [Ordering.then_eq_eq, Nat.compare_eq_eq, Nat.compare_eq_eq, Prod.mk.injEq, eq_comm,
    eq_comm (a := b)]

def AgreeOn (places : Nat → Prop) (first second : Entered) : Prop :=
  ∀ place index, places place → ((place, index) ∈ second ↔ (place, index) ∈ first)

namespace AgreeOn

variable {places : Nat → Prop} {a b c : Entered}

theorem refl (places : Nat → Prop) (a : Entered) : AgreeOn places a a :=
  fun _ _ _ => Iff.rfl

theorem trans (hab : AgreeOn places a b) (hbc : AgreeOn places b c) : AgreeOn places a c :=
  fun place index h => (hbc place index h).trans (hab place index h)

theorem mono {fewer : Nat → Prop} (h : AgreeOn places a b) (hsub : ∀ x, fewer x → places x) :
    AgreeOn fewer a b :=
  fun place index hplace => h place index (hsub place hplace)

theorem insert {place : Nat} (h : ¬ places place) (index : Nat) (a : Entered) :
    AgreeOn places a (a.insert (place, index)) := by
  intro other index' hother
  rw [mem_insert_iff]
  refine or_iff_right ?_
  intro heq
  obtain ⟨rfl, -⟩ := Prod.mk.inj heq
  exact h hother

end AgreeOn

end Entered

/-- The attempt comes to this answer; where it fails, the memory it leaves is sound, and differs
from the one it started with in entries for its own places only. -/
def Attempt.Gives (own : Nat → Prop) (sound : Entered → Prop) (entered : Entered)
    (answer : Option (Nat × Slots)) : Attempt → Prop
  | .found stop slots => answer = some (stop, slots)
  | .failed left => answer = none ∧ sound left ∧ entered.AgreeOn (fun place => ¬ own place) left

namespace Attempt

variable {own own' : Nat → Prop} {sound sound' : Entered → Prop} {entered first : Entered}
variable {answer : Option (Nat × Slots)}

/-- More places count as own ones, and the memory may have got entries for them before. -/
theorem Gives.weaken {a : Attempt} (h : a.Gives own sound first answer)
    (hown : ∀ place, own place → own' place)
    (hstart : entered.AgreeOn (fun place => ¬ own' place) first)
    (hsound : ∀ left, sound left → first.AgreeOn (fun place => ¬ own place) left → sound' left) :
    a.Gives own' sound' entered answer := by
  cases a with
  | found stop slots => exact h
  | failed left =>
    obtain ⟨hanswer, hleft, hagree⟩ := h
    exact ⟨hanswer, hsound left hleft hagree,
      hstart.trans (hagree.mono fun place => mt (hown place))⟩

/-- Where the first attempt fails, the second one starts with the memory it has left. -/
theorem Gives.orElse {a : Attempt} {b : Entered → Attempt} {other : Option (Nat × Slots)}
    (ha : a.Gives own sound entered answer)
    (hb : ∀ left, sound left → entered.AgreeOn (fun place => ¬ own place) left →
      (b left).Gives own' sound' left other) :
    (a.orElse b).Gives (fun place => own place ∨ own' place)
      (fun last => answer = none ∧ other = none ∧ sound' last ∧
        ∃ left, sound left ∧ left.AgreeOn (fun place => ¬ own' place) last)
      entered (answer.or other) := by
  cases a with
  | found stop slots =>
    have hfound : answer = some (stop, slots) := ha
    rw [hfound]
    rfl
  | failed left =>
    obtain ⟨rfl, hleft, hagree⟩ := ha
    have hsecond := hb left hleft hagree
    rw [Option.none_or, Attempt.orElse]
    cases hattempt : b left with
    | found stop slots =>
      rw [hattempt] at hsecond
      exact hsecond
    | failed last =>
      rw [hattempt] at hsecond
      obtain ⟨hnone, hlast, hagree'⟩ := hsecond
      refine ⟨hnone, ⟨rfl, hnone, hlast, left, hleft, hagree'⟩, ?_⟩
      exact (hagree.mono fun place => mt .inl).trans (hagree'.mono fun place => mt .inr)

theorem enter_of_mem {place index : Nat} {go : Entered → Attempt} (h : (place, index) ∈ entered) :
    enter place index entered go = .failed entered :=
  if_pos (Std.TreeSet.mem_iff_contains.1 h)

theorem enter_of_not_mem {place index : Nat} {go : Entered → Attempt}
    (h : (place, index) ∉ entered) :
    enter place index entered go = go (entered.insert (place, index)) :=
  if_neg (mt Std.TreeSet.mem_iff_contains.2 h)

end Attempt

/-- As long as its memory is sound, what is left to match gives this answer at each position of the
line. Whether there is one does not depend on the groups, and whether the memory is sound depends on
the entries for its own places only. -/
structure Continuation.Answers (line : Text) (own : Nat → Prop) (sound : Entered → Prop)
    (answer : Nat → Slots → Option (Nat × Slots)) (next : Continuation) : Prop where
  gives : ∀ i ≤ line.length, ∀ slots entered, sound entered →
    (next (Cursor.ofIndex line i) slots entered).Gives own sound entered (answer i slots)
  isSome_eq : ∀ i slots slots', (answer i slots).isSome = (answer i slots').isSome
  sound_of_agreeOn : ∀ first second, first.AgreeOn own second → sound first → sound second

namespace Plan

def places : Plan → List Nat
  | .empty => []
  | .set _ => []
  | .look _ => []
  | .seq a b => a.places ++ b.places
  | .alt place a b => place :: (a.places ++ b.places)
  | .capture _ a => a.places
  | .option place a _ => place :: a.places
  | .loop place a _ => place :: a.places
  | .span place _ _ _ _ => [place]

def firstAnswer (line : Text) (p : Plan) (answer : Nat → Slots → Option (Nat × Slots)) (i : Nat)
    (slots : Slots) : Option (Nat × Slots) :=
  (ways line p i).findSome? fun w => answer w.1 (w.2 ++ slots)

def Leads (answer : Nat → Slots → Option (Nat × Slots)) (i : Nat) : Prop :=
  (answer i []).isSome = true

/-- The memory is sound for the places of a plan: where one of them has been entered, nothing that
is left to match from there leads to an answer. -/
def Cleared (line : Text) : Plan → (Nat → Prop) → Entered → Prop
  | .empty, _, _ => True
  | .set _, _, _ => True
  | .look _, _, _ => True
  | .seq a b, leads, entered =>
    Cleared line a (fun i => ∃ w ∈ ways line b i, leads w.1) entered ∧ Cleared line b leads entered
  | .alt place a b, leads, entered =>
    (∀ i, (place, i) ∈ entered → ∀ w ∈ ways line (.alt place a b) i, ¬ leads w.1) ∧
      Cleared line a leads entered ∧ Cleared line b leads entered
  | .capture _ a, leads, entered => Cleared line a leads entered
  | .option place a greedy, leads, entered =>
    (∀ i, (place, i) ∈ entered → ∀ w ∈ ways line (.option place a greedy) i, ¬ leads w.1) ∧
      Cleared line a leads entered
  | .loop _ _ _, _, _ => True
  | .span place _ _ _ _, leads, entered => ∀ i, (place, i) ∈ entered → ¬ leads i

section Memory

variable {line : Text} {own : Nat → Prop} {sound : Entered → Prop}
variable {answer : Nat → Slots → Option (Nat × Slots)} {next : Continuation}

theorem cleared_of_agreeOn {p : Plan} {leads : Nat → Prop} {first second : Entered}
    (h : first.AgreeOn (· ∈ p.places) second) (hclear : p.Cleared line leads first) :
    p.Cleared line leads second := by
  induction p generalizing leads with
  | empty => trivial
  | set s => trivial
  | look l => trivial
  | seq a b iha ihb =>
    exact ⟨iha (h.mono fun x hx => List.mem_append_left _ hx) hclear.1,
      ihb (h.mono fun x hx => List.mem_append_right _ hx) hclear.2⟩
  | alt place a b iha ihb =>
    refine ⟨fun i hi => hclear.1 i ((h place i List.mem_cons_self).1 hi), ?_, ?_⟩
    · exact iha (h.mono fun x hx => List.mem_cons_of_mem _ (List.mem_append_left _ hx)) hclear.2.1
    · exact ihb (h.mono fun x hx => List.mem_cons_of_mem _ (List.mem_append_right _ hx)) hclear.2.2
  | capture index a ih => exact ih h hclear
  | option place a greedy ih =>
    exact ⟨fun i hi => hclear.1 i ((h place i List.mem_cons_self).1 hi),
      ih (h.mono fun x hx => List.mem_cons_of_mem _ hx) hclear.2⟩
  | loop place a greedy ih => trivial
  | span place s least most greedy =>
    exact fun i hi => hclear i ((h place i List.mem_cons_self).1 hi)

theorem isSome_firstAnswer (h : next.Answers line own sound answer) (p : Plan) (i : Nat)
    (slots : Slots) : (p.firstAnswer line answer i slots).isSome = true ↔
      ∃ w ∈ ways line p i, Leads answer w.1 := by
  rw [firstAnswer, List.findSome?_isSome_iff]
  refine exists_congr fun w => and_congr_right fun _ => ?_
  rw [Leads, h.isSome_eq w.1 (w.2 ++ slots) []]

theorem firstAnswer_eq_none (h : next.Answers line own sound answer) (p : Plan) (i : Nat)
    (slots : Slots) : p.firstAnswer line answer i slots = none ↔
      ∀ w ∈ ways line p i, ¬ Leads answer w.1 := by
  rw [← Option.not_isSome_iff_eq_none, isSome_firstAnswer h]
  simp only [not_exists, not_and]

theorem leads_firstAnswer (h : next.Answers line own sound answer) (p : Plan) :
    Leads (p.firstAnswer line answer) = fun i => ∃ w ∈ ways line p i, Leads answer w.1 :=
  funext fun i => propext (isSome_firstAnswer h p i [])

/-- In front of what is left to match, the plan gives the answer of the first of its ways that leads
to one, and leaves a memory that is sound for its own places as well. -/
def FindsFirst (line : Text) (own : Nat → Prop) (sound : Entered → Prop)
    (answer : Nat → Slots → Option (Nat × Slots)) (next : Continuation) (p : Plan) : Prop :=
  (p.run next).Answers line (fun place => place ∈ p.places ∨ own place)
    (fun entered => p.Cleared line (Leads answer) entered ∧ sound entered)
    (p.firstAnswer line answer)

/-- It is enough to know the answers: the rest holds of the first way that leads to an answer. -/
theorem findsFirst_of_gives (h : next.Answers line own sound answer) {p : Plan}
    (hgives : ∀ i ≤ line.length, ∀ slots entered, p.Cleared line (Leads answer) entered →
      sound entered → (p.run next (Cursor.ofIndex line i) slots entered).Gives
        (fun place => place ∈ p.places ∨ own place)
        (fun entered => p.Cleared line (Leads answer) entered ∧ sound entered) entered
        (p.firstAnswer line answer i slots)) :
    p.FindsFirst line own sound answer next where
  gives i hi slots entered hentered := hgives i hi slots entered hentered.1 hentered.2
  isSome_eq i slots slots' := by
    rw [Bool.eq_iff_iff, isSome_firstAnswer h, isSome_firstAnswer h]
  sound_of_agreeOn first second hagree hfirst :=
    ⟨cleared_of_agreeOn (hagree.mono fun _ => .inl) hfirst.1,
      h.sound_of_agreeOn first second (hagree.mono fun _ => .inr) hfirst.2⟩

section Choice

variable {place : Nat} {a b : Plan}

/-- Of two plans with places of their own, the second one is tried where the first one fails. Once
both have failed, the memory is sound for the places of both, since the entries that one of them
has made are none for the places of the other. -/
theorem gives_orElse (ha : a.FindsFirst line own sound answer next)
    (hb : b.FindsFirst line own sound answer next) (hnodup : (a.places ++ b.places).Nodup)
    (hown : ∀ x ∈ a.places ++ b.places, ¬ own x) {i : Nat} (hi : i ≤ line.length) (slots : Slots)
    {entered : Entered} (hclearA : a.Cleared line (Leads answer) entered)
    (hclearB : b.Cleared line (Leads answer) entered) (hsound : sound entered) :
    ((a.run next (Cursor.ofIndex line i) slots entered).orElse
        (b.run next (Cursor.ofIndex line i) slots)).Gives
      (fun x => x ∈ a.places ++ b.places ∨ own x)
      (fun left => (a.firstAnswer line answer i slots = none ∧
          b.firstAnswer line answer i slots = none) ∧
        (a.Cleared line (Leads answer) left ∧ b.Cleared line (Leads answer) left) ∧ sound left)
      entered ((a.firstAnswer line answer i slots).or (b.firstAnswer line answer i slots)) := by
  obtain ⟨-, -, hne⟩ := List.nodup_append.1 hnodup
  have hownA {x : Nat} (hx : x ∈ a.places) : ¬ own x := hown x (List.mem_append_left _ hx)
  have hownB {x : Nat} (hx : x ∈ b.places) : ¬ own x := hown x (List.mem_append_right _ hx)
  have hfirst := ha.gives i hi slots entered ⟨hclearA, hsound⟩
  have hsecond (left : Entered) (hleft : a.Cleared line (Leads answer) left ∧ sound left)
      (hagree : entered.AgreeOn (fun x => ¬ (x ∈ a.places ∨ own x)) left) :=
    hb.gives i hi slots left
      ⟨cleared_of_agreeOn (hagree.mono fun x hx hor =>
        hor.elim (fun hxa => hne x hxa x hx rfl) (hownB hx)) hclearB, hleft.2⟩
  refine (hfirst.orElse hsecond).weaken ?_ (.refl _ _) ?_
  · intro x hx
    rw [List.mem_append]
    exact hx.elim (Or.imp_left .inl) (Or.imp_left .inr)
  · intro last ⟨hnone, hnone', ⟨hlastB, hsoundLast⟩, left, ⟨hleftA, _⟩, hagree⟩ _
    have hlastA : a.Cleared line (Leads answer) last :=
      cleared_of_agreeOn (hagree.mono fun x hx hor =>
        hor.elim (fun hxb => hne x hx x hxb rfl) (hownA hx)) hleftA
    exact ⟨⟨hnone, hnone'⟩, ⟨hlastA, hlastB⟩, hsoundLast⟩

theorem run_alt (place : Nat) (a b : Plan) (next : Continuation) (i : Nat) (slots : Slots)
    (entered : Entered) :
    (alt place a b).run next (Cursor.ofIndex line i) slots entered =
      Attempt.enter place i entered fun entered =>
        (a.run next (Cursor.ofIndex line i) slots entered).orElse
          (b.run next (Cursor.ofIndex line i) slots) := rfl

theorem firstAnswer_alt (place : Nat) (a b : Plan) (i : Nat) (slots : Slots) :
    (alt place a b).firstAnswer line answer i slots =
      (a.firstAnswer line answer i slots).or (b.firstAnswer line answer i slots) := by
  rw [firstAnswer, ways, List.findSome?_append, firstAnswer, firstAnswer]

/-- A choice tries one plan and then the other. Once both have failed, nothing that is left to match
from its place leads to an answer. -/
theorem findsFirst_alt (h : next.Answers line own sound answer)
    (ha : a.FindsFirst line own sound answer next) (hb : b.FindsFirst line own sound answer next)
    (hnodup : (place :: (a.places ++ b.places)).Nodup)
    (hown : ∀ x ∈ place :: (a.places ++ b.places), ¬ own x) :
    (alt place a b).FindsFirst line own sound answer next := by
  obtain ⟨hplace, hnodup⟩ := List.nodup_cons.1 hnodup
  have hplaceA : place ∉ a.places := fun hmem => hplace (List.mem_append_left _ hmem)
  have hplaceB : place ∉ b.places := fun hmem => hplace (List.mem_append_right _ hmem)
  obtain ⟨hownPlace, hown⟩ := List.forall_mem_cons.1 hown
  refine findsFirst_of_gives h fun i hi slots entered hclear hsound => ?_
  by_cases hentered : (place, i) ∈ entered
  · rw [run_alt, Attempt.enter_of_mem hentered]
    exact ⟨(firstAnswer_eq_none h _ _ _).2 (hclear.1 i hentered), ⟨hclear, hsound⟩, .refl _ _⟩
  · have hboth := gives_orElse ha hb hnodup hown hi slots
      (cleared_of_agreeOn (.insert hplaceA i entered) hclear.2.1)
      (cleared_of_agreeOn (.insert hplaceB i entered) hclear.2.2)
      (h.sound_of_agreeOn _ _ (.insert hownPlace i entered) hsound)
    rw [run_alt, Attempt.enter_of_not_mem hentered, firstAnswer_alt]
    refine hboth.weaken ?_ ?_ ?_
    · exact fun x hx => hx.imp_left (List.mem_cons_of_mem _)
    · exact .insert (fun hnot => hnot (.inl List.mem_cons_self)) i entered
    · intro last ⟨⟨hnone, hnone'⟩, hlast, hsoundLast⟩ hagree
      refine ⟨⟨fun j hj w hw => ?_, hlast⟩, hsoundLast⟩
      have hentry := (hagree place j fun hor => hor.elim hplace hownPlace).1 hj
      rcases Entered.mem_insert_iff.1 hentry with heq | hold
      · obtain ⟨-, rfl⟩ := Prod.mk.inj heq
        rcases List.mem_append.1 hw with hw | hw
        · exact (firstAnswer_eq_none h a j slots).1 hnone w hw
        · exact (firstAnswer_eq_none h b j slots).1 hnone' w hw
      · exact hclear.1 j hold w hw

end Choice

/-- A run of characters tries the positions where it can stop in turn. -/
theorem gives_tryAll {place : Nat} (h : next.Answers line own sound answer) (hown : ¬ own place)
    (slots : Slots) {stops : List Nat} (hstops : ∀ i ∈ stops, i ≤ line.length)
    {entered : Entered} (hclear : ∀ i, (place, i) ∈ entered → ¬ Leads answer i)
    (hsound : sound entered) :
    (tryAll place next slots (stops.map (Cursor.ofIndex line)) entered).Gives
      (fun x => x = place ∨ own x)
      (fun entered => (∀ i, (place, i) ∈ entered → ¬ Leads answer i) ∧ sound entered) entered
      (stops.findSome? fun i => answer i slots) := by
  have hnone {i : Nat} (hi : ¬ Leads answer i) : answer i slots = none := by
    rw [Leads, h.isSome_eq i [] slots] at hi
    exact Option.not_isSome_iff_eq_none.1 hi
  induction stops generalizing entered with
  | nil => exact ⟨rfl, ⟨hclear, hsound⟩, .refl _ _⟩
  | cons i stops ih =>
    obtain ⟨hi, hrest⟩ := List.forall_mem_cons.1 hstops
    rw [List.map_cons, tryAll, List.findSome?_cons]
    by_cases hentered : (place, i) ∈ entered
    · rw [hnone (hclear i hentered)]
      rw [show (Cursor.ofIndex line i).index = i from rfl, Attempt.enter_of_mem hentered]
      exact ih hrest hclear hsound
    · rw [show (Cursor.ofIndex line i).index = i from rfl, Attempt.enter_of_not_mem hentered]
      have hfirst := h.gives i hi slots _
        (h.sound_of_agreeOn _ _ (.insert hown i entered) hsound)
      cases hattempt : next (Cursor.ofIndex line i) slots (entered.insert (place, i)) with
      | found stop found =>
        rw [hattempt] at hfirst
        have hfound : answer i slots = some (stop, found) := hfirst
        rw [hfound]
        rfl
      | failed left =>
        rw [hattempt] at hfirst
        obtain ⟨hanswer, hleft, hagree⟩ := hfirst
        rw [hanswer]
        have hclear' : ∀ j, (place, j) ∈ left → ¬ Leads answer j := by
          intro j hj
          have hentry := (hagree place j hown).1 hj
          rcases Entered.mem_insert_iff.1 hentry with heq | hold
          · obtain ⟨-, rfl⟩ := Prod.mk.inj heq
            rw [Leads, h.isSome_eq j [] slots, hanswer]
            exact Bool.false_ne_true
          · exact hclear j hold
        refine (ih hrest hclear' hleft).weaken (fun x hx => hx) ?_ fun left hleft _ => hleft
        exact Entered.AgreeOn.trans (.insert (fun hnot => hnot (.inl rfl)) i entered)
          (hagree.mono fun x hx hxown => hx (.inr hxown))

theorem firstAnswer_empty (answer : Nat → Slots → Option (Nat × Slots)) (i : Nat) (slots : Slots) :
    empty.firstAnswer line answer i slots = answer i slots := by
  rw [firstAnswer, ways, List.findSome?_singleton, List.nil_append]

theorem findsFirst_empty (h : next.Answers line own sound answer) :
    empty.FindsFirst line own sound answer next := by
  refine findsFirst_of_gives h fun i hi slots entered _ hsound => ?_
  rw [firstAnswer_empty]
  exact (h.gives i hi slots entered hsound).weaken (fun _ => .inr) (.refl _ _)
    fun left hleft _ => ⟨trivial, hleft⟩

theorem findsFirst_set (h : next.Answers line own sound answer) (s : CharSet) :
    (set s).FindsFirst line own sound answer next := by
  refine findsFirst_of_gives h fun i hi slots entered _ hsound => ?_
  cases hx : (line)[i]? with
  | none =>
    have hrun : (set s).run next (Cursor.ofIndex line i) slots entered = .failed entered := by
      have hrest : line.drop i = [] := List.drop_eq_nil_of_le (List.getElem?_eq_none_iff.1 hx)
      simp only [run, Cursor.ofIndex, hrest]
    rw [hrun, firstAnswer, ways, hx]
    exact ⟨rfl, ⟨trivial, hsound⟩, .refl _ _⟩
  | some x =>
    obtain ⟨hlt, -⟩ := List.getElem?_eq_some_iff.1 hx
    have hrun : (set s).run next (Cursor.ofIndex line i) slots entered =
        if s.contains x then next (Cursor.ofIndex line (i + 1)) slots entered
        else .failed entered := by
      rw [Cursor.ofIndex_succ hx]
      simp only [run, Cursor.ofIndex, Cursor.drop_of_getElem? hx]
    rw [hrun, firstAnswer, ways, hx, Option.any_some]
    split
    · rw [List.findSome?_singleton, List.nil_append]
      exact (h.gives (i + 1) hlt slots entered hsound).weaken (fun _ => .inr) (.refl _ _)
        fun left hleft _ => ⟨trivial, hleft⟩
    · exact ⟨rfl, ⟨trivial, hsound⟩, .refl _ _⟩

theorem findsFirst_look (h : next.Answers line own sound answer) (l : Look) :
    (look l).FindsFirst line own sound answer next := by
  refine findsFirst_of_gives h fun i hi slots entered _ hsound => ?_
  have hrun : (look l).run next (Cursor.ofIndex line i) slots entered =
      if l.holds (line.take i).getLast? (line)[i]? then next (Cursor.ofIndex line i) slots entered
      else .failed entered := by
    rw [← List.head?_drop]
    rfl
  rw [hrun, firstAnswer, ways]
  split
  · rw [List.findSome?_singleton, List.nil_append]
    exact (h.gives i hi slots entered hsound).weaken (fun _ => .inr) (.refl _ _)
      fun left hleft _ => ⟨trivial, hleft⟩
  · exact ⟨rfl, ⟨trivial, hsound⟩, .refl _ _⟩

theorem findSome?_flatMap {α β γ : Type} (l : List α) (f : α → List β) (g : β → Option γ) :
    (l.flatMap f).findSome? g = l.findSome? fun x => (f x).findSome? g := by
  induction l with
  | nil => rfl
  | cons x l ih =>
    rw [List.flatMap_cons, List.findSome?_append, ih, List.findSome?_cons]
    cases (f x).findSome? g <;> rfl

/-- Behind the first plan of two, the second one gives the answers. -/
theorem firstAnswer_seq (a b : Plan) (i : Nat) (slots : Slots) :
    (seq a b).firstAnswer line answer i slots =
      a.firstAnswer line (b.firstAnswer line answer) i slots := by
  simp only [firstAnswer, ways, findSome?_flatMap, List.findSome?_map, Function.comp_def,
    List.append_assoc]

/-- A sequence finds the first way of the first plan behind which the second one leads to an
answer. -/
theorem findsFirst_seq {a b : Plan} (h : next.Answers line own sound answer)
    (ha : a.FindsFirst line (fun place => place ∈ b.places ∨ own place)
      (fun entered => b.Cleared line (Leads answer) entered ∧ sound entered)
      (b.firstAnswer line answer) (b.run next)) :
    (seq a b).FindsFirst line own sound answer next := by
  refine findsFirst_of_gives h fun i hi slots entered hclear hsound => ?_
  rw [FindsFirst, leads_firstAnswer h] at ha
  rw [firstAnswer_seq]
  refine (ha.gives i hi slots entered ⟨hclear.1, hclear.2, hsound⟩).weaken ?_ (.refl _ _) ?_
  · intro x hx
    rw [places, List.mem_append]
    exact or_assoc.2 hx
  · intro left hleft _
    exact ⟨⟨hleft.1, hleft.2.1⟩, hleft.2.2⟩

/-- What is left to match behind the body of a group gets the group closed. -/
theorem answers_close (h : next.Answers line own sound answer) (index : Nat) :
    Continuation.Answers line own sound (fun i slots => answer i ((2 * index + 1, i) :: slots))
      (fun c slots => next c ((2 * index + 1, c.index) :: slots)) where
  gives i hi _ := h.gives i hi _
  isSome_eq i _ _ := h.isSome_eq i _ _
  sound_of_agreeOn := h.sound_of_agreeOn

theorem leads_close (h : next.Answers line own sound answer) (index : Nat) :
    Leads (fun i slots => answer i ((2 * index + 1, i) :: slots)) = Leads answer :=
  funext fun i => congrArg (· = true) (h.isSome_eq i _ _)

theorem firstAnswer_capture (index : Nat) (a : Plan) (i : Nat) (slots : Slots) :
    (capture index a).firstAnswer line answer i slots =
      a.firstAnswer line (fun i slots => answer i ((2 * index + 1, i) :: slots)) i
        ((2 * index, i) :: slots) := by
  simp only [firstAnswer, ways, List.findSome?_map, Function.comp_def, List.cons_append,
    List.append_assoc, List.nil_append]

theorem findsFirst_capture {a : Plan} {index : Nat} (h : next.Answers line own sound answer)
    (ha : a.FindsFirst line own sound (fun i slots => answer i ((2 * index + 1, i) :: slots))
      (fun c slots => next c ((2 * index + 1, c.index) :: slots))) :
    (capture index a).FindsFirst line own sound answer next := by
  refine findsFirst_of_gives h fun i hi slots entered hclear hsound => ?_
  rw [FindsFirst, leads_close h] at ha
  rw [firstAnswer_capture]
  exact ha.gives i hi _ entered ⟨hclear, hsound⟩

/-- An option is a choice between its body and nothing. -/
theorem findsFirst_option {place : Nat} {a : Plan} (h : next.Answers line own sound answer)
    (ha : a.FindsFirst line own sound answer next) (hnodup : (place :: a.places).Nodup)
    (hown : ∀ x ∈ place :: a.places, ¬ own x) (greedy : Bool) :
    (option place a greedy).FindsFirst line own sound answer next := by
  refine findsFirst_of_gives h fun i hi slots entered hclear hsound => ?_
  cases greedy with
  | true =>
    have hplaces : place :: (a.places ++ empty.places) = place :: a.places := by
      rw [places, List.append_nil]
    have halt := findsFirst_alt h ha (findsFirst_empty h) (hplaces ▸ hnodup) (hplaces ▸ hown)
    have hgives := halt.gives i hi slots entered ⟨⟨hclear.1, hclear.2, trivial⟩, hsound⟩
    refine hgives.weaken (fun x hx => ?_) (.refl _ _) fun left hleft _ =>
      ⟨⟨hleft.1.1, hleft.1.2.1⟩, hleft.2⟩
    rwa [places, hplaces] at hx
  | false =>
    have halt := findsFirst_alt h (findsFirst_empty h) ha hnodup hown
    have hgives := halt.gives i hi slots entered ⟨⟨hclear.1, trivial, hclear.2⟩, hsound⟩
    exact hgives.weaken (fun _ => id) (.refl _ _) fun left hleft _ =>
      ⟨⟨hleft.1.1, hleft.1.2.2⟩, hleft.2⟩

/-- The positions where a run of characters can stop, in the order in which they are tried. -/
theorem run_span (place : Nat) (s : CharSet) (least : Nat) (most : Option Nat) (greedy : Bool)
    (next : Continuation) (i : Nat) (slots : Slots) (entered : Entered) :
    (span place s least most greedy).run next (Cursor.ofIndex line i) slots entered =
      tryAll place next slots ((if greedy then (stops line s least most i).reverse
        else stops line s least most i).map (Cursor.ofIndex line)) entered := by
  have hreach := @reach_eq line s least most i
  simp only [run, Cursor.ofIndex] at hreach ⊢
  rw [hreach]
  cases greedy
  · rfl
  · simp only [if_true, List.map_reverse]

theorem findsFirst_span {place : Nat} (h : next.Answers line own sound answer)
    (hown : ¬ own place) (s : CharSet) (least : Nat) (most : Option Nat) (greedy : Bool) :
    (span place s least most greedy).FindsFirst line own sound answer next := by
  refine findsFirst_of_gives h fun i hi slots entered hclear hsound => ?_
  have hstops : ∀ j ∈ (if greedy then (stops line s least most i).reverse
      else stops line s least most i), j ≤ line.length := by
    intro j hj
    cases greedy with
    | true => exact stops_le hi j (List.mem_reverse.1 hj)
    | false => exact stops_le hi j hj
  have hgives := gives_tryAll h hown slots hstops hclear hsound
  rw [run_span, firstAnswer, ways, List.findSome?_map]
  exact hgives.weaken (fun x hx => hx.imp_left List.mem_singleton.2) (.refl _ _)
    fun left hleft _ => hleft

/-- Running a loop-free plan gives the first way that leads to an answer, and leaves a memory that
is sound for its own places as well; the induction is on the plan, whatever is left to match. -/
theorem findsFirst_run {p : Plan} (hfree : p.isLoopFree = true) (hnodup : p.places.Nodup)
    (hown : ∀ x ∈ p.places, ¬ own x) (h : next.Answers line own sound answer) :
    p.FindsFirst line own sound answer next := by
  induction p generalizing own sound answer next with
  | empty => exact findsFirst_empty h
  | set s => exact findsFirst_set h s
  | look l => exact findsFirst_look h l
  | seq a b iha ihb =>
    obtain ⟨hfreeA, hfreeB⟩ := (Bool.and_eq_true _ _).mp hfree
    obtain ⟨hnodupA, hnodupB, hne⟩ := List.nodup_append.1 hnodup
    obtain ⟨hownA, hownB⟩ := List.forall_mem_append.1 hown
    refine findsFirst_seq h (iha hfreeA hnodupA ?_ (ihb hfreeB hnodupB hownB h))
    exact fun x hx hor => hor.elim (fun hxb => hne x hx x hxb rfl) (hownA x hx)
  | alt place a b iha ihb =>
    obtain ⟨hfreeA, hfreeB⟩ := (Bool.and_eq_true _ _).mp hfree
    obtain ⟨hnodupA, hnodupB, -⟩ := List.nodup_append.1 (List.nodup_cons.1 hnodup).2
    obtain ⟨hownA, hownB⟩ := List.forall_mem_append.1 (List.forall_mem_cons.1 hown).2
    exact findsFirst_alt h (iha hfreeA hnodupA hownA h) (ihb hfreeB hnodupB hownB h) hnodup hown
  | capture index a ih => exact findsFirst_capture h (ih hfree hnodup hown (answers_close h index))
  | option place a greedy ih =>
    have ha := ih hfree (List.nodup_cons.1 hnodup).2 (List.forall_mem_cons.1 hown).2 h
    exact findsFirst_option h ha hnodup hown greedy
  | loop place a greedy ih => cases hfree
  | span place s least most greedy =>
    exact findsFirst_span h (hown place List.mem_cons_self) s least most greedy

theorem cleared_of_not_mem {p : Plan} {leads : Nat → Prop} {entered : Entered}
    (h : ∀ x, x ∉ entered) : p.Cleared line leads entered := by
  induction p generalizing leads with
  | empty => trivial
  | set s => trivial
  | look l => trivial
  | seq a b iha ihb => exact ⟨iha, ihb⟩
  | alt place a b iha ihb => exact ⟨fun i hi => absurd hi (h _), iha, ihb⟩
  | capture index a ih => exact ih
  | option place a greedy ih => exact ⟨fun i hi => absurd hi (h _), ih⟩
  | loop place a greedy ih => trivial
  | span place s least most greedy => exact fun i hi => absurd hi (h _)

end Memory

end Plan

end SecretScan
