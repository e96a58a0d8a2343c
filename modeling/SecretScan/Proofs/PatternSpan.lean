import SecretScan.Pattern.Basic

/-!
Where the matches of a pattern lie. A search hands on to what is left to match a position further
on in the line, and groups that start and end between the two positions. So a match starts at or
after the position from which it was searched and ends in the line, and its groups lie inside it.
Nothing is assumed about the numbers of the branching places: they only ever cut a search short.
-/

namespace SecretScan

def Cursor.Reaches (c d : Cursor) : Prop :=
  ∃ passed, c.rest = passed ++ d.rest ∧ d.index = c.index + passed.length

namespace Cursor

theorem Reaches.refl (c : Cursor) : c.Reaches c :=
  ⟨[], rfl, rfl⟩

theorem Reaches.trans {c d e : Cursor} (hcd : c.Reaches d) (hde : d.Reaches e) : c.Reaches e := by
  obtain ⟨first, hcrest, hdindex⟩ := hcd
  obtain ⟨second, hdrest, heindex⟩ := hde
  refine ⟨first ++ second, ?_, ?_⟩
  · rw [hcrest, hdrest, List.append_assoc]
  · rw [heindex, hdindex, List.length_append, Nat.add_assoc]

theorem Reaches.index_le {c d : Cursor} (h : c.Reaches d) : c.index ≤ d.index := by
  obtain ⟨passed, -, hindex⟩ := h
  omega

theorem reaches_next {index : Nat} {before : Option Char} {x : Char} {rest : Text} :
    (Cursor.mk index before (x :: rest)).Reaches ⟨index + 1, some x, rest⟩ :=
  ⟨[x], rfl, rfl⟩

/-- What stands before a position and what stands behind it make up the line. -/
theorem Reaches.index_add_length {c d : Cursor} (h : c.Reaches d) :
    d.index + d.rest.length = c.index + c.rest.length := by
  obtain ⟨passed, hrest, hindex⟩ := h
  rw [hrest, hindex, List.length_append]
  omega

theorem reaches_forward (n : Nat) (c : Cursor) : c.Reaches (c.forward n) := by
  induction n generalizing c with
  | zero => exact .refl c
  | succ n ih =>
    obtain ⟨index, before, rest⟩ := c
    cases rest with
    | nil => exact .refl _
    | cons x rest => exact reaches_next.trans (ih _)

theorem forward_index (n : Nat) {c : Cursor} (h : n ≤ c.rest.length) :
    (c.forward n).index = c.index + n := by
  induction n generalizing c with
  | zero => rfl
  | succ n ih =>
    obtain ⟨index, before, rest⟩ := c
    cases rest with
    | nil => simp at h
    | cons x rest =>
      have hn : n ≤ rest.length := by simpa using h
      rw [forward, ih hn]
      simp only
      omega

end Cursor

/-- Every group that has started has also ended, and lies between two positions. -/
def Slots.Closed (first last : Nat) (slots : Slots) : Prop :=
  ∀ i, (slots.lookup (2 * i) = none ∧ slots.lookup (2 * i + 1) = none) ∨
    ∃ start stop, slots.lookup (2 * i) = some start ∧ slots.lookup (2 * i + 1) = some stop ∧
      first ≤ start ∧ start ≤ stop ∧ stop ≤ last

namespace Slots

theorem closed_nil (first last : Nat) : Closed first last [] :=
  fun _ => .inl ⟨rfl, rfl⟩

theorem Closed.append {first middle last : Nat} {early late : Slots}
    (hearly : Closed first middle early) (hlate : Closed middle last late)
    (hfirst : first ≤ middle) (hlast : middle ≤ last) : Closed first last (late ++ early) := by
  intro i
  rw [List.lookup_append, List.lookup_append]
  rcases hlate i with ⟨hstart, hstop⟩ | ⟨start, stop, hstart, hstop, hbounds⟩
  · rw [hstart, hstop, Option.none_or, Option.none_or]
    rcases hearly i with hnone | ⟨start, stop, hstart, hstop, hbounds⟩
    · exact .inl hnone
    · exact .inr ⟨start, stop, hstart, hstop, by omega⟩
  · have hstart' : ((late.lookup (2 * i)).or (early.lookup (2 * i))) = some start := by
      rw [hstart, Option.some_or]
    have hstop' : ((late.lookup (2 * i + 1)).or (early.lookup (2 * i + 1))) = some stop := by
      rw [hstop, Option.some_or]
    exact .inr ⟨start, stop, hstart', hstop', by omega⟩

/-- A group is entered around what its body captures. -/
theorem Closed.capture {first last : Nat} {slots : Slots} (h : Closed first last slots)
    (hle : first ≤ last) (index : Nat) :
    Closed first last ((2 * index + 1, last) :: slots ++ [(2 * index, first)]) := by
  intro i
  have hodd : (2 * i == 2 * index + 1) = false := beq_false_of_ne (by omega)
  have heven : (2 * i + 1 == 2 * index) = false := beq_false_of_ne (by omega)
  simp only [List.cons_append, List.lookup_cons, List.lookup_append, List.lookup_nil, hodd, heven]
  by_cases hi : i = index
  · subst hi
    refine .inr ?_
    rcases h i with ⟨hstart, -⟩ | ⟨start, stop, hstart, hstop, hbounds⟩
    · exact ⟨first, last, by simp [hstart], by simp, by omega⟩
    · exact ⟨start, last, by simp [hstart], by simp, by omega⟩
  · have hstart : (2 * i == 2 * index) = false := beq_false_of_ne (by omega)
    have hstop : (2 * i + 1 == 2 * index + 1) = false := beq_false_of_ne (by omega)
    simpa only [hstart, hstop, Option.or_none] using h i

end Slots

namespace Attempt

theorem orElse_eq_found {a : Attempt} {b : Entered → Attempt} {stop : Nat} {slots : Slots}
    (h : a.orElse b = .found stop slots) :
    a = .found stop slots ∨ ∃ entered, b entered = .found stop slots := by
  cases a with
  | found _ _ => exact .inl h
  | failed entered => exact .inr ⟨entered, h⟩

theorem enter_eq_found {place index : Nat} {entered : Entered} {go : Entered → Attempt}
    {stop : Nat} {slots : Slots} (h : enter place index entered go = .found stop slots) :
    ∃ entered, go entered = .found stop slots := by
  unfold enter at h
  split at h
  · cases h
  · exact ⟨_, h⟩

end Attempt

namespace Plan

/-- Whatever is found behind a step is found from a position further on, with groups added that
lie between the two positions. -/
def Advances (step : Continuation → Continuation) : Prop :=
  ∀ (next : Continuation) (c : Cursor) (slots : Slots) (entered : Entered) (stop : Nat)
    (found : Slots), step next c slots entered = .found stop found →
    ∃ d taken entered, c.Reaches d ∧ Slots.Closed c.index d.index taken ∧
      next d (taken ++ slots) entered = .found stop found

namespace Advances

/-- A step that hands on the position as it is. -/
theorem here : Advances fun next => next :=
  fun _ c _ entered _ _ h => ⟨c, [], entered, .refl c, Slots.closed_nil _ _, h⟩

/-- Two steps in a row. -/
theorem seq {a b : Continuation → Continuation} (ha : Advances a) (hb : Advances b) :
    Advances fun next => a (b next) := by
  intro next c slots entered stop found h
  obtain ⟨d, taken, entered, hcd, hclosed, h⟩ := ha _ _ _ _ _ _ h
  obtain ⟨e, taken', entered, hde, hclosed', h⟩ := hb _ _ _ _ _ _ h
  refine ⟨e, taken' ++ taken, entered, hcd.trans hde,
    hclosed.append hclosed' hcd.index_le hde.index_le, ?_⟩
  rw [List.append_assoc]
  exact h

/-- A place where one step is tried and then another. -/
theorem choice {a b : Continuation → Continuation} (ha : Advances a) (hb : Advances b)
    (place : Nat) :
    Advances fun next c slots entered => Attempt.enter place c.index entered fun entered =>
      (a next c slots entered).orElse (b next c slots) := by
  intro next c slots entered stop found h
  obtain ⟨entered, h⟩ := Attempt.enter_eq_found h
  rcases Attempt.orElse_eq_found h with h | ⟨entered, h⟩
  · exact ha _ _ _ _ _ _ h
  · exact hb _ _ _ _ _ _ h

/-- A place where a step may be taken or left out. -/
theorem option {a : Continuation → Continuation} (ha : Advances a) (place : Nat) (greedy : Bool) :
    Advances fun next c slots entered => Attempt.enter place c.index entered fun entered =>
      if greedy then (a next c slots entered).orElse (next c slots)
      else (next c slots entered).orElse (a next c slots) := by
  cases greedy with
  | true => exact ha.choice here place
  | false => exact here.choice ha place

/-- A round, and behind it either the rounds that are left or the way out. -/
theorem rounds {body : Continuation → Continuation} (hbody : Advances body) (place : Nat)
    (greedy : Bool) (fuel : Nat) :
    Advances fun next => Plan.rounds place body greedy next fuel := by
  induction fuel with
  | zero =>
    intro next c slots entered stop found h
    cases h
  | succ fuel ih => exact hbody.seq (ih.option place greedy)

end Advances

theorem reaches_of_mem_reach {s : CharSet} {least : Nat} {most : Option Nat} {before : Option Char}
    {index : Nat} {rest : Text} {d : Cursor} (h : d ∈ reach s least most before index rest) :
    (Cursor.mk index before rest).Reaches d := by
  induction rest generalizing least most before index with
  | nil =>
    simp only [reach] at h
    split at h
    · obtain rfl := List.mem_singleton.1 h
      exact .refl _
    · cases h
  | cons x rest ih =>
    have hhere (hd : d ∈ if least == 0 then [Cursor.mk index before (x :: rest)] else []) :
        (Cursor.mk index before (x :: rest)).Reaches d := by
      split at hd
      · obtain rfl := List.mem_singleton.1 hd
        exact .refl _
      · cases hd
    simp only [reach] at h
    split at h
    · rcases List.mem_append.1 h with h | h
      · exact hhere h
      · exact Cursor.reaches_next.trans (ih h)
    · exact hhere h

theorem tryAll_eq_found {place : Nat} {next : Continuation} {slots : Slots} {cs : List Cursor}
    {entered : Entered} {stop : Nat} {found : Slots}
    (h : tryAll place next slots cs entered = .found stop found) :
    ∃ d ∈ cs, ∃ entered, next d slots entered = .found stop found := by
  induction cs generalizing entered with
  | nil => cases h
  | cons c cs ih =>
    rcases Attempt.orElse_eq_found h with h | ⟨entered, h⟩
    · obtain ⟨entered, h⟩ := Attempt.enter_eq_found h
      exact ⟨c, List.mem_cons_self, entered, h⟩
    · obtain ⟨d, hd, h⟩ := ih h
      exact ⟨d, List.mem_cons_of_mem c hd, h⟩

/-- Every plan advances; the induction is on the plan, with any continuation behind it. -/
theorem advances_run (p : Plan) : Advances p.run := by
  induction p with
  | empty => exact Advances.here
  | set s =>
    rintro next ⟨index, before, rest⟩ slots entered stop found h
    cases rest with
    | nil => cases h
    | cons x rest =>
      simp only [run] at h
      split at h
      · exact ⟨_, [], entered, Cursor.reaches_next, Slots.closed_nil _ _, h⟩
      · cases h
  | look l =>
    intro next c slots entered stop found h
    simp only [run] at h
    split at h
    · exact Advances.here _ _ _ _ _ _ h
    · cases h
  | seq a b iha ihb => exact iha.seq ihb
  | alt place a b iha ihb => exact iha.choice ihb place
  | capture index a ih =>
    intro next c slots entered stop found h
    obtain ⟨d, taken, entered, hcd, hclosed, h⟩ := ih _ _ _ _ _ _ h
    refine ⟨d, _, entered, hcd, hclosed.capture hcd.index_le index, ?_⟩
    simpa only [List.cons_append, List.append_assoc, List.nil_append] using h
  | option place a greedy ih => exact ih.option place greedy
  | loop place a greedy ih =>
    intro next c slots entered stop found h
    exact ih.rounds place greedy (c.rest.length + 2) _ _ _ _ _ _ h
  | span place s least most greedy =>
    intro next c slots entered stop found h
    obtain ⟨d, hd, entered, h⟩ := tryAll_eq_found h
    have hd : d ∈ reach s least most c.before c.index c.rest := by
      split at hd
      · exact List.mem_reverse.1 hd
      · exact hd
    exact ⟨d, [], entered, reaches_of_mem_reach hd, Slots.closed_nil _ _, h⟩

/-- What is found at a position ends further on. -/
theorem run_eq_found {p : Plan} {c : Cursor} {entered : Entered} {stop : Nat} {slots : Slots}
    (h : p.run (fun d slots _ => .found d.index slots) c [] entered = .found stop slots) :
    ∃ d, c.Reaches d ∧ d.index = stop ∧ slots.Closed c.index stop := by
  obtain ⟨d, taken, entered, hcd, hclosed, h⟩ := p.advances_run _ _ _ _ _ _ h
  simp only [List.append_nil, Attempt.found.injEq] at h
  obtain ⟨rfl, rfl⟩ := h
  exact ⟨d, hcd, rfl, hclosed⟩

theorem searchFrom_eq_some {p : Plan} {fuel : Nat} {c : Cursor} {entered : Entered}
    {start stop : Nat} {slots : Slots}
    (h : p.searchFrom fuel c entered = some (start, stop, slots)) :
    ∃ d e, c.Reaches d ∧ d.index = start ∧ d.Reaches e ∧ e.index = stop ∧
      slots.Closed start stop := by
  fun_induction searchFrom p fuel c entered with
  | case1 fuel c entered stop slots hrun =>
    simp only [Option.some.injEq, Prod.mk.injEq] at h
    obtain ⟨rfl, rfl, rfl⟩ := h
    obtain ⟨e, hce, hstop, hclosed⟩ := run_eq_found hrun
    exact ⟨c, e, .refl c, rfl, hce, hstop, hclosed⟩
  | case2 => cases h
  | case3 => cases h
  | case4 c entered left _ fuel x rest hrest ih =>
    obtain ⟨index, before, _⟩ := c
    obtain rfl := hrest
    obtain ⟨d, e, hcd, hfound⟩ := ih h
    exact ⟨d, e, Cursor.reaches_next.trans hcd, hfound⟩

end Plan

/-- What a search for matches in a line owes: the match starts at or after the position and lies in
the line, and its first group, if it took part, lies in the match. -/
structure Match.InLine (search : Nat → Option Match) (length : Nat) : Prop where
  le_start : ∀ position m, search position = some m → position ≤ m.start
  start_le_stop : ∀ position m, search position = some m → m.start ≤ m.stop
  stop_le : ∀ position m, search position = some m → m.stop ≤ length
  group : ∀ position m, search position = some m → ∀ start stop, m.group? 1 = some (start, stop) →
    m.start ≤ start ∧ start ≤ stop ∧ stop ≤ m.stop

namespace Pattern

/-- The search for the matches of a pattern keeps to the line. -/
theorem inLine_matchFrom? (p : Pattern) (line : Text) :
    Match.InLine (p.matchFrom? line) line.length := by
  have hspan (position : Nat) (m : Match) (h : p.matchFrom? line position = some m) :
      position ≤ m.start ∧ m.start ≤ m.stop ∧ m.stop ≤ line.length ∧
        m.slots.Closed m.start m.stop := by
    unfold matchFrom? at h
    split at h
    · cases h
    · rename_i hposition
      obtain ⟨⟨start, stop, slots⟩, hsearch, rfl⟩ := Option.map_eq_some_iff.1 h
      obtain ⟨d, e, hcd, rfl, hde, rfl, hclosed⟩ := Plan.searchFrom_eq_some hsearch
      have hindex : ((Cursor.start line).forward position).index = 0 + position :=
        Cursor.forward_index position (Nat.le_of_not_lt hposition)
      have hlength : e.index + e.rest.length = 0 + line.length :=
        ((Cursor.reaches_forward position (Cursor.start line)).trans
          (hcd.trans hde)).index_add_length
      have hstart := hcd.index_le
      refine ⟨?_, hde.index_le, ?_, hclosed⟩
      · change position ≤ d.index
        omega
      · change e.index ≤ line.length
        omega
  refine ⟨fun position m h => (hspan position m h).1, fun position m h => (hspan position m h).2.1,
    fun position m h => (hspan position m h).2.2.1, fun position m h start stop hgroup => ?_⟩
  rcases (hspan position m h).2.2.2 1 with ⟨hstart, hstop⟩ | ⟨a, b, hstart, hstop, hbounds⟩
  · simp [Match.group?, hstart] at hgroup
  · simp only [Match.group?, hstart, hstop, Option.some.injEq, Prod.mk.injEq] at hgroup
    obtain ⟨rfl, rfl⟩ := hgroup
    exact hbounds

end Pattern

end SecretScan
