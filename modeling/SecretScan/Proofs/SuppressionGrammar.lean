import Mathlib.Data.List.Forall2
import SecretScan.Proofs.CaseVariants
import SecretScan.Proofs.FindingOrigins
import SecretScan.Proofs.PatternSearch
import SecretScan.Suppression

/-!
The grammar of remarks. A remark is a pragma, or the word that asks to ignore, which a list of keys
in brackets may follow; letters count in any case. What a line silences is what its leftmost remark
says, and a line without a remark silences nothing. The proof reads the grammar off the ways of the
compiled pattern, whose words are chains of sets.
-/

namespace SecretScan

namespace Suppression

def SameLetter (letter c : Char) : Prop :=
  c = letter ∨ c ∈ Text.caseVariants letter

instance (letter c : Char) : Decidable (SameLetter letter c) :=
  inferInstanceAs (Decidable (_ ∨ _))

def Spells (word text : Text) : Prop :=
  List.Forall₂ SameLetter word text

/-- A text starts with a pragma, between the words of which any white space may stand. -/
def StartsPragma (text : Text) : Prop :=
  ∃ opening gap middle gap' closing rest,
    text = opening ++ (gap ++ (middle ++ (gap' ++ (closing ++ rest)))) ∧
    Spells "pragma:" opening ∧ gap.all Text.isWhitespace = true ∧ Spells "no" middle ∧
    gap'.all Text.isWhitespace = true ∧ Spells "keyscan" closing

def StartsIgnore (text rest : Text) : Prop :=
  ∃ word, text = word ++ rest ∧ Spells "keyscan:ignore" word

def StartsList (rest list : Text) : Prop :=
  ∃ after, rest = '[' :: (list ++ ']' :: after) ∧ ']' ∉ list ∧ '\n' ∉ list ∧ list.length ≤ 256

/-- What the remark says with which a text starts. -/
inductive Remark : Text → Suppression → Prop
  | pragma {text : Text} : StartsPragma text → Remark text .all
  | bare {text rest : Text} : StartsIgnore text rest →
      (∀ list, StartsList rest list → listedKeys list = []) → Remark text .all
  | listed {text rest list : Text} : StartsIgnore text rest → StartsList rest list →
      listedKeys list ≠ [] → Remark text (.keys (listedKeys list))

section Letters

variable {letter c : Char} {word text : Text}

theorem any_anyCase_iff {line : Text} {i : Nat} (hletter : Text.isAscii letter = true) :
    (line)[i]?.any (CharSet.anyCase letter).contains = true ↔
      ∃ c, line.drop i = c :: line.drop (i + 1) ∧ SameLetter letter c := by
  constructor
  · intro h
    obtain ⟨c, hc, hcontains⟩ := (Option.any_eq_true _ _).1 h
    exact ⟨c, Cursor.drop_of_getElem? hc, (CharSet.contains_anyCase hletter).1 hcontains⟩
  · intro ⟨c, hdrop, hc⟩
    have hget : (line)[i]? = some c := by rw [← List.head?_drop, hdrop]; rfl
    rw [hget]
    exact (CharSet.contains_anyCase hletter).2 hc

theorem spells_refl (word : Text) : Spells word word :=
  List.forall₂_same.2 fun _ _ => .inl rfl

theorem Spells.exists_append {front behind : Text} (h : Spells (front ++ behind) text) :
    ∃ front' behind', text = front' ++ behind' ∧ Spells front front' ∧ Spells behind behind' := by
  have hfront := List.forall₂_take front.length h
  have hbehind := List.forall₂_drop front.length h
  rw [List.take_left] at hfront
  rw [List.drop_left] at hbehind
  exact ⟨_, _, (List.take_append_drop _ _).symm, hfront, hbehind⟩

end Letters

section Words

open Plan

def spell (word : Text) (last : Plan) : Plan :=
  word.foldr (fun c p => .seq (.set (.anyCase c)) p) last

variable {line word spelled rest : Text} {p : Plan} {i : Nat} {w : Nat × Slots}

theorem drop_of_append {front : Text} (h : line.drop i = front ++ rest) :
    line.drop (i + front.length) = rest := by
  rw [← List.drop_drop, h, List.drop_left]

theorem ways_spell_of_spells (hword : word.all Text.isAscii = true)
    (hline : line.drop i = spelled ++ rest) (h : Spells word spelled) :
    ways line (spell word p) i = ways line p (i + spelled.length) := by
  induction h generalizing i with
  | nil => rfl
  | @cons letter c word spelled hc h ih =>
    obtain ⟨hletter, hword⟩ := (Bool.and_eq_true _ _).mp hword
    have hnext : line.drop (i + 1) = spelled ++ rest := @drop_of_append line _ i [c] hline
    have hset : (line)[i]?.any (CharSet.anyCase letter).contains = true :=
      (any_anyCase_iff hletter).2 ⟨c, by rw [hline, hnext]; rfl, hc⟩
    have hways := ih hword hnext
    rw [spell, List.foldr_cons, ways_seq_set, if_pos hset, ← spell, hways, List.length_cons,
      Nat.add_right_comm, Nat.add_assoc]

theorem exists_spells_of_mem_ways (hword : word.all Text.isAscii = true)
    (h : w ∈ ways line (spell word p) i) : ∃ spelled rest, line.drop i = spelled ++ rest ∧
      Spells word spelled ∧ w ∈ ways line p (i + spelled.length) := by
  induction word generalizing i with
  | nil => exact ⟨[], _, rfl, .nil, h⟩
  | cons letter word ih =>
    obtain ⟨hletter, hword⟩ := (Bool.and_eq_true _ _).mp hword
    rw [spell, List.foldr_cons, ways_seq_set, ← spell] at h
    split at h
    · rename_i hset
      obtain ⟨c, hdrop, hc⟩ := (any_anyCase_iff hletter).1 hset
      obtain ⟨spelled, rest, hline, hspelled, hw⟩ := ih hword h
      refine ⟨c :: spelled, rest, by rw [hdrop, hline]; rfl, .cons hc hspelled, ?_⟩
      rwa [List.length_cons, Nat.add_comm spelled.length, ← Nat.add_assoc]
    · cases h

/-- The last letter of a word has no plan behind it. -/
theorem mem_ways_word_iff {last : Char} (hword : (word ++ [last]).all Text.isAscii = true) :
    w ∈ ways line (spell word (.set (.anyCase last))) i ↔ w.2 = [] ∧ ∃ spelled rest,
      line.drop i = spelled ++ rest ∧ Spells (word ++ [last]) spelled ∧
        w.1 = i + spelled.length := by
  obtain ⟨hword, hlast⟩ : word.all Text.isAscii = true ∧ Text.isAscii last = true := by
    simpa only [List.all_append, List.all_cons, List.all_nil, Bool.and_true, Bool.and_eq_true]
      using hword
  constructor
  · intro h
    obtain ⟨spelled, rest, hline, hspelled, h⟩ := exists_spells_of_mem_ways hword h
    obtain ⟨hset, rfl⟩ := mem_ways_set_iff.1 h
    obtain ⟨c, hdrop, hc⟩ := (any_anyCase_iff hlast).1 hset
    refine ⟨rfl, spelled ++ [c], line.drop (i + spelled.length + 1), ?_,
      List.rel_append hspelled (.cons hc .nil), ?_⟩
    · rw [List.append_assoc, List.singleton_append, ← hdrop, drop_of_append hline, hline]
    · rw [List.length_append, List.length_singleton, Nat.add_assoc]
  · rintro ⟨hslots, spelled, rest, hline, hspelled, hstop⟩
    obtain ⟨front, behind, rfl, hfront, hbehind⟩ := hspelled.exists_append
    obtain ⟨c, hc, rfl⟩ : ∃ c, SameLetter last c ∧ behind = [c] := by
      cases hbehind with
      | cons hc hnil =>
        cases hnil
        exact ⟨_, hc, rfl⟩
    rw [List.append_assoc] at hline
    have hnext := drop_of_append hline
    have hset : (line)[i + front.length]?.any (CharSet.anyCase last).contains = true := by
      have hbehind : line.drop (i + front.length + 1) = rest :=
        @drop_of_append line rest _ [c] hnext
      exact (any_anyCase_iff hlast).2 ⟨c, by rw [hnext, hbehind]; rfl, hc⟩
    rw [ways_spell_of_spells hword hline hfront]
    rw [List.length_append, List.length_singleton, ← Nat.add_assoc] at hstop
    exact mem_ways_set_iff.2 ⟨hset, Prod.ext hstop hslots⟩

end Words

section Pragma

open Plan

def pragmaPlan : Plan :=
  spell "pragma:" (.seq (.span 1 .space 0 none true)
    (spell "no" (.seq (.span 2 .space 0 none true) (spell "keysca" (.set (.anyCase 'n'))))))

variable {line : Text} {p : Plan} {i : Nat} {w : Nat × Slots}

theorem mem_ways_gap_iff {place : Nat} :
    w ∈ ways line (.seq (.span place .space 0 none true) p) i ↔ ∃ gap rest,
      line.drop i = gap ++ rest ∧ gap.all Text.isWhitespace = true ∧
        w ∈ ways line p (i + gap.length) := by
  rw [mem_ways_seq_iff]
  constructor
  · intro ⟨u, hu, v, hv, hw⟩
    obtain ⟨hslots, hstops⟩ := mem_ways_span_iff.1 hu
    obtain ⟨gap, rest, hline, hgap, hstop, -⟩ := mem_stops_iff.1 hstops
    have hwv : w = v := by rw [hw, hslots, List.append_nil]
    rw [hwv]
    exact ⟨gap, rest, hline, hgap, hstop ▸ hv⟩
  · intro ⟨gap, rest, hline, hgap, hw⟩
    refine ⟨(i + gap.length, []), mem_ways_span_iff.2 ⟨rfl, mem_stops_iff.2 ?_⟩, w, hw, ?_⟩
    · exact ⟨gap, rest, hline, hgap, rfl, Nat.zero_le _, fun m hm => nomatch hm⟩
    · rw [List.append_nil]

theorem startsPragma_of_mem_ways (h : w ∈ ways line pragmaPlan i) :
    StartsPragma (line.drop i) ∧ w.2 = [] := by
  obtain ⟨opening, rest, hline, hopening, h⟩ := exists_spells_of_mem_ways (by decide) h
  obtain ⟨gap, rest', hline', hgap, h⟩ := mem_ways_gap_iff.1 h
  obtain ⟨middle, rest'', hline'', hmiddle, h⟩ := exists_spells_of_mem_ways (by decide) h
  obtain ⟨gap', rest₃, hline₃, hgap', h⟩ := mem_ways_gap_iff.1 h
  obtain ⟨hslots, closing, rest₄, hline₄, hclosing, -⟩ := (mem_ways_word_iff (by decide)).1 h
  refine ⟨⟨opening, gap, middle, gap', closing, rest₄, ?_, hopening, hgap, hmiddle, hgap',
    hclosing⟩, hslots⟩
  rw [hline, ← drop_of_append hline, hline', ← drop_of_append hline', hline'',
    ← drop_of_append hline'', hline₃, ← drop_of_append hline₃, hline₄]

theorem exists_mem_ways_of_startsPragma (h : StartsPragma (line.drop i)) :
    ∃ w, w ∈ ways line pragmaPlan i := by
  obtain ⟨opening, gap, middle, gap', closing, rest, hline, hopening, hgap, hmiddle, hgap',
    hclosing⟩ := h
  have hline' := drop_of_append hline
  have hline'' := drop_of_append hline'
  have hline₃ := drop_of_append hline''
  have hline₄ := drop_of_append hline₃
  refine ⟨(i + opening.length + gap.length + middle.length + gap'.length + closing.length, []), ?_⟩
  rw [pragmaPlan, ways_spell_of_spells (by decide) hline hopening, mem_ways_gap_iff]
  refine ⟨gap, _, hline', hgap, ?_⟩
  rw [ways_spell_of_spells (by decide) hline'' hmiddle, mem_ways_gap_iff]
  refine ⟨gap', _, hline₃, hgap', ?_⟩
  rw [mem_ways_word_iff (by decide)]
  exact ⟨rfl, closing, rest, hline₄, hclosing, rfl⟩

end Pragma

section Ignore

open Plan

def listPlan : Plan :=
  .seq (.set (.single '[')) (.seq (.capture 1 (.span 4 (.compl (.foldCase
    (.union (.single ']') (.single '\n')))) 0 (some 256) true)) (.set (.single ']')))

variable {line rest list : Text} {i : Nat} {w : Nat × Slots}

theorem any_single_iff {x : Char} : (line)[i]?.any (CharSet.single x).contains = true ↔
    line.drop i = x :: line.drop (i + 1) := by
  constructor
  · intro h
    obtain ⟨c, hc, hcontains⟩ := (Option.any_eq_true _ _).1 h
    rw [Cursor.drop_of_getElem? hc, CharSet.contains_single.1 hcontains]
  · intro hdrop
    have hget : (line)[i]? = some x := by rw [← List.head?_drop, hdrop]; rfl
    rw [hget]
    exact CharSet.contains_single.2 rfl

theorem mem_ways_single_iff {x : Char} : w ∈ ways line (.set (.single x)) i ↔
    line.drop i = x :: line.drop (i + 1) ∧ w = (i + 1, []) := by
  rw [mem_ways_set_iff, any_single_iff]

theorem contains_listSet {c : Char} : (CharSet.compl (.foldCase
    (.union (.single ']') (.single '\n')))).contains c = true ↔ c ≠ ']' ∧ c ≠ '\n' := by
  have hclose : ']' ∉ Text.caseVariants c := by
    rw [Text.mem_caseVariants_comm (by decide), show Text.caseVariants ']' = [] by decide]
    exact List.not_mem_nil
  have hnewline : '\n' ∉ Text.caseVariants c := by
    rw [Text.mem_caseVariants_comm (by decide), show Text.caseVariants '\n' = [] by decide]
    exact List.not_mem_nil
  have hvariants : (Text.caseVariants c).any
      (CharSet.union (.single ']') (.single '\n')).contains = false := by
    rw [List.any_eq_false]
    intro v hv hcontains
    rw [CharSet.contains, Bool.or_eq_true, CharSet.contains_single, CharSet.contains_single]
      at hcontains
    rcases hcontains with rfl | rfl
    · exact hclose hv
    · exact hnewline hv
  rw [CharSet.contains, CharSet.contains, hvariants, Bool.or_false, Bool.not_eq_true',
    ← Bool.not_eq_true, CharSet.contains, Bool.or_eq_true, CharSet.contains_single,
    CharSet.contains_single, not_or]

theorem all_listSet_iff : list.all (CharSet.compl (.foldCase
    (.union (.single ']') (.single '\n')))).contains = true ↔ ']' ∉ list ∧ '\n' ∉ list := by
  simp only [List.all_eq_true, contains_listSet]
  constructor
  · intro h
    exact ⟨fun hc => (h _ hc).1 rfl, fun hc => (h _ hc).2 rfl⟩
  · intro ⟨hclose, hnewline⟩ c hc
    exact ⟨fun heq => hclose (heq ▸ hc), fun heq => hnewline (heq ▸ hc)⟩

/-- The only way through a list ends behind its bracket and tells where the list stands. -/
theorem mem_ways_list_iff : w ∈ ways line listPlan i ↔ ∃ list, StartsList (line.drop i) list ∧
    w = (i + 1 + list.length + 1, [(3, i + 1 + list.length), (2, i + 1)]) := by
  rw [listPlan, mem_ways_seq_iff]
  constructor
  · rintro ⟨u, hu, v, hv, rfl⟩
    obtain ⟨hopen, rfl⟩ := mem_ways_single_iff.1 hu
    obtain ⟨group, hgroup, last, hlast, rfl⟩ := mem_ways_seq_iff.1 hv
    obtain ⟨⟨stop, slots⟩, hspan, rfl⟩ := mem_ways_capture_iff.1 hgroup
    obtain ⟨hslots, hstops⟩ := mem_ways_span_iff.1 hspan
    obtain ⟨list, rest, hline, hall, hstop, -, hmost⟩ := mem_stops_iff.1 hstops
    obtain ⟨hclosed, hnewline⟩ := all_listSet_iff.1 hall
    obtain ⟨hclose, rfl⟩ := mem_ways_single_iff.1 hlast
    simp only at hslots hstop hclose hline
    subst hslots hstop
    refine ⟨list, ⟨line.drop (i + 1 + list.length + 1), ?_, hclosed, hnewline, hmost 256 rfl⟩, rfl⟩
    rw [hopen, hline, ← drop_of_append hline, hclose]
  · rintro ⟨list, ⟨after, hline, hclosed, hnewline, hlength⟩, hw⟩
    have hinner : line.drop (i + 1) = list ++ ']' :: after := @drop_of_append line _ i ['['] hline
    have hclose := drop_of_append hinner
    have hbehind : line.drop (i + 1 + list.length + 1) = after :=
      @drop_of_append line _ _ [']'] hclose
    have hopen : (i + 1, []) ∈ ways line (.set (.single '[')) i :=
      mem_ways_single_iff.2 ⟨by rw [hline, hinner], rfl⟩
    have hlast : (i + 1 + list.length + 1, []) ∈
        ways line (.set (.single ']')) (i + 1 + list.length) :=
      mem_ways_single_iff.2 ⟨by rw [hclose, hbehind], rfl⟩
    refine ⟨_, hopen, _, mem_ways_seq_iff.2 ⟨_, mem_ways_capture_iff.2
      ⟨(i + 1 + list.length, []), mem_ways_span_iff.2 ⟨rfl, ?_⟩, rfl⟩, _, hlast, rfl⟩, hw⟩
    refine mem_stops_iff.2 ⟨list, _, hinner, all_listSet_iff.2 ⟨hclosed, hnewline⟩, rfl,
      Nat.zero_le _, fun m hm => ?_⟩
    obtain rfl := Option.some.inj hm
    exact hlength

/-- What stands in front of the first bracket that closes. -/
theorem eq_of_append_close {list' after after' : Text} (hclosed : ']' ∉ list)
    (hclosed' : ']' ∉ list') (h : list ++ ']' :: after = list' ++ ']' :: after') :
    list = list' := by
  have hread {list after : Text} (hclosed : ']' ∉ list) :
      (list ++ ']' :: after).takeWhile (fun c => decide (c ≠ ']')) = list := by
    have hall : ∀ c ∈ list, decide (c ≠ ']') = true := fun c hc =>
      decide_eq_true fun heq => hclosed (heq ▸ hc)
    rw [List.takeWhile_append_of_pos hall, List.takeWhile_cons_of_neg (by decide), List.append_nil]
  rw [← hread hclosed, h, hread hclosed']

theorem StartsList.unique {list' : Text} (h : StartsList rest list) (h' : StartsList rest list') :
    list = list' := by
  obtain ⟨after, hrest, hclosed, -⟩ := h
  obtain ⟨after', hrest', hclosed', -⟩ := h'
  exact eq_of_append_close hclosed hclosed' (List.cons.inj (hrest.symm.trans hrest')).2

theorem head?_ways_list (h : StartsList (line.drop i) list) : (ways line listPlan i).head? =
    some (i + 1 + list.length + 1, [(3, i + 1 + list.length), (2, i + 1)]) := by
  have hmem := mem_ways_list_iff.2 ⟨list, h, rfl⟩
  cases hways : ways line listPlan i with
  | nil =>
    rw [hways] at hmem
    cases hmem
  | cons w ws =>
    have hw : w ∈ ways line listPlan i := hways ▸ List.mem_cons_self
    obtain ⟨list', h', rfl⟩ := mem_ways_list_iff.1 hw
    rw [h.unique h']
    rfl

theorem ways_list_eq_nil (h : ∀ list, ¬ StartsList (line.drop i) list) :
    ways line listPlan i = [] := by
  rw [List.eq_nil_iff_forall_not_mem]
  intro w hw
  obtain ⟨list, hlist, -⟩ := mem_ways_list_iff.1 hw
  exact h list hlist

end Ignore

section Line

open Plan

def remarkPlan : Plan :=
  .seq .empty (.alt 0 pragmaPlan (spell "keyscan:ignore" (.option 3 listPlan true)))

theorem compile_remarkSource : Pattern.compile remarkSource = .ok ⟨remarkSource, 1, remarkPlan⟩ :=
  toOption_eq_some_iff.1 (by decide +kernel)

def ofList (list : Text) : Suppression :=
  match listedKeys list with
  | [] => .all
  | listed => .keys listed

def ofMatch (line : Text) (found : Match) : Suppression :=
  match found.group? 1 with
  | none => .all
  | some (start, stop) => ofList (Text.slice line start stop)

theorem ofLine?_eq (line : Text) : ofLine? line =
    ((Pattern.mk remarkSource 1 remarkPlan).matchFrom? line 0).map (ofMatch line) := by
  rw [ofLine?, remark?, compile_remarkSource]
  change (Pattern.matchFrom? _ line 0).bind _ = _
  cases (Pattern.mk remarkSource 1 remarkPlan).matchFrom? line 0 with
  | none => rfl
  | some found =>
    simp only [Option.bind_some, Option.map_some, ofMatch]
    cases found.group? 1 with
    | none => rfl
    | some bounds =>
      simp only [ofList]
      cases listedKeys (Text.slice line bounds.1 bounds.2) <;> rfl

variable {line text rest list : Text} {i : Nat} {w : Nat × Slots} {σ τ : Suppression}

theorem ways_remark (line : Text) (i : Nat) : ways line remarkPlan i =
    ways line pragmaPlan i ++ ways line (spell "keyscan:ignore" (.option 3 listPlan true)) i := by
  simp only [remarkPlan, ways, List.flatMap_cons, List.flatMap_nil, List.append_nil, List.map_id']

/-- The two kinds of remarks start with different letters. -/
theorem not_startsPragma_of_startsIgnore (h : StartsIgnore text rest) : ¬ StartsPragma text := by
  intro ⟨opening, gap, middle, gap', closing, behind, htext, hopening, _⟩
  obtain ⟨word, hword, hignore⟩ := h
  cases hopening with
  | cons hp _ =>
    cases hignore with
    | cons hk _ =>
      obtain rfl := (List.cons.inj (htext.symm.trans hword)).1
      have hnot : ('p' :: Text.caseVariants 'p').any (fun c => decide (SameLetter 'k' c)) = false := by
        decide
      exact List.any_eq_false.1 hnot _ (List.mem_cons.2 hp) (decide_eq_true hk)

theorem ways_of_startsIgnore (h : StartsIgnore (line.drop i) rest) :
    ∃ j, line.drop j = rest ∧ ways line remarkPlan i = ways line listPlan j ++ [(j, [])] := by
  have hpragma : ways line pragmaPlan i = [] := by
    rw [List.eq_nil_iff_forall_not_mem]
    intro w hw
    exact not_startsPragma_of_startsIgnore h (startsPragma_of_mem_ways hw).1
  obtain ⟨word, hline, hword⟩ := h
  refine ⟨i + word.length, drop_of_append hline, ?_⟩
  rw [ways_remark, hpragma, ways_spell_of_spells (by decide) hline hword]
  rfl

theorem ofMatch_nil (line : Text) (i stop : Nat) : ofMatch line ⟨i, stop, []⟩ = .all := rfl

/-- A match with a list says what the list says. -/
theorem ofMatch_list {stop j : Nat} (h : StartsList (line.drop j) list) :
    ofMatch line ⟨i, stop, [(3, j + 1 + list.length), (2, j + 1)]⟩ =
      ofList list := by
  obtain ⟨after, hline, -⟩ := h
  have hslice : Text.slice line (j + 1) (j + 1 + list.length) = list := by
    have hinner : line.drop (j + 1) = list ++ ']' :: after := @drop_of_append line _ j ['['] hline
    rw [Text.slice, hinner, Nat.add_sub_cancel_left, List.take_left]
  exact congrArg ofList hslice

/-- The preferred way from the start of a remark says what the remark says. A list without keys is
read, but silences the line like no list at all. -/
theorem exists_head?_of_remark (h : Remark (line.drop i) σ) :
    ∃ w, (ways line remarkPlan i).head? = some w ∧ ofMatch line ⟨i, w.1, w.2⟩ = σ := by
  generalize htext : line.drop i = text at h
  cases h with
  | pragma hpragma =>
    subst htext
    obtain ⟨u, hu⟩ := exists_mem_ways_of_startsPragma hpragma
    obtain ⟨w, ws, hways⟩ := List.exists_cons_of_ne_nil (List.ne_nil_of_mem hu)
    have hw : w ∈ ways line pragmaPlan i := hways ▸ List.mem_cons_self
    refine ⟨w, by rw [ways_remark, hways]; rfl, ?_⟩
    rw [(startsPragma_of_mem_ways hw).2, ofMatch_nil]
  | bare hignore hblank =>
    subst htext
    obtain ⟨j, rfl, hways⟩ := ways_of_startsIgnore hignore
    rw [hways, List.head?_append]
    by_cases hlist : ∃ list, StartsList (line.drop j) list
    · obtain ⟨list, hlist⟩ := hlist
      refine ⟨_, by rw [head?_ways_list hlist]; rfl, ?_⟩
      rw [ofMatch_list hlist, ofList, hblank list hlist]
    · rw [ways_list_eq_nil (not_exists.1 hlist)]
      exact ⟨_, rfl, ofMatch_nil line i j⟩
  | @listed rest list hignore hlist hkeys =>
    subst htext
    obtain ⟨j, rfl, hways⟩ := ways_of_startsIgnore hignore
    refine ⟨_, by rw [hways, List.head?_append, head?_ways_list hlist]; rfl, ?_⟩
    rw [ofMatch_list hlist, ofList]
    cases hlisted : listedKeys list with
    | nil => exact absurd hlisted hkeys
    | cons key keys => rfl

/-- The word that asks to ignore says something, whatever follows it. -/
theorem exists_remark_of_startsIgnore (h : StartsIgnore text rest) : ∃ σ, Remark text σ := by
  by_cases hlist : ∃ list, StartsList rest list ∧ listedKeys list ≠ []
  · obtain ⟨list, hlist, hkeys⟩ := hlist
    exact ⟨_, .listed h hlist hkeys⟩
  · refine ⟨_, .bare h fun list hstarts => ?_⟩
    by_contra hkeys
    exact hlist ⟨list, hstarts, hkeys⟩

theorem exists_remark_of_mem_ways (h : w ∈ ways line remarkPlan i) :
    ∃ σ, Remark (line.drop i) σ := by
  rw [ways_remark] at h
  rcases List.mem_append.1 h with h | h
  · exact ⟨_, .pragma (startsPragma_of_mem_ways h).1⟩
  · obtain ⟨word, rest, hline, hword, -⟩ := exists_spells_of_mem_ways (by decide) h
    exact exists_remark_of_startsIgnore ⟨word, hline, hword⟩

theorem remark_iff : Remark (line.drop i) σ ↔
    ∃ w, (ways line remarkPlan i).head? = some w ∧ ofMatch line ⟨i, w.1, w.2⟩ = σ := by
  refine ⟨exists_head?_of_remark, ?_⟩
  intro ⟨w, hw, hσ⟩
  obtain ⟨τ, hτ⟩ := exists_remark_of_mem_ways (List.mem_of_head? hw)
  obtain ⟨u, hu, hread⟩ := exists_head?_of_remark hτ
  obtain rfl := Option.some.inj (hu.symm.trans hw)
  rwa [← hσ, hread]

theorem ways_remark_eq_nil_iff : ways line remarkPlan i = [] ↔ ∀ σ, ¬ Remark (line.drop i) σ := by
  constructor
  · intro hnil σ h
    obtain ⟨w, hw, -⟩ := remark_iff.1 h
    rw [hnil] at hw
    cases hw
  · intro hnone
    rw [List.eq_nil_iff_forall_not_mem]
    intro w hw
    obtain ⟨σ, hσ⟩ := exists_remark_of_mem_ways hw
    exact hnone σ hσ

/-- A remark starts with the first letter of one of its words. -/
theorem Remark.exists_cons (h : Remark text σ) :
    ∃ c rest, text = c :: rest ∧ (SameLetter 'p' c ∨ SameLetter 'k' c) := by
  have hignored {rest : Text} (h : StartsIgnore text rest) :
      ∃ c rest, text = c :: rest ∧ (SameLetter 'p' c ∨ SameLetter 'k' c) := by
    obtain ⟨word, htext, hword⟩ := h
    cases hword with
    | cons hc _ => exact ⟨_, _, htext, .inr hc⟩
  cases h with
  | pragma h =>
    obtain ⟨opening, gap, middle, gap', closing, rest, htext, hopening, -⟩ := h
    cases hopening with
    | cons hc _ => exact ⟨_, _, htext, .inl hc⟩
  | bare h _ => exact hignored h
  | listed h _ _ => exact hignored h

theorem not_remark_of_head
    (h : text.head?.any (fun c => decide (SameLetter 'p' c ∨ SameLetter 'k' c)) = false) :
    ¬ Remark text σ := by
  intro hremark
  obtain ⟨c, rest, rfl, hc⟩ := hremark.exists_cons
  exact of_decide_eq_false h hc

theorem lt_length_of_remark (h : Remark (line.drop i) σ) : i < line.length := by
  obtain ⟨c, rest, hdrop, -⟩ := h.exists_cons
  by_contra hle
  rw [List.drop_eq_nil_of_le (Nat.le_of_not_lt hle)] at hdrop
  cases hdrop

/-- A text starts with one remark at most. -/
theorem Remark.unique (h : Remark text σ) (h' : Remark text τ) : σ = τ := by
  have h : Remark (text.drop 0) σ := h
  have h' : Remark (text.drop 0) τ := h'
  obtain ⟨w, hw, hσ⟩ := remark_iff.1 h
  obtain ⟨w', hw', hτ⟩ := remark_iff.1 h'
  obtain rfl := Option.some.inj (hw.symm.trans hw')
  exact hσ.symm.trans hτ

theorem isLoopFree_remarkPlan : remarkPlan.isLoopFree = true := by decide

theorem nodup_places_remarkPlan : remarkPlan.places.Nodup :=
  Pattern.nodup_places_of_compile compile_remarkSource

/-- The leftmost remark of a line is the one that counts. -/
theorem ofLine?_eq_some_iff : ofLine? line = some σ ↔
    ∃ i, Remark (line.drop i) σ ∧ ∀ j < i, ∀ τ, ¬ Remark (line.drop j) τ := by
  have hfinds {m : Match} := @Pattern.matchFrom?_eq_some_iff ⟨remarkSource, 1, remarkPlan⟩
    isLoopFree_remarkPlan nodup_places_remarkPlan line 0 m
  simp only [ofLine?_eq, Option.map_eq_some_iff, hfinds, ways_remark_eq_nil_iff]
  constructor
  · intro ⟨m, ⟨_, _, hhead, hleft⟩, hσ⟩
    exact ⟨m.start, remark_iff.2 ⟨_, hhead, hσ⟩, fun j => hleft j (Nat.zero_le j)⟩
  · intro ⟨i, hremark, hleft⟩
    obtain ⟨w, hw, hσ⟩ := remark_iff.1 hremark
    have hle : i ≤ line.length := Nat.le_of_lt (lt_length_of_remark hremark)
    exact ⟨⟨i, w.1, w.2⟩, ⟨Nat.zero_le _, hle, hw, fun j _ => hleft j⟩, hσ⟩

theorem ofLine?_eq_none_iff : ofLine? line = none ↔ ∀ i σ, ¬ Remark (line.drop i) σ := by
  have hmisses := @Pattern.matchFrom?_eq_none_iff ⟨remarkSource, 1, remarkPlan⟩
    isLoopFree_remarkPlan nodup_places_remarkPlan line 0
  simp only [ofLine?_eq, Option.map_eq_none_iff, hmisses, ways_remark_eq_nil_iff]
  constructor
  · intro h i σ hremark
    exact h i (Nat.zero_le i) (Nat.le_of_lt (lt_length_of_remark hremark)) σ hremark
  · intro h i _ _
    exact h i

example : ofLine? "key = 'x'  # Pragma: No Keyscan" = some .all := by decide +kernel

end Line

end Suppression

end SecretScan
