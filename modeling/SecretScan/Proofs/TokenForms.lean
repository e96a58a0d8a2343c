import SecretScan.Proofs.PatternWays

/-!
Plans that read a token. The form of a token is one of several openings with characters of a set
behind it, whose number lies within bounds. Where a plan has a form, it takes exactly the texts of
this form, whatever stands around them. A token of word characters that a plan delimits by word
boundaries on both sides is found in a plan of its own shape.
-/

namespace SecretScan

structure TokenForm where
  openings : List Text
  letters : CharSet
  least : Nat
  most : Nat
deriving DecidableEq

def CharSet.isWordSet : CharSet → Bool
  | .none => true
  | .word => true
  | .range first last => (List.range' first.toNat (last.toNat + 1 - first.toNat)).all fun n =>
      Text.isWordChar (Char.ofNat n)
  | .union a b => a.isWordSet && b.isWordSet
  | _ => false

theorem CharSet.isWordChar_of_isWordSet {s : CharSet} (hs : s.isWordSet = true) {c : Char}
    (hc : s.contains c = true) : Text.isWordChar c = true := by
  induction s with
  | none => cases hc
  | word => exact hc
  | range first last =>
    rw [contains, Bool.and_eq_true, decide_eq_true_eq, decide_eq_true_eq] at hc
    have hfirst : first.toNat ≤ c.toNat := hc.1
    have hlast : c.toNat ≤ last.toNat := hc.2
    have hword := List.all_eq_true.1 hs c.toNat (List.mem_range'_1.2 ⟨hfirst, by omega⟩)
    rwa [Char.ofNat_toNat] at hword
  | union a b iha ihb =>
    rw [isWordSet, Bool.and_eq_true] at hs
    rw [contains, Bool.or_eq_true] at hc
    exact hc.elim (iha hs.1) (ihb hs.2)
  | _ => cases hs

/-- Only one character lies in a range that starts and stops with it. -/
theorem CharSet.any_contains_range_iff {c : Char} {next : Option Char} :
    next.any (CharSet.range c c).contains = true ↔ next = some c := by
  rw [Option.any_eq_true]
  constructor
  · rintro ⟨d, hd, hcontains⟩
    rw [contains, Bool.and_eq_true, decide_eq_true_eq, decide_eq_true_eq] at hcontains
    rw [hd, Char.le_antisymm hcontains.2 hcontains.1]
  · rintro rfl
    exact ⟨c, rfl, by simp [contains]⟩

namespace TokenForm

variable {form : TokenForm} {text : Text}

def Fits (form : TokenForm) (text : Text) : Prop :=
  ∃ opening ∈ form.openings, ∃ body, text = opening ++ body ∧
    body.all form.letters.contains = true ∧ form.least ≤ body.length ∧ body.length ≤ form.most

theorem fits_iff : form.Fits text ↔ ∃ opening ∈ form.openings, opening <+: text ∧
    (text.drop opening.length).all form.letters.contains = true ∧
      form.least ≤ (text.drop opening.length).length ∧
      (text.drop opening.length).length ≤ form.most := by
  constructor
  · rintro ⟨opening, hopening, body, rfl, hbody⟩
    refine ⟨opening, hopening, List.prefix_append opening body, ?_⟩
    rw [List.drop_left]
    exact hbody
  · rintro ⟨opening, hopening, ⟨body, rfl⟩, hbody⟩
    rw [List.drop_left] at hbody
    exact ⟨opening, hopening, body, rfl, hbody⟩

instance (form : TokenForm) (text : Text) : Decidable (form.Fits text) :=
  decidable_of_iff' _ fits_iff

def isWord (form : TokenForm) : Bool :=
  0 < form.least && form.letters.isWordSet && form.openings.all (·.all Text.isWordChar)

theorem Fits.ne_nil (hform : form.isWord = true) (h : form.Fits text) : text ≠ [] := by
  obtain ⟨opening, -, body, rfl, -, hleast, -⟩ := h
  have hpos : 0 < form.least := by
    simp only [isWord, Bool.and_eq_true, decide_eq_true_eq] at hform
    exact hform.1.1
  refine List.append_ne_nil_of_right_ne_nil opening (List.ne_nil_of_length_pos ?_)
  omega

theorem Fits.isWordChar (hform : form.isWord = true) (h : form.Fits text) {c : Char}
    (hc : c ∈ text) : Text.isWordChar c = true := by
  obtain ⟨opening, hopening, body, rfl, hbody, -⟩ := h
  simp only [isWord, Bool.and_eq_true, List.all_eq_true] at hform
  rcases List.mem_append.1 hc with hc | hc
  · exact hform.2 opening hopening c hc
  · exact CharSet.isWordChar_of_isWordSet hform.1.2 (List.all_eq_true.1 hbody c hc)

end TokenForm

namespace Plan

/-- The plan takes the texts that have a property, whatever stands around them, and adds no groups.
-/
def Reads (p : Plan) (texts : Text → Prop) : Prop :=
  ∀ line i w, w ∈ ways line p i ↔ w.2 = [] ∧ ∃ text rest, line.drop i = text ++ rest ∧ texts text ∧
    w.1 = i + text.length

namespace Reads

variable {a b : Plan} {first second : Text → Prop}

theorem congr {p : Plan} {texts other : Text → Prop} (h : p.Reads texts)
    (heq : ∀ text, other text ↔ texts text) : p.Reads other := by
  have hsame : other = texts := funext fun text => propext (heq text)
  rwa [hsame]

theorem empty : Plan.empty.Reads (· = []) := by
  intro line i w
  rw [ways, List.mem_singleton]
  constructor
  · rintro rfl
    exact ⟨rfl, [], line.drop i, rfl, rfl, rfl⟩
  · rintro ⟨hslots, text, rest, -, rfl, hstop⟩
    exact Prod.ext hstop hslots

theorem set (c : Char) : (Plan.set (.range c c)).Reads (· = [c]) := by
  intro line i w
  rw [mem_ways_set_iff]
  rw [CharSet.any_contains_range_iff]
  constructor
  · rintro ⟨hc, rfl⟩
    exact ⟨rfl, [c], line.drop (i + 1), Cursor.drop_of_getElem? hc, rfl, rfl⟩
  · rintro ⟨hslots, text, rest, hdrop, rfl, hstop⟩
    refine ⟨?_, Prod.ext hstop hslots⟩
    rw [← List.head?_drop, hdrop]
    rfl

theorem seq (ha : a.Reads first) (hb : b.Reads second) :
    (Plan.seq a b).Reads fun text => ∃ u v, text = u ++ v ∧ first u ∧ second v := by
  intro line i w
  rw [mem_ways_seq_iff]
  constructor
  · rintro ⟨⟨j, slots⟩, hj, ⟨k, slots'⟩, hk, rfl⟩
    obtain ⟨rfl, u, rest, hu, hfirst, rfl⟩ := (ha line i _).1 hj
    obtain ⟨rfl, v, rest', hv, hsecond, rfl⟩ := (hb line _ _).1 hk
    have hrest : rest = v ++ rest' := by
      rw [← hv, ← List.drop_drop, hu, List.drop_left]
    refine ⟨rfl, u ++ v, rest', ?_, ⟨u, v, rfl, hfirst, hsecond⟩, ?_⟩
    · rw [hu, hrest, List.append_assoc]
    · rw [List.length_append, Nat.add_assoc]
  · rintro ⟨hslots, text, rest, htext, ⟨u, v, rfl, hfirst, hsecond⟩, hstop⟩
    rw [List.append_assoc] at htext
    rw [List.length_append, ← Nat.add_assoc] at hstop
    have hrest : line.drop (i + u.length) = v ++ rest := by
      rw [← List.drop_drop, htext, List.drop_left]
    refine ⟨(i + u.length, []), ?_, (i + u.length + v.length, []), ?_, Prod.ext hstop hslots⟩
    · exact (ha line i _).2 ⟨rfl, u, v ++ rest, htext, hfirst, rfl⟩
    · exact (hb line _ _).2 ⟨rfl, v, rest, hrest, hsecond, rfl⟩

theorem alt (ha : a.Reads first) (hb : b.Reads second) (place : Nat) :
    (Plan.alt place a b).Reads fun text => first text ∨ second text := by
  intro line i w
  rw [ways, List.mem_append, ha line i w, hb line i w]
  constructor
  · rintro (⟨hslots, text, rest, htext, hfirst, hstop⟩ |
      ⟨hslots, text, rest, htext, hsecond, hstop⟩)
    · exact ⟨hslots, text, rest, htext, .inl hfirst, hstop⟩
    · exact ⟨hslots, text, rest, htext, .inr hsecond, hstop⟩
  · rintro ⟨hslots, text, rest, htext, hfirst | hsecond, hstop⟩
    · exact .inl ⟨hslots, text, rest, htext, hfirst, hstop⟩
    · exact .inr ⟨hslots, text, rest, htext, hsecond, hstop⟩

theorem span (place : Nat) (s : CharSet) (least most : Nat) (greedy : Bool) :
    (Plan.span place s least (some most) greedy).Reads fun text =>
      text.all s.contains = true ∧ least ≤ text.length ∧ text.length ≤ most := by
  intro line i w
  rw [mem_ways_span_iff, mem_stops_iff]
  simp only [Option.mem_def, Option.some.injEq, forall_eq']
  constructor
  · rintro ⟨hslots, text, rest, htext, hall, hstop, hlength⟩
    exact ⟨hslots, text, rest, htext, ⟨hall, hlength⟩, hstop⟩
  · rintro ⟨hslots, text, rest, htext, ⟨hall, hlength⟩, hstop⟩
    exact ⟨hslots, text, rest, htext, hall, hstop, hlength⟩

end Reads

def words? : Plan → Option (List Text)
  | .empty => some [[]]
  | .set (.range first last) => if first = last then some [[first]] else none
  | .seq a b => a.words?.bind fun us => b.words?.map fun vs => us.flatMap fun u => vs.map (u ++ ·)
  | .alt _ a b => a.words?.bind fun us => b.words?.map (us ++ ·)
  | _ => none

theorem reads_words {p : Plan} {words : List Text} (h : p.words? = some words) :
    p.Reads (· ∈ words) := by
  induction p generalizing words with
  | empty =>
    obtain rfl := Option.some.inj h
    exact Reads.empty.congr fun text => List.mem_singleton
  | set s =>
    cases s with
    | range first last =>
      rw [words?] at h
      split at h
      · rename_i heq
        subst heq
        obtain rfl := Option.some.inj h
        exact (Reads.set first).congr fun text => List.mem_singleton
      · cases h
    | _ => cases h
  | seq a b iha ihb =>
    obtain ⟨us, ha, vs, hb, rfl⟩ : ∃ us, a.words? = some us ∧ ∃ vs, b.words? = some vs ∧
        (us.flatMap fun u => vs.map (u ++ ·)) = words := by
      simpa [words?, Option.bind_eq_some_iff] using h
    refine ((iha ha).seq (ihb hb)).congr fun text => ?_
    simp only [List.mem_flatMap, List.mem_map]
    constructor
    · rintro ⟨u, hu, v, hv, rfl⟩
      exact ⟨u, v, rfl, hu, hv⟩
    · rintro ⟨u, v, rfl, hu, hv⟩
      exact ⟨u, hu, v, hv, rfl⟩
  | alt place a b iha ihb =>
    obtain ⟨us, ha, vs, hb, rfl⟩ : ∃ us, a.words? = some us ∧ ∃ vs, b.words? = some vs ∧
        us ++ vs = words := by
      simpa [words?, Option.bind_eq_some_iff] using h
    exact ((iha ha).alt (ihb hb) place).congr fun text => List.mem_append
  | _ => cases h

def form? : Plan → Option TokenForm
  | .seq a b => a.words?.bind fun us => b.form?.map fun form =>
      { form with openings := us.flatMap fun u => form.openings.map (u ++ ·) }
  | .span _ s least (some most) _ => some ⟨[[]], s, least, most⟩
  | _ => none

theorem reads_form {p : Plan} {form : TokenForm} (h : p.form? = some form) : p.Reads form.Fits := by
  induction p generalizing form with
  | seq a b iha ihb =>
    obtain ⟨us, ha, tail, hb, rfl⟩ : ∃ us, a.words? = some us ∧ ∃ tail, b.form? = some tail ∧
        { tail with openings := us.flatMap fun u => tail.openings.map (u ++ ·) } = form := by
      simpa [form?, Option.bind_eq_some_iff] using h
    refine ((reads_words ha).seq (ihb hb)).congr fun text => ?_
    simp only [TokenForm.Fits, List.mem_flatMap, List.mem_map]
    constructor
    · rintro ⟨_, ⟨u, hu, opening, hopening, rfl⟩, body, rfl, hbody⟩
      exact ⟨u, opening ++ body, List.append_assoc u opening body, hu, opening, hopening, body, rfl,
        hbody⟩
    · rintro ⟨u, _, rfl, hu, opening, hopening, body, rfl, hbody⟩
      exact ⟨u ++ opening, ⟨u, hu, opening, hopening, rfl⟩, body,
        (List.append_assoc u opening body).symm, hbody⟩
  | span place s least most greedy =>
    cases most with
    | none => cases h
    | some most =>
      obtain rfl := Option.some.inj h
      refine (Reads.span place s least most greedy).congr fun text => ?_
      simp only [TokenForm.Fits, List.mem_singleton, exists_eq_left, List.nil_append,
        exists_eq_left']
  | _ => cases h

def wordForm? : Plan → Option TokenForm
  | .seq (.look (.boundary false)) (.seq (.capture 1 a) (.look (.boundary false))) => a.form?
  | _ => none

theorem eq_of_wordForm? {p : Plan} {form : TokenForm} (h : p.wordForm? = some form) :
    ∃ a, p = .seq (.look (.boundary false)) (.seq (.capture 1 a) (.look (.boundary false))) ∧
      a.Reads form.Fits := by
  unfold wordForm? at h
  split at h
  · exact ⟨_, rfl, reads_form h⟩
  · cases h

end Plan

end SecretScan
