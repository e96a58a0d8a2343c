import Mathlib.Data.List.Forall2
import Mathlib.Data.List.Infix
import SecretScan.Selection.Wildcard

/-!
The language of wildcards. A text fits a pattern when it can be cut into one piece for each
character of the pattern: any piece for a star, one character for a question mark, and for every
other character itself. A stretch without stars can be left where it fits first, since the star
behind it reaches every later place as well. That is why matching by stretches decides the language,
and also why a loop decides it that comes back to no star but the last one.
-/

namespace SecretScan.Wildcard

def Takes (p : Char) (piece : Text) : Prop :=
  if p = '*' then True else if p = '?' then ∃ c, piece = [c] else piece = [p]

def Fits (pattern text : Text) : Prop :=
  ∃ pieces, List.Forall₂ Takes pattern pieces ∧ pieces.flatten = text

def Stands (p c : Char) : Prop :=
  p ≠ '*' ∧ (p = '?' ∨ p = c)

theorem takes_iff_of_ne {p : Char} (hp : p ≠ '*') (piece : Text) :
    Takes p piece ↔ ∃ c, piece = [c] ∧ Stands p c := by
  rw [Takes, if_neg hp]
  by_cases hany : p = '?'
  · rw [if_pos hany]
    exact exists_congr fun c => ⟨fun h => ⟨h, hp, .inl hany⟩, And.left⟩
  · rw [if_neg hany]
    constructor
    · rintro rfl
      exact ⟨p, rfl, hp, .inr rfl⟩
    · rintro ⟨c, rfl, -, hc⟩
      rw [hc.resolve_left hany]

@[simp] theorem fits_nil (text : Text) : Fits [] text ↔ text = [] := by
  constructor
  · rintro ⟨pieces, hpieces, rfl⟩
    cases hpieces
    rfl
  · rintro rfl
    exact ⟨[], .nil, rfl⟩

theorem fits_star (pattern text : Text) :
    Fits ('*' :: pattern) text ↔ ∃ rest, rest <:+ text ∧ Fits pattern rest := by
  constructor
  · rintro ⟨_, hpieces, rfl⟩
    cases hpieces with
    | @cons _ piece _ pieces _ hrest =>
      exact ⟨pieces.flatten, List.suffix_append piece _, pieces, hrest, rfl⟩
  · rintro ⟨_, ⟨piece, rfl⟩, pieces, hpieces, rfl⟩
    exact ⟨piece :: pieces, .cons trivial hpieces, rfl⟩

/-- A star takes nothing or at least the first character. -/
theorem fits_star_cons (pattern : Text) (c : Char) (text : Text) :
    Fits ('*' :: pattern) (c :: text) ↔ Fits pattern (c :: text) ∨ Fits ('*' :: pattern) text := by
  simp only [fits_star, List.suffix_cons_iff, or_and_right, exists_or, exists_eq_left]

theorem fits_cons_of_ne {p : Char} (hp : p ≠ '*') (pattern text : Text) :
    Fits (p :: pattern) text ↔ ∃ c rest, text = c :: rest ∧ Stands p c ∧ Fits pattern rest := by
  constructor
  · rintro ⟨_, hpieces, rfl⟩
    cases hpieces with
    | @cons _ piece _ pieces htakes hrest =>
      obtain ⟨c, rfl, hc⟩ := (takes_iff_of_ne hp piece).1 htakes
      exact ⟨c, pieces.flatten, rfl, hc, pieces, hrest, rfl⟩
  · rintro ⟨c, _, rfl, hc, pieces, hpieces, rfl⟩
    exact ⟨[c] :: pieces, .cons ((takes_iff_of_ne hp [c]).2 ⟨c, rfl, hc⟩) hpieces, rfl⟩

/-- At the end of a text only stars are left of what fits. -/
theorem fits_end (pattern : Text) : Fits pattern [] ↔ pattern.all (· == '*') = true := by
  induction pattern with
  | nil => simp
  | cons p pattern ih =>
    rw [List.all_cons, Bool.and_eq_true, beq_iff_eq]
    by_cases hp : p = '*'
    · subst hp
      rw [fits_star]
      simp only [List.suffix_nil, exists_eq_left, ih, true_and]
    · rw [fits_cons_of_ne hp]
      simp [hp]

section Stretch

abbrev Aligned (taken read : Text) : Prop :=
  List.Forall₂ Stands taken read

variable {taken read pattern text behind : Text}

theorem Aligned.fits_append (h : Aligned taken read) (hrest : Fits pattern text) :
    Fits (taken ++ pattern) (read ++ text) := by
  induction h with
  | nil => exact hrest
  | @cons p c taken read hc _ ih => exact (fits_cons_of_ne hc.1 _ _).2 ⟨c, _, rfl, hc, ih⟩

/-- Behind a stretch, whatever fits begins with text that the stretch stands for. -/
theorem Aligned.exists_of_fits_append (h : Aligned taken read)
    (hfits : Fits (taken ++ pattern) text) :
    ∃ first rest, text = first ++ rest ∧ Aligned taken first ∧ Fits pattern rest := by
  induction h generalizing text with
  | nil => exact ⟨[], text, rfl, .nil, hfits⟩
  | @cons p _ taken _ hc _ ih =>
    obtain ⟨c, rest, rfl, hstands, hrest⟩ := (fits_cons_of_ne hc.1 _ _).1 hfits
    obtain ⟨first, rest, rfl, halign, hfits⟩ := ih hrest
    exact ⟨c :: first, rest, rfl, .cons hstands halign, hfits⟩

theorem Aligned.fits_append_iff (h : Aligned taken read) :
    Fits (taken ++ pattern) (read ++ text) ↔ Fits pattern text := by
  refine ⟨fun hfits => ?_, h.fits_append⟩
  obtain ⟨first, rest, heq, halign, hrest⟩ := h.exists_of_fits_append hfits
  have hlength : read.length = first.length := h.length_eq.symm.trans halign.length_eq
  obtain ⟨-, rfl⟩ := List.append_inj heq hlength
  exact hrest

/-- A later place of a stretch leaves no more of the text than the first one does. -/
theorem Aligned.exists_suffix (h : Aligned taken read) {place : Text}
    (hplace : place <:+ read ++ text) (hfits : Fits (taken ++ pattern) place) :
    ∃ rest, rest <:+ text ∧ Fits pattern rest := by
  obtain ⟨first, rest, rfl, halign, hrest⟩ := h.exists_of_fits_append hfits
  refine ⟨rest, ?_, hrest⟩
  have hlength := hplace.length_le
  have htaken := h.length_eq
  have hfirst := halign.length_eq
  simp only [List.length_append] at hlength
  refine List.suffix_of_suffix_length_le ((List.suffix_append first rest).trans hplace)
    (List.suffix_append read text) ?_
  omega

/-- The star in front of a stretch need not be tried again once the stretch fits and the next star
is reached. -/
theorem Aligned.fits_star_iff (h : Aligned taken read) :
    Fits ('*' :: (taken ++ '*' :: behind)) (read ++ text) ↔ Fits ('*' :: behind) text := by
  constructor
  · intro hfits
    obtain ⟨place, hplace, hfits⟩ := (fits_star _ _).1 hfits
    obtain ⟨rest, hrest, hfits⟩ := h.exists_suffix hplace hfits
    obtain ⟨last, hlast, hfits⟩ := (fits_star _ _).1 hfits
    exact (fits_star _ _).2 ⟨last, hlast.trans hrest, hfits⟩
  · intro hfits
    exact (fits_star _ _).2 ⟨read ++ text, List.suffix_rfl, h.fits_append hfits⟩

theorem stands_iff {p c : Char} (hp : p ≠ '*') : Stands p c ↔ (p == '?' || p == c) = true := by
  rw [Bool.or_eq_true, beq_iff_eq, beq_iff_eq, Stands]
  exact and_iff_right hp

theorem stretch_star (pattern text : Text) :
    stretch ('*' :: pattern) text = .star pattern text := by
  cases text <;> rfl

theorem stretch_nil_of_ne {p : Char} (hp : p ≠ '*') (pattern : Text) :
    stretch (p :: pattern) [] = .fails := by
  rw [stretch, if_neg (mt beq_iff_eq.1 hp)]

theorem stretch_cons_of_ne {p : Char} (hp : p ≠ '*') (pattern : Text) (c : Char) (text : Text) :
    stretch (p :: pattern) (c :: text) =
      if p == '?' || p == c then stretch pattern text else .fails := by
  rw [stretch, if_neg (mt beq_iff_eq.1 hp)]

theorem aligned_of_stretch_eq_fits (h : stretch pattern text = .fits) : Aligned pattern text := by
  induction pattern generalizing text with
  | nil =>
    cases text with
    | nil => exact .nil
    | cons c text => cases h
  | cons p pattern ih =>
    by_cases hp : p = '*'
    · rw [hp, stretch_star] at h
      cases h
    · cases text with
      | nil => rw [stretch_nil_of_ne hp] at h; cases h
      | cons c text =>
        rw [stretch_cons_of_ne hp] at h
        split at h
        · rename_i hc
          exact .cons ((stands_iff hp).2 hc) (ih h)
        · cases h

theorem exists_aligned_of_stretch_eq_star {rest : Text}
    (h : stretch pattern text = .star behind rest) :
    ∃ taken read, pattern = taken ++ '*' :: behind ∧ text = read ++ rest ∧ Aligned taken read := by
  induction pattern generalizing text with
  | nil => cases text <;> cases h
  | cons p pattern ih =>
    by_cases hp : p = '*'
    · rw [hp, stretch_star] at h
      obtain ⟨rfl, rfl⟩ := Stretch.star.inj h
      exact ⟨[], [], by rw [hp]; rfl, rfl, .nil⟩
    · cases text with
      | nil => rw [stretch_nil_of_ne hp] at h; cases h
      | cons c text =>
        rw [stretch_cons_of_ne hp] at h
        split at h
        · rename_i hc
          obtain ⟨taken, read, rfl, rfl, halign⟩ := ih h
          exact ⟨p :: taken, c :: read, rfl, rfl, .cons ((stands_iff hp).2 hc) halign⟩
        · cases h

theorem not_fits_of_stretch_eq_fails (h : stretch pattern text = .fails) : ¬ Fits pattern text := by
  induction pattern generalizing text with
  | nil =>
    cases text with
    | nil => cases h
    | cons c text => simp
  | cons p pattern ih =>
    by_cases hp : p = '*'
    · rw [hp, stretch_star] at h
      cases h
    · rw [fits_cons_of_ne hp]
      rintro ⟨c, text, rfl, hc, hfits⟩
      rw [stretch_cons_of_ne hp, if_pos ((stands_iff hp).1 hc)] at h
      exact ih h hfits

/-- Behind a star, the leftmost place of a stretch decides: at the end of the pattern it settles the
question, and at the next star the question is about what is left there. -/
theorem fits_star_iff_firstStretch (pattern text : Text) :
    match firstStretch pattern text with
    | .fits => Fits ('*' :: pattern) text
    | .star behind rest => (Fits ('*' :: pattern) text ↔ Fits ('*' :: behind) rest) ∧
        behind.length < pattern.length
    | .fails => ¬ Fits ('*' :: pattern) text := by
  have hfits {text : Text} (h : stretch pattern text = .fits) : Fits ('*' :: pattern) text := by
    have haligned := (aligned_of_stretch_eq_fits h).fits_append ((fits_nil []).2 rfl)
    rw [List.append_nil, List.append_nil] at haligned
    exact (fits_star _ _).2 ⟨text, List.suffix_rfl, haligned⟩
  have hstar {text behind rest : Text} (h : stretch pattern text = .star behind rest) :
      (Fits ('*' :: pattern) text ↔ Fits ('*' :: behind) rest) ∧
        behind.length < pattern.length := by
    obtain ⟨taken, read, rfl, rfl, haligned⟩ := exists_aligned_of_stretch_eq_star h
    refine ⟨haligned.fits_star_iff, ?_⟩
    simp only [List.length_append, List.length_cons]
    omega
  induction text with
  | nil =>
    unfold firstStretch
    cases h : stretch pattern [] with
    | fits => exact hfits h
    | star behind rest => exact hstar h
    | fails =>
      rw [fits_star]
      simpa only [List.suffix_nil, exists_eq_left] using not_fits_of_stretch_eq_fails h
  | cons c text ih =>
    unfold firstStretch
    cases h : stretch pattern (c :: text) with
    | fits => exact hfits h
    | star behind rest => exact hstar h
    | fails =>
      have hskip : Fits ('*' :: pattern) (c :: text) ↔ Fits ('*' :: pattern) text := by
        rw [fits_star_cons]
        exact or_iff_right (not_fits_of_stretch_eq_fails h)
      simp only [hskip]
      exact ih

/-- The bound on the stars is never reached: a pattern has at most as many as it has characters. -/
theorem matchesAfterStar_iff {stars : Nat} (hstars : pattern.length < stars) :
    matchesAfterStar stars pattern text = true ↔ Fits ('*' :: pattern) text := by
  induction stars generalizing pattern text with
  | zero => exact absurd hstars (Nat.not_lt_zero _)
  | succ stars ih =>
    have hfirst := fits_star_iff_firstStretch pattern text
    unfold matchesAfterStar
    cases h : firstStretch pattern text with
    | fits => simpa [h] using hfirst
    | star behind rest =>
      simp only [h] at hfirst ⊢
      rw [hfirst.1, ih (by omega)]
    | fails => simpa [h] using hfirst

theorem matchesSegment_iff (text pattern : Text) :
    matchesSegment text pattern = true ↔ Fits pattern text := by
  unfold matchesSegment
  cases h : stretch pattern text with
  | fits =>
    have haligned := (aligned_of_stretch_eq_fits h).fits_append ((fits_nil []).2 rfl)
    rw [List.append_nil, List.append_nil] at haligned
    exact iff_of_true rfl haligned
  | star behind rest =>
    obtain ⟨taken, read, rfl, rfl, haligned⟩ := exists_aligned_of_stretch_eq_star h
    have hlength : behind.length < (taken ++ '*' :: behind).length := by
      simp only [List.length_append, List.length_cons]
      omega
    simp only
    rw [matchesAfterStar_iff hlength, haligned.fits_append_iff]
  | fails => exact iff_of_false Bool.false_ne_true (not_fits_of_stretch_eq_fails h)

end Stretch

/-- Where the loop stands: what is left of the pattern and of the text and, once a star is passed,
the pattern behind the last star and the text from the place where the piece of this star ends. -/
structure Place where
  pattern : Text
  text : Text
  resume : Option (Text × Text)

namespace Place

def retry : Option (Text × Text) → Place ⊕ Bool
  | some (behind, absorbed) => .inl ⟨behind, absorbed.tail, some (behind, absorbed.tail)⟩
  | none => .inr false

def next : Place → Place ⊕ Bool
  | ⟨pattern, [], _⟩ => .inr (pattern.all (· == '*'))
  | ⟨[], _ :: _, resume⟩ => retry resume
  | ⟨p :: pattern, c :: text, resume⟩ =>
    if p == '*' then .inl ⟨pattern, c :: text, some (pattern, c :: text)⟩
    else if p == '?' || p == c then .inl ⟨pattern, text, resume⟩
    else retry resume

inductive Ends : Place → Bool → Prop
  | answer {place : Place} {answer : Bool} (h : place.next = .inr answer) : Ends place answer
  | round {place following : Place} {answer : Bool} (h : place.next = .inl following)
      (hrest : Ends following answer) : Ends place answer

/-- What the pattern has between the last star and the place stands for what the text has between
the piece of this star and the place. -/
def Held (place : Place) : Prop :=
  ∀ behind absorbed, place.resume = some (behind, absorbed) →
    ∃ taken read, behind = taken ++ place.pattern ∧ absorbed = read ++ place.text ∧
      Aligned taken read

/-- What the loop has to find out at a place: with a star behind it the question is whether the star
can take more, and earlier stars do not matter. -/
def Open (place : Place) : Prop :=
  match place.resume with
  | none => Fits place.pattern place.text
  | some (behind, absorbed) => Fits ('*' :: behind) absorbed

variable {place following : Place} {answer : Bool}

/-- A round passes a star, passes a character, or goes back to the last star. -/
theorem of_next_eq_inl (h : place.next = .inl following) :
    (∃ behind, place.pattern = '*' :: behind ∧
      following = ⟨behind, place.text, some (behind, place.text)⟩) ∨
    (∃ p c pattern text, place.pattern = p :: pattern ∧ place.text = c :: text ∧ Stands p c ∧
      following = ⟨pattern, text, place.resume⟩) ∨
    (∃ behind absorbed, place.resume = some (behind, absorbed) ∧ place.text ≠ [] ∧
      ¬ Fits place.pattern place.text ∧
      following = ⟨behind, absorbed.tail, some (behind, absorbed.tail)⟩) := by
  obtain ⟨pattern, text, resume⟩ := place
  have hretry (htext : text ≠ []) (hnot : ¬ Fits pattern text) (h : retry resume = .inl following) :
      ∃ behind absorbed, resume = some (behind, absorbed) ∧ text ≠ [] ∧ ¬ Fits pattern text ∧
        following = ⟨behind, absorbed.tail, some (behind, absorbed.tail)⟩ := by
    cases resume with
    | none => cases h
    | some resume => exact ⟨resume.1, resume.2, rfl, htext, hnot, (Sum.inl.inj h).symm⟩
  cases text with
  | nil => cases h
  | cons c text =>
    cases pattern with
    | nil => exact .inr (.inr (hretry (List.cons_ne_nil c text) (by simp) h))
    | cons p pattern =>
      simp only [next] at h
      split at h
      · rename_i hp
        exact .inl ⟨pattern, by rw [eq_of_beq hp], (Sum.inl.inj h).symm⟩
      · rename_i hp
        have hp : p ≠ '*' := mt beq_iff_eq.2 hp
        split at h
        · rename_i hc
          exact .inr (.inl ⟨p, c, pattern, text, rfl, rfl, (stands_iff hp).2 hc,
            (Sum.inl.inj h).symm⟩)
        · rename_i hc
          refine .inr (.inr (hretry (List.cons_ne_nil c text) ?_ h))
          rw [fits_cons_of_ne hp]
          rintro ⟨_, _, heq, hstands, -⟩
          obtain ⟨rfl, rfl⟩ := List.cons.inj heq
          exact hc ((stands_iff hp).1 hstands)

/-- The loop answers at the end of the text, or where nothing fits and there is no star to go back
to. -/
theorem of_next_eq_inr (h : place.next = .inr answer) :
    (place.text = [] ∧ answer = place.pattern.all (· == '*')) ∨
      (place.resume = none ∧ ¬ Fits place.pattern place.text ∧ answer = false) := by
  obtain ⟨pattern, text, resume⟩ := place
  have hretry (h : retry resume = .inr answer) : resume = none ∧ answer = false := by
    cases resume with
    | none => exact ⟨rfl, (Sum.inr.inj h).symm⟩
    | some resume => cases h
  cases text with
  | nil => exact .inl ⟨rfl, (Sum.inr.inj h).symm⟩
  | cons c text =>
    cases pattern with
    | nil => exact .inr ⟨(hretry h).1, by simp, (hretry h).2⟩
    | cons p pattern =>
      simp only [next] at h
      split at h
      · cases h
      · rename_i hp
        have hp : p ≠ '*' := mt beq_iff_eq.2 hp
        split at h
        · cases h
        · rename_i hc
          refine .inr ⟨(hretry h).1, ?_, (hretry h).2⟩
          rw [fits_cons_of_ne hp]
          rintro ⟨_, _, heq, hstands, -⟩
          obtain ⟨rfl, rfl⟩ := List.cons.inj heq
          exact hc ((stands_iff hp).1 hstands)

/-- Every round keeps the star held. -/
theorem Held.next (hheld : Held place) (h : place.next = .inl following) : Held following := by
  rcases of_next_eq_inl h with ⟨behind, -, rfl⟩ | ⟨p, c, pattern, text, hpattern, htext, hc, rfl⟩ |
    ⟨behind, absorbed, -, -, -, rfl⟩
  · intro behind' absorbed' heq
    obtain ⟨rfl, rfl⟩ := Prod.mk.inj (Option.some.inj heq)
    exact ⟨[], [], rfl, rfl, .nil⟩
  · intro behind absorbed heq
    obtain ⟨taken, read, rfl, rfl, haligned⟩ := hheld behind absorbed heq
    refine ⟨taken ++ [p], read ++ [c], ?_, ?_, List.rel_append haligned (.cons hc .nil)⟩
    · rw [hpattern, List.append_assoc, List.singleton_append]
    · rw [htext, List.append_assoc, List.singleton_append]
  · intro behind' absorbed' heq
    obtain ⟨rfl, rfl⟩ := Prod.mk.inj (Option.some.inj heq)
    exact ⟨[], [], rfl, rfl, .nil⟩

/-- No round changes the question. Where the loop goes back, what the last star has absorbed so far
did not fit, so it has to absorb one more character. -/
theorem Held.open_next_iff (hheld : Held place) (h : place.next = .inl following) :
    following.Open ↔ place.Open := by
  obtain ⟨pattern, text, resume⟩ := place
  rcases of_next_eq_inl h with ⟨behind, hpattern, rfl⟩ |
    ⟨p, c, pattern, text, hpattern, htext, hc, rfl⟩ |
    ⟨behind, absorbed, hresume, htext, hnot, rfl⟩
  · obtain rfl : pattern = '*' :: behind := hpattern
    cases resume with
    | none => exact Iff.rfl
    | some resume =>
      obtain ⟨taken, read, hbehind, habsorbed, haligned⟩ := hheld resume.1 resume.2 rfl
      simp only [Open, hbehind, habsorbed]
      exact haligned.fits_star_iff.symm
  · obtain ⟨rfl, rfl⟩ := And.intro hpattern htext
    cases resume with
    | none => exact (Aligned.fits_append_iff (.cons hc .nil)).symm
    | some resume => exact Iff.rfl
  · obtain rfl : resume = some (behind, absorbed) := hresume
    obtain ⟨taken, read, hbehind, habsorbed, haligned⟩ := hheld behind absorbed rfl
    have hnotHere : ¬ Fits behind absorbed := by
      rw [hbehind, habsorbed, haligned.fits_append_iff]
      exact hnot
    obtain ⟨c, rest, hrest⟩ : ∃ c rest, absorbed = c :: rest := by
      rw [habsorbed]
      exact List.exists_cons_of_ne_nil (mt List.append_eq_nil_iff.1 fun h => htext h.2)
    rw [hrest] at hnotHere
    simp only [Open, hrest, List.tail_cons]
    rw [fits_star_cons]
    exact (or_iff_right hnotHere).symm

theorem Held.answer_iff (hheld : Held place) (h : place.next = .inr answer) :
    answer = true ↔ place.Open := by
  obtain ⟨pattern, text, resume⟩ := place
  rcases of_next_eq_inr h with ⟨htext, rfl⟩ | ⟨hresume, hnot, rfl⟩
  · obtain rfl : text = [] := htext
    rw [← fits_end]
    cases resume with
    | none => exact Iff.rfl
    | some resume =>
      obtain ⟨taken, read, hbehind, habsorbed, haligned⟩ := hheld resume.1 resume.2 rfl
      simp only [Open, hbehind, habsorbed]
      rw [← @Aligned.fits_append_iff _ _ _ [] haligned]
      constructor
      · intro hfits
        exact (fits_star _ _).2 ⟨_, List.suffix_rfl, hfits⟩
      · intro hfits
        obtain ⟨place, hplace, hfits⟩ := (fits_star _ _).1 hfits
        obtain ⟨rest, hrest, hfits⟩ := haligned.exists_suffix hplace hfits
        rw [List.suffix_nil.1 hrest] at hfits
        exact haligned.fits_append hfits
  · obtain rfl : resume = none := hresume
    exact iff_of_false Bool.false_ne_true hnot

def ahead (place : Place) : Nat :=
  place.resume.elim (place.pattern.length + 1) fun resume => resume.1.length

def leftover (place : Place) : Nat :=
  place.resume.elim 0 fun resume => resume.2.length

/-- A round passes a star, or the last star takes more, or a character of the pattern is passed. -/
theorem Held.decreases (hheld : Held place) (h : place.next = .inl following) :
    following.ahead < place.ahead ∨ (following.ahead = place.ahead ∧
      (following.leftover < place.leftover ∨ (following.leftover = place.leftover ∧
        following.pattern.length < place.pattern.length))) := by
  obtain ⟨pattern, text, resume⟩ := place
  rcases of_next_eq_inl h with ⟨behind, hpattern, rfl⟩ |
    ⟨p, c, pattern, text, hpattern, htext, hc, rfl⟩ |
    ⟨behind, absorbed, hresume, htext, hnot, rfl⟩
  · obtain rfl : pattern = '*' :: behind := hpattern
    left
    cases resume with
    | none =>
      simp only [ahead, Option.elim_some, Option.elim_none, List.length_cons]
      omega
    | some resume =>
      obtain ⟨taken, read, hbehind, -, -⟩ := hheld resume.1 resume.2 rfl
      simp only [ahead, Option.elim_some, hbehind, List.length_append, List.length_cons]
      omega
  · obtain ⟨rfl, rfl⟩ := And.intro hpattern htext
    cases resume with
    | none =>
      left
      simp only [ahead, Option.elim_none, List.length_cons]
      omega
    | some resume => exact .inr ⟨rfl, .inr ⟨rfl, Nat.lt_succ_self _⟩⟩
  · obtain rfl : resume = some (behind, absorbed) := hresume
    obtain ⟨taken, read, -, habsorbed, -⟩ := hheld behind absorbed rfl
    refine .inr ⟨rfl, .inl ?_⟩
    have hlength : 0 < text.length := List.length_pos_iff.2 htext
    simp only [leftover, Option.elim_some, List.length_tail, habsorbed, List.length_append]
    omega

/-- The loop ends from every place. -/
theorem Held.exists_ends {place : Place} (hheld : Held place) : ∃ answer, Ends place answer := by
  cases h : place.next with
  | inr answer => exact ⟨answer, .answer h⟩
  | inl following =>
    have hless := hheld.decreases h
    obtain ⟨answer, hends⟩ := (hheld.next h).exists_ends
    exact ⟨answer, .round h hends⟩
termination_by (place.ahead, place.leftover, place.pattern.length)
decreasing_by
  rw [Prod.lex_def, Prod.lex_def]
  exact hless

/-- Whatever the loop answers is right; the induction is on its rounds. -/
theorem Ends.answer_iff (h : Ends place answer) (hheld : Held place) :
    answer = true ↔ place.Open := by
  induction h with
  | answer h => exact hheld.answer_iff h
  | round h _ ih => rw [ih (hheld.next h), hheld.open_next_iff h]

end Place

/-- Matching a segment is exact: it succeeds when the text can be cut into one piece for each
character of the pattern. The loop that goes back to the last star alone ends on every text and
pattern, with this answer and no other. -/
theorem matchesSegment_exact (text pattern : Text) :
    (matchesSegment text pattern = true ↔
      ∃ pieces, List.Forall₂ Takes pattern pieces ∧ pieces.flatten = text) ∧
    ∀ answer, Place.Ends ⟨pattern, text, none⟩ answer ↔ answer = matchesSegment text pattern := by
  have hheld : Place.Held ⟨pattern, text, none⟩ := nofun
  have hunique {answer : Bool} (h : Place.Ends ⟨pattern, text, none⟩ answer) :
      answer = matchesSegment text pattern := by
    have hanswer : answer = true ↔ Fits pattern text := h.answer_iff hheld
    rw [Bool.eq_iff_iff, hanswer, matchesSegment_iff]
  refine ⟨matchesSegment_iff text pattern, fun answer => ⟨hunique, ?_⟩⟩
  rintro rfl
  obtain ⟨answer, hends⟩ := hheld.exists_ends
  rwa [← hunique hends]

end SecretScan.Wildcard
