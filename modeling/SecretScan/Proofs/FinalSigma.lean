import Mathlib.Data.List.Infix
import Mathlib.Data.List.TakeWhile
import SecretScan.Proofs.LowercaseText

/-!
Lower case in context. A text that stands within a longer text is put in lower case as it would be on
its own, letter by letter, except that a capital sigma becomes the final form of the letter or the
ordinary one depending on what stands around it. What is settled within a text cannot be changed from
outside: only a sigma behind which, or in front of which, the text has nothing that counts for case
can be written in another way. So a text is found again in lower case, wherever it stands, exactly
when all its capital sigmas are settled.
-/

namespace SecretScan.Text

def sigma : Char := 'Σ'

def isFinal (before after : Text) : Bool :=
  seesCased before.reverse && !seesCased after

def lowerBetween (before after : Text) : Text → Text
  | [] => []
  | c :: rest =>
    let image :=
      if c == sigma then [Char.ofNat (if isFinal before (rest ++ after) then 0x3C2 else 0x3C3)]
      else lowerChar c
    image ++ lowerBetween (before ++ [c]) after rest

def KeepsSigmas (before s after : Text) : Prop :=
  ∀ front behind, s = front ++ sigma :: behind →
    isFinal (before ++ front) (behind ++ after) = isFinal front behind

/-- What decides how a capital sigma is written stands in the text itself: a cased character behind
it, or something else than a cased character in front of it, or both sides. -/
def IsSettled (s : Text) : Prop :=
  ∀ front behind, s = front ++ sigma :: behind →
    (front.all isCaseIgnorable = true → seesCased behind = true) ∧
    (behind.all isCaseIgnorable = true → seesCased front.reverse = false)

section Context

variable {before after s t : Text}

theorem beq_sigma (c : Char) : (c == sigma) = (c.toNat == 0x3A3) := by
  rw [Bool.eq_iff_iff, beq_iff_eq, beq_iff_eq, ← Char.toNat_inj]
  rfl

theorem lowerWalk_append (before s after : Text) : lowerWalk before.reverse (s ++ after) =
    lowerBetween before after s ++ lowerWalk (before ++ s).reverse after := by
  induction s generalizing before with
  | nil => rw [List.append_nil]; rfl
  | cons c rest ih =>
    have hread : c :: before.reverse = (before ++ [c]).reverse := by rw [List.reverse_concat]
    rw [List.cons_append, lowerWalk, lowerBetween, hread, ih, beq_sigma, isFinal,
      List.append_assoc, List.append_assoc, List.singleton_append]

theorem toLowercase_eq_lowerBetween (s : Text) : toLowercase s = lowerBetween [] [] s := by
  have happend := lowerWalk_append [] s []
  rwa [List.append_nil, lowerWalk, List.append_nil] at happend

/-- The part of a text in the middle, in lower case. -/
theorem exists_toLowercase_append (before s after : Text) : ∃ front behind,
    toLowercase (before ++ s ++ after) = front ++ lowerBetween before after s ++ behind := by
  have hfront := lowerWalk_append [] before (s ++ after)
  have hmiddle := lowerWalk_append before s after
  rw [List.nil_append] at hfront
  refine ⟨lowerBetween [] (s ++ after) before, lowerWalk (before ++ s).reverse after, ?_⟩
  rw [List.append_assoc, List.append_assoc, ← hmiddle, ← hfront]
  rfl

theorem length_lowerBetween (before after before' after' s : Text) :
    (lowerBetween before after s).length = (lowerBetween before' after' s).length := by
  induction s generalizing before before' with
  | nil => rfl
  | cons c rest ih =>
    simp only [lowerBetween, List.length_append, ih (before ++ [c]) (before' ++ [c])]
    split <;> rfl

theorem ofNat_sigma_inj {final final' : Bool}
    (h : Char.ofNat (if final then 0x3C2 else 0x3C3) =
      Char.ofNat (if final' then 0x3C2 else 0x3C3)) : final = final' := by
  revert final final'
  decide

/-- Two surroundings give the same lower-case form exactly when they agree on every capital sigma. A
sigma in front is compared by itself, and what follows it as a text of its own. -/
theorem lowerBetween_congr {before' after' : Text} :
    lowerBetween before after s = lowerBetween before' after' s ↔
      ∀ front behind, s = front ++ sigma :: behind →
        isFinal (before ++ front) (behind ++ after) =
          isFinal (before' ++ front) (behind ++ after') := by
  induction s generalizing before before' with
  | nil => exact iff_of_true rfl fun front behind h => by cases front <;> cases h
  | cons c rest ih =>
    have hhead : lowerBetween before after (c :: rest) = lowerBetween before' after' (c :: rest) ↔
        (c = sigma → isFinal before (rest ++ after) = isFinal before' (rest ++ after')) ∧
          lowerBetween (before ++ [c]) after rest = lowerBetween (before' ++ [c]) after' rest := by
      rw [lowerBetween, lowerBetween]
      by_cases hc : c = sigma
      · simp only [hc, beq_self_eq_true, if_true, List.singleton_append, List.cons.injEq,
          forall_const]
        exact and_congr_left' ⟨ofNat_sigma_inj, fun h => by rw [h]⟩
      · simp only [if_neg (mt eq_of_beq hc), List.append_cancel_left_eq, hc, IsEmpty.forall_iff,
          true_and]
    rw [hhead, ih]
    constructor
    · rintro ⟨hfirst, hrest⟩ front behind h
      cases front with
      | nil =>
        obtain ⟨hc, hbehind⟩ := List.cons.inj h
        rw [List.append_nil, List.append_nil, ← hbehind]
        exact hfirst hc
      | cons d front =>
        obtain ⟨rfl, hrest'⟩ := List.cons.inj h
        simpa only [List.append_assoc, List.singleton_append] using hrest front behind hrest'
    · intro h
      refine ⟨fun hc => ?_, fun front behind hrest => ?_⟩
      · simpa only [List.append_nil] using h [] rest (by rw [hc]; rfl)
      · simpa only [List.append_assoc, List.singleton_append] using
          h (c :: front) behind (by rw [hrest]; rfl)

theorem lowerBetween_eq_toLowercase_iff :
    lowerBetween before after s = toLowercase s ↔ KeepsSigmas before s after := by
  rw [toLowercase_eq_lowerBetween, lowerBetween_congr]
  simp only [List.nil_append, List.append_nil]
  rfl

/-- A text is found in lower case where its capital sigmas are written as they are on their own. -/
theorem KeepsSigmas.infix_toLowercase (h : KeepsSigmas before s after) :
    toLowercase s <:+: toLowercase (before ++ s ++ after) := by
  obtain ⟨front, behind, heq⟩ := exists_toLowercase_append before s after
  rw [heq, lowerBetween_eq_toLowercase_iff.2 h]
  exact List.infix_append _ _ _

end Context

section Settled

variable {s t before after : Text}

theorem seesCased_of_ignorable (h : s.all isCaseIgnorable = true) : seesCased s = false := by
  rw [seesCased, List.dropWhile_eq_nil_iff.2 (List.all_eq_true.1 h)]
  rfl

theorem seesCased_append_of_ignorable (h : s.all isCaseIgnorable = true) (t : Text) :
    seesCased (s ++ t) = seesCased t := by
  rw [seesCased, List.dropWhile_append_of_pos (List.all_eq_true.1 h), seesCased]

/-- What stands behind a character that counts is not looked at. -/
theorem seesCased_append_of_not_ignorable (h : ¬ s.all isCaseIgnorable = true) (t : Text) :
    seesCased (s ++ t) = seesCased s := by
  have hne : (s.dropWhile isCaseIgnorable).isEmpty = false := by
    rwa [List.isEmpty_eq_false_iff, Ne, List.dropWhile_eq_nil_iff, ← List.all_eq_true]
  rw [seesCased, List.dropWhile_append, hne, if_neg Bool.false_ne_true,
    List.head?_append_of_ne_nil _ (List.isEmpty_eq_false_iff.1 hne), seesCased]

/-- Nothing around a text changes its settled sigmas. -/
theorem IsSettled.keepsSigmas (h : IsSettled s) (before after : Text) :
    KeepsSigmas before s after := by
  intro front behind hs
  obtain ⟨hbehind, hfront⟩ := h front behind hs
  rw [isFinal, isFinal, List.reverse_append]
  by_cases hopen : front.all isCaseIgnorable = true
  · have hcased := hbehind hopen
    have hcounts : ¬ behind.all isCaseIgnorable = true := fun hall => by
      rw [seesCased_of_ignorable hall] at hcased
      cases hcased
    rw [seesCased_append_of_not_ignorable hcounts, hcased, Bool.not_true, Bool.and_false,
      Bool.and_false]
  · have hcounts : ¬ front.reverse.all isCaseIgnorable = true := by rwa [List.all_reverse]
    rw [seesCased_append_of_not_ignorable hcounts]
    by_cases hclosed : behind.all isCaseIgnorable = true
    · rw [hfront hclosed, Bool.false_and, Bool.false_and]
    · rw [seesCased_append_of_not_ignorable hclosed]

/-- Where the first and the last character count for case and are no capital sigmas, all sigmas of
the text are settled. -/
theorem isSettled_of_ends (hfirst : ∀ c ∈ s.head?, isCaseIgnorable c = false ∧ c ≠ sigma)
    (hlast : ∀ c ∈ s.getLast?, isCaseIgnorable c = false ∧ c ≠ sigma) : IsSettled s := by
  rintro front behind rfl
  constructor
  · intro hopen
    cases front with
    | nil => exact absurd rfl (hfirst sigma rfl).2
    | cons c front =>
      rw [List.all_cons, (hfirst c rfl).1] at hopen
      cases hopen
  · intro hclosed
    rcases List.eq_nil_or_concat' behind with rfl | ⟨behind, c, rfl⟩
    · exact absurd rfl (hlast sigma (by simp)).2
    · have hc : (front ++ sigma :: (behind ++ [c])).getLast? = some c := by
        rw [← List.cons_append, ← List.append_assoc, List.getLast?_concat]
      rw [List.all_append, List.all_cons, (hlast c hc).1, Bool.false_and, Bool.and_false]
        at hclosed
      cases hclosed

theorem exists_letter_ne (x : Option Char) :
    ∃ c, some c ≠ x ∧ isCaseIgnorable c = false ∧ isCased c = true ∧ lowerChar c = [c] ∧
      (c == sigma) = false := by
  by_cases hx : x = some 'a'
  · refine ⟨'b', ?_, by decide, by decide, by decide, by decide⟩
    rw [hx]
    decide
  · exact ⟨'a', fun h => hx h.symm, by decide, by decide, by decide, by decide⟩

theorem seesCased_singleton {c : Char} (hignorable : isCaseIgnorable c = false)
    (hcased : isCased c = true) : seesCased [c] = true := by
  rw [seesCased, List.dropWhile_cons_of_neg (by simpa using hignorable)]
  exact hcased

/-- A letter in front of a text does not help to find the text in lower case. -/
theorem keepsSigmas_of_infix_cons {c : Char} (hlower : lowerChar c = [c])
    (hsigma : (c == sigma) = false) (hhead : some c ≠ (toLowercase s).head?)
    (h : toLowercase s <:+: toLowercase ([c] ++ s ++ [])) : KeepsSigmas [c] s [] := by
  have hcons : toLowercase ([c] ++ s ++ []) = c :: lowerBetween [c] [] s := by
    rw [List.append_nil, toLowercase_eq_lowerBetween, List.singleton_append, lowerBetween, hsigma,
      hlower]
    rfl
  rw [hcons, List.infix_cons_iff] at h
  rw [← lowerBetween_eq_toLowercase_iff]
  have hlength : (toLowercase s).length = (lowerBetween [c] [] s).length := by
    rw [toLowercase_eq_lowerBetween, length_lowerBetween]
  rcases h with hprefix | hoccurs
  · cases hs : toLowercase s with
    | nil =>
      rw [hs] at hlength
      exact List.eq_nil_of_length_eq_zero hlength.symm
    | cons x rest =>
      rw [hs, List.cons_prefix_cons] at hprefix
      rw [hs, List.head?_cons, ← hprefix.1] at hhead
      exact absurd rfl hhead
  · exact (hoccurs.eq_of_length hlength).symm

theorem keepsSigmas_of_infix_concat {c : Char} (hlower : lowerChar c = [c])
    (hsigma : (c == sigma) = false) (hlast : some c ≠ (toLowercase s).getLast?)
    (h : toLowercase s <:+: toLowercase ([] ++ s ++ [c])) : KeepsSigmas [] s [c] := by
  have hconcat : toLowercase ([] ++ s ++ [c]) = lowerBetween [] [c] s ++ [c] := by
    have happend := lowerWalk_append [] s [c]
    have hbehind : lowerWalk ([] ++ s).reverse [c] = [c] := by
      rw [lowerWalk, ← beq_sigma, hsigma, hlower]
      rfl
    rwa [hbehind] at happend
  rw [hconcat, List.infix_concat_iff] at h
  rw [← lowerBetween_eq_toLowercase_iff]
  have hlength : (toLowercase s).length = (lowerBetween [] [c] s).length := by
    rw [toLowercase_eq_lowerBetween, length_lowerBetween]
  rcases h with hsuffix | hoccurs
  · rcases List.eq_nil_or_concat' (toLowercase s) with hs | ⟨front, x, hs⟩
    · rw [hs] at hlength ⊢
      exact List.eq_nil_of_length_eq_zero hlength.symm
    · obtain ⟨passed, hpassed⟩ := hsuffix
      have hc := congrArg List.getLast? hpassed
      rw [List.getLast?_append, List.getLast?_concat, hs, List.getLast?_concat, Option.some_or]
        at hc
      rw [hs, List.getLast?_concat, hc] at hlast
      exact absurd rfl hlast
  · exact (hoccurs.eq_of_length hlength).symm

/-- A text is found in lower case wherever it stands exactly when its capital sigmas are settled. -/
theorem isSettled_iff : IsSettled s ↔
    ∀ before after, toLowercase s <:+: toLowercase (before ++ s ++ after) := by
  refine ⟨fun h before after => (h.keepsSigmas before after).infix_toLowercase, fun h => ?_⟩
  intro front behind hs
  constructor
  · intro hopen
    obtain ⟨c, hhead, hignorable, hcased, hlower, hsigma⟩ :=
      exists_letter_ne (toLowercase s).head?
    have hkeeps := keepsSigmas_of_infix_cons hlower hsigma hhead (h [c] []) front behind hs
    have hreverse : front.reverse.all isCaseIgnorable = true := by rwa [List.all_reverse]
    rw [isFinal, isFinal, List.append_nil, List.reverse_append, List.reverse_singleton,
      seesCased_append_of_ignorable hreverse, seesCased_singleton hignorable hcased,
      seesCased_of_ignorable hreverse] at hkeeps
    simpa using hkeeps
  · intro hclosed
    obtain ⟨c, hlast, hignorable, hcased, hlower, hsigma⟩ :=
      exists_letter_ne (toLowercase s).getLast?
    have hkeeps := keepsSigmas_of_infix_concat hlower hsigma hlast (h [] [c]) front behind hs
    rw [isFinal, isFinal, List.nil_append, seesCased_append_of_ignorable hclosed,
      seesCased_singleton hignorable hcased, seesCased_of_ignorable hclosed] at hkeeps
    simpa using hkeeps.symm

end Settled

end SecretScan.Text
