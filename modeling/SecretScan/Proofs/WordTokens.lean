import Mathlib.Data.List.Nodup
import SecretScan.Proofs.CapturedSecrets
import SecretScan.Proofs.TokenForms
import SecretScan.Proofs.TokenRuns

/-!
Tokens that stand between word boundaries. Ten built-in signatures look for tokens of word
characters with a word boundary on either side. What such a signature finds in a line are the
maximal runs of word characters that have the form of its tokens, from left to right, each of them
once and as a whole. No run is missed because another one stands in front of it: a search goes on
behind the run that was found, and a word boundary depends on the character before it.
-/

namespace SecretScan

namespace Token.Run

structure IsWordOf (line : Text) (x : Run) : Prop where
  line_eq : line = x.before ++ x.text ++ x.after
  ne_nil : x.text ≠ []
  word : ∀ c ∈ x.text, Text.isWordChar c = true
  before_ends : ∀ c ∈ x.before.getLast?, Text.isWordChar c = false
  after_starts : ∀ c ∈ x.after.head?, Text.isWordChar c = false

/-- Whether a part of a line is such a run can be computed. -/
theorem isWordOf_iff {line : Text} {x : Run} : IsWordOf line x ↔
    line = x.before ++ x.text ++ x.after ∧ x.text ≠ [] ∧ x.text.all Text.isWordChar = true ∧
      x.before.getLast?.any Text.isWordChar = false ∧
      x.after.head?.any Text.isWordChar = false := by
  rw [List.all_eq_true, Option.any_eq_false, Option.any_eq_false]
  constructor
  · intro h
    exact ⟨h.line_eq, h.ne_nil, h.word, h.before_ends, h.after_starts⟩
  · intro ⟨hline, hne, hword, hbefore, hafter⟩
    exact ⟨hline, hne, hword, hbefore, hafter⟩

namespace IsWordOf

variable {line : Text} {x y : Run}

theorem any_inside (h : IsWordOf line x) {k : Nat} (hfirst : x.before.length ≤ k)
    (hlast : k < x.before.length + x.text.length) : (line)[k]?.any Text.isWordChar = true := by
  have hk : k - x.before.length < x.text.length := by omega
  rw [h.line_eq, List.append_assoc, List.getElem?_append_right hfirst,
    List.getElem?_append_left hk, List.getElem?_eq_getElem hk, Option.any_some]
  exact h.word _ (List.getElem_mem hk)

theorem any_before (h : IsWordOf line x) {k : Nat} (hk : k + 1 = x.before.length) :
    (line)[k]?.any Text.isWordChar = false := by
  have hlast : x.before.getLast? = (x.before)[k]? := by
    rw [List.getLast?_eq_getElem?, ← hk, Nat.add_sub_cancel]
  rw [h.line_eq, List.append_assoc, List.getElem?_append_left (by omega), ← hlast]
  exact (Option.any_eq_false _ _).2 h.before_ends

theorem any_stop (h : IsWordOf line x) :
    (line)[x.before.length + x.text.length]?.any Text.isWordChar = false := by
  rw [h.line_eq, ← List.length_append, ← List.head?_drop, List.drop_left]
  exact (Option.any_eq_false _ _).2 h.after_starts

/-- Two runs are the same, or one of them stops before the other one starts. -/
theorem eq_or_le (hx : IsWordOf line x) (hy : IsWordOf line y)
    (hle : x.before.length ≤ y.before.length) :
    x = y ∨ x.before.length + x.text.length ≤ y.before.length := by
  by_cases hstart : x.before.length = y.before.length
  · have hlength : x.text.length = y.text.length := by
      rcases Nat.lt_trichotomy x.text.length y.text.length with hlt | heq | hgt
      · have hinside := hy.any_inside (k := x.before.length + x.text.length) (by omega) (by omega)
        exact nomatch hx.any_stop.symm.trans hinside
      · exact heq
      · have hinside := hx.any_inside (k := y.before.length + y.text.length) (by omega) (by omega)
        exact nomatch hy.any_stop.symm.trans hinside
    have hline := hx.line_eq.symm.trans hy.line_eq
    obtain ⟨hfront, hafter⟩ := List.append_inj hline (by
      rw [List.length_append, List.length_append, hstart, hlength])
    obtain ⟨hbefore, htext⟩ := List.append_inj hfront hstart
    refine .inl ?_
    cases x
    cases y
    simp only at hbefore htext hafter
    rw [hbefore, htext, hafter]
  · refine .inr (Nat.le_of_not_lt fun hlt => ?_)
    have hinside := hx.any_inside (k := y.before.length - 1) (by omega) (by omega)
    exact nomatch (hy.any_before (by omega)).symm.trans hinside

end IsWordOf

def wordMatch (x : Run) : Match :=
  ⟨x.before.length, x.before.length + x.text.length,
    [(3, x.before.length + x.text.length), (2, x.before.length)]⟩

theorem captured_wordMatch {line : Text} {x : Run} (h : IsWordOf line x) :
    Signature.captured line x.wordMatch = x.text := by
  change Text.slice line x.before.length (x.before.length + x.text.length) = x.text
  rw [Text.slice, h.line_eq, List.append_assoc, List.drop_left, Nat.add_sub_cancel_left,
    List.take_left]

end Token.Run

open Token

section Boundaries

variable {line before text after : Text}

/-- What holds between two parts of a line depends on the characters on either side. -/
theorem Look.holds_between (l : Look) (before after : Text) :
    l.holds ((before ++ after).take before.length).getLast? (before ++ after)[before.length]? =
      l.holds before.getLast? after.head? := by
  rw [List.take_left, ← List.head?_drop, List.drop_left]

/-- A part of word characters is a maximal run exactly when word boundaries stand on either side. -/
theorem Token.Run.isWordOf_iff_boundaries (hline : line = before ++ text ++ after)
    (hne : text ≠ []) (hword : ∀ c ∈ text, Text.isWordChar c = true) :
    Run.IsWordOf line ⟨before, text, after⟩ ↔
      (Look.boundary false).holds (line.take before.length).getLast? (line)[before.length]? = true ∧
        (Look.boundary false).holds (line.take (before.length + text.length)).getLast?
          (line)[before.length + text.length]? = true := by
  have hfirst : (text ++ after).head?.any Text.isWordChar = true := by
    rw [List.head?_append_of_ne_nil text hne, List.head?_eq_some_head hne]
    exact hword _ (List.head_mem hne)
  have hlast : (before ++ text).getLast?.any Text.isWordChar = true := by
    rw [List.getLast?_append, List.getLast?_eq_some_getLast hne]
    exact hword _ (List.getLast_mem hne)
  have hholds (first second : Option Char) : (Look.boundary false).holds first second =
      (first.any Text.isWordChar != second.any Text.isWordChar) := rfl
  have hstart : (Look.boundary false).holds (line.take before.length).getLast?
      (line)[before.length]? = !before.getLast?.any Text.isWordChar := by
    rw [hline, List.append_assoc, Look.holds_between, hholds, hfirst, Bool.bne_true]
  have hstop : (Look.boundary false).holds (line.take (before.length + text.length)).getLast?
      (line)[before.length + text.length]? = !after.head?.any Text.isWordChar := by
    rw [hline, ← List.length_append, Look.holds_between, hholds, hlast, Bool.true_bne]
  rw [hstart, hstop, isWordOf_iff, Bool.not_eq_true', Bool.not_eq_true', List.all_eq_true]
  exact ⟨fun h => h.2.2.2, fun h => ⟨hline, hne, hword, h⟩⟩

end Boundaries

namespace Plan

variable {p : Plan} {form : TokenForm}

/-- The ways of a plan that captures tokens of a form between word boundaries: from each position at
most one, which takes the maximal run of word characters that starts there. -/
theorem mem_ways_word_iff (hp : p.wordForm? = some form) (hform : form.isWord = true) {line : Text}
    {i : Nat} {w : Nat × Slots} : w ∈ ways line p i ↔
      ∃ x : Run, x.IsWordOf line ∧ form.Fits x.text ∧ x.wordMatch = ⟨i, w.1, w.2⟩ := by
  obtain ⟨a, rfl, hreads⟩ := eq_of_wordForm? hp
  constructor
  · intro h
    obtain ⟨_, hfirst, _, hrest, rfl⟩ := mem_ways_seq_iff.1 h
    obtain ⟨hstart, rfl⟩ := mem_ways_look_iff.1 hfirst
    obtain ⟨_, hcapture, _, hlast, rfl⟩ := mem_ways_seq_iff.1 hrest
    obtain ⟨⟨j, slots⟩, hj, rfl⟩ := mem_ways_capture_iff.1 hcapture
    obtain ⟨rfl, text, after, hdrop, hfits, rfl⟩ := (hreads line i _).1 hj
    obtain ⟨hstop, rfl⟩ := mem_ways_look_iff.1 hlast
    have hne := hfits.ne_nil hform
    obtain ⟨before, hline, rfl⟩ : ∃ before, line = before ++ text ++ after ∧ before.length = i := by
      refine ⟨line.take i, ?_, ?_⟩
      · rw [List.append_assoc, ← hdrop, List.take_append_drop]
      · have hlength := congrArg List.length hdrop
        have hpos := List.length_pos_iff.2 hne
        rw [List.length_drop, List.length_append] at hlength
        rw [List.length_take]
        omega
    have hx : Run.IsWordOf line ⟨before, text, after⟩ :=
      (Run.isWordOf_iff_boundaries hline hne fun c => hfits.isWordChar hform).2 ⟨hstart, hstop⟩
    exact ⟨_, hx, hfits, rfl⟩
  · rintro ⟨⟨before, text, after⟩, hx, hfits, hmatch⟩
    obtain ⟨rfl, hend, hslots⟩ := Match.mk.inj hmatch
    obtain ⟨hstart, hstop⟩ :=
      (Run.isWordOf_iff_boundaries hx.line_eq hx.ne_nil hx.word).1 hx
    have hdrop : line.drop before.length = text ++ after := by
      rw [hx.line_eq, List.append_assoc, List.drop_left]
    have htext : (before.length + text.length, []) ∈ ways line a before.length :=
      (hreads line before.length _).2 ⟨rfl, text, after, hdrop, hfits, rfl⟩
    have hfirst := mem_ways_look_iff.2 ⟨hstart, rfl⟩
    have hlast := mem_ways_look_iff.2 ⟨hstop, rfl⟩
    exact mem_ways_seq_iff.2 ⟨_, hfirst, _, mem_ways_seq_iff.2
      ⟨_, mem_ways_capture_iff.2 ⟨_, htext, rfl⟩, _, hlast, rfl⟩, Prod.ext hend.symm hslots.symm⟩

theorem ways_ne_nil_of_isWordOf (hp : p.wordForm? = some form) (hform : form.isWord = true)
    {line : Text} {x : Run} (hx : x.IsWordOf line) (hfits : form.Fits x.text) :
    ways line p x.before.length ≠ [] :=
  List.ne_nil_of_mem <| (mem_ways_word_iff hp hform
    (w := (x.before.length + x.text.length, x.wordMatch.slots))).2 ⟨x, hx, hfits, rfl⟩

end Plan

section Search

variable {p : Pattern} {form : TokenForm} {line : Text} {position : Nat}
variable (hfree : p.plan.isLoopFree = true) (hnodup : p.plan.places.Nodup)
variable (hp : p.plan.wordForm? = some form) (hform : form.isWord = true)
include hfree hnodup hp hform

/-- A search finds the leftmost run of the form that starts at or after a position. -/
theorem Pattern.exists_word_of_matchFrom? {m : Match} (h : p.matchFrom? line position = some m) :
    ∃ x : Run, x.IsWordOf line ∧ form.Fits x.text ∧ m = x.wordMatch ∧
      position ≤ x.before.length ∧ ∀ y : Run, y.IsWordOf line → form.Fits y.text →
        position ≤ y.before.length → x.before.length ≤ y.before.length := by
  obtain ⟨hposition, -, hhead, hnone⟩ := (matchFrom?_eq_some_iff hfree hnodup).1 h
  obtain ⟨x, hx, hfits, hmatch⟩ :=
    (Plan.mem_ways_word_iff hp hform).1 (List.mem_of_mem_head? hhead)
  have hstart : x.before.length = m.start := congrArg Match.start hmatch
  refine ⟨x, hx, hfits, hmatch.symm, hstart ▸ hposition, fun y hy hyfits hle => ?_⟩
  exact Nat.le_of_not_lt fun hlt =>
    Plan.ways_ne_nil_of_isWordOf hp hform hy hyfits (hnone _ hle (hstart ▸ hlt))

theorem Pattern.start_lt_of_matchFrom?_eq_none (h : p.matchFrom? line position = none) {x : Run}
    (hx : x.IsWordOf line) (hfits : form.Fits x.text) : x.before.length < position := by
  refine Nat.lt_of_not_le fun hle => ?_
  have hlength : x.before.length ≤ line.length := by
    rw [hx.line_eq, List.length_append, List.length_append]
    omega
  exact Plan.ways_ne_nil_of_isWordOf hp hform hx hfits
    ((matchFrom?_eq_none_iff hfree hnodup).1 h _ hle hlength)

/-- Successive matches are the runs of the form, from left to right. -/
theorem Match.Successive.exists_words {found : List Match}
    (h : Successive (p.matchFrom? line) position found) :
    ∃ words : List Run, found = words.map Run.wordMatch ∧
      words.Pairwise (fun x y => x.before.length < y.before.length) ∧
      ∀ x, x ∈ words ↔ x.IsWordOf line ∧ form.Fits x.text ∧ position ≤ x.before.length := by
  induction h with
  | done h =>
    refine ⟨[], rfl, .nil, fun x => iff_of_false List.not_mem_nil ?_⟩
    rintro ⟨hx, hfits, hle⟩
    have hlt := Pattern.start_lt_of_matchFrom?_eq_none hfree hnodup hp hform h hx hfits
    omega
  | @found position m rest h hrest ih =>
    obtain ⟨words, rfl, hsorted, hwords⟩ := ih
    obtain ⟨x, hx, hfits, rfl, hposition, hleftmost⟩ :=
      Pattern.exists_word_of_matchFrom? hfree hnodup hp hform h
    have hpos := List.length_pos_iff.2 hx.ne_nil
    have hnext : x.wordMatch.nextStart = x.before.length + x.text.length :=
      if_pos (show x.before.length < x.before.length + x.text.length by omega)
    rw [hnext] at hwords
    refine ⟨x :: words, rfl, List.pairwise_cons.2 ⟨fun y hy => ?_, hsorted⟩, fun y => ?_⟩
    · have hle := ((hwords y).1 hy).2.2
      omega
    · rw [List.mem_cons, hwords]
      constructor
      · rintro (rfl | ⟨hy, hyfits, hle⟩)
        · exact ⟨hx, hfits, hposition⟩
        · exact ⟨hy, hyfits, by omega⟩
      · rintro ⟨hy, hyfits, hle⟩
        rcases hx.eq_or_le hy (hleftmost y hy hyfits hle) with heq | hle
        · exact .inl heq.symm
        · exact .inr ⟨hy, hyfits, hle⟩

end Search

namespace Signature

def wordTokens : List (Text × TokenForm) :=
  [("aws_access_key",
    { openings := ["AKIA", "ASIA", "ABIA", "ACCA", "AGPA", "AIDA", "AIPA", "ANPA", "ANVA", "APKA",
        "AROA", "ASCA"]
      letters := .ofRanges [('A', 'Z'), ('0', '9')]
      least := 16
      most := 16 }),
   ("stripe_live_key",
    { openings := ["sk_live_", "rk_live_"]
      letters := .ofRanges [('0', '9'), ('a', 'z'), ('A', 'Z')]
      least := 24
      most := 99 }),
   ("stripe_test_key",
    { openings := ["sk_test_", "rk_test_"]
      letters := .ofRanges [('0', '9'), ('a', 'z'), ('A', 'Z')]
      least := 24
      most := 99 }),
   ("github_pat",
    { openings := ["ghp_"]
      letters := .ofRanges [('A', 'Z'), ('a', 'z'), ('0', '9')]
      least := 36
      most := 40 }),
   ("github_oauth",
    { openings := ["gho_"]
      letters := .ofRanges [('A', 'Z'), ('a', 'z'), ('0', '9')]
      least := 36
      most := 40 }),
   ("github_app_token",
    { openings := ["ghu_", "ghs_", "ghr_"]
      letters := .ofRanges [('A', 'Z'), ('a', 'z'), ('0', '9')]
      least := 36
      most := 40 }),
   ("github_fine_grained_pat",
    { openings := ["github_pat_"]
      letters := .ofRanges [('A', 'Z'), ('a', 'z'), ('0', '9'), ('_', '_')]
      least := 22
      most := 255 }),
   ("npm_token",
    { openings := ["npm_"]
      letters := .ofRanges [('A', 'Z'), ('a', 'z'), ('0', '9')]
      least := 36
      most := 36 }),
   ("twilio_api_key",
    { openings := ["SK"]
      letters := .ofRanges [('0', '9'), ('a', 'f'), ('A', 'F')]
      least := 32
      most := 32 }),
   ("twilio_account_sid",
    { openings := ["AC"]
      letters := .ofRanges [('0', '9'), ('a', 'f')]
      least := 32
      most := 32 })]

def Definition.wordToken? (d : Definition) : Option (Text × TokenForm) :=
  ((Pattern.compile d.pattern).toOption.bind (·.plan.wordForm?)).bind fun form =>
    if form.isWord then some (d.key, form) else none

/-- The forms stand in the built-in patterns, which are spelled out as lists of characters here, so
that the kernel takes far less time. -/
theorem filterMap_wordToken? : definitions.filterMap Definition.wordToken? = wordTokens := by
  simp only [wordTokens, definitions, cloud, payment, hosting, chat, tokens, messaging, storage,
    contextual, List.cons_append, List.nil_append]
  repeat rw [String.toList_ofList]
  decide +kernel

theorem nodup_definition_keys : (definitions.map (·.key)).Nodup := by
  simp only [definitions, cloud, payment, hosting, chat, tokens, messaging, storage, contextual,
    List.cons_append, List.nil_append, List.map_cons, List.map_nil]
  repeat rw [String.toList_ofList]
  decide +kernel

/-- No two built-in signatures share a key. -/
theorem find?_eq_some {s : Signature} (hs : s ∈ builtin) : find? s.key = some s := by
  obtain ⟨d, hd, hcompile⟩ := List.mem_filterMap.1 hs
  cases hfound : find? s.key with
  | none => exact absurd BEq.rfl (List.find?_eq_none.1 hfound s hs)
  | some t =>
    obtain ⟨e, he, hcompile'⟩ := List.mem_filterMap.1 (List.mem_of_find?_eq_some hfound)
    have hkey : t.key = s.key := eq_of_beq (List.find?_some hfound :)
    rw [(Definition.of_compile (toOption_eq_some_iff.1 hcompile')).1,
      (Definition.of_compile (toOption_eq_some_iff.1 hcompile)).1] at hkey
    obtain rfl := List.inj_on_of_nodup_map nodup_definition_keys he hd hkey
    exact hcompile'.symm.trans hcompile

/-- The signature of a form: it has a plan of this form, which a search goes about as it should. -/
theorem exists_find?_of_mem_wordTokens {key : Text} {form : TokenForm}
    (h : (key, form) ∈ wordTokens) :
    ∃ s, find? key = some s ∧ s.key = key ∧ s.pattern.plan.isLoopFree = true ∧
      s.pattern.plan.places.Nodup ∧ s.pattern.plan.wordForm? = some form ∧
      form.isWord = true := by
  rw [← filterMap_wordToken?, List.mem_filterMap] at h
  obtain ⟨d, hd, htoken⟩ := h
  obtain ⟨f, hf, hfound⟩ := Option.bind_eq_some_iff.1 htoken
  obtain ⟨p, hp, hpform⟩ := Option.bind_eq_some_iff.1 hf
  split at hfound
  · rename_i hword
    obtain ⟨rfl, rfl⟩ := Prod.mk.inj (Option.some.inj hfound)
    have hcompile := toOption_eq_some_iff.1 hp
    have hplan := capturesWithin_of_mem_definitions d hd
    rw [hp, Option.any_some, Bool.and_eq_true] at hplan
    have hs : ⟨d.key, d.name, d.severity, d.description, p⟩ ∈ builtin := by
      refine List.mem_filterMap.2 ⟨d, hd, toOption_eq_some_iff.2 ?_⟩
      rw [Definition.compile, hcompile]
      rfl
    exact ⟨_, find?_eq_some hs, rfl, hplan.1, Pattern.nodup_places_of_compile hcompile, hpform,
      hword⟩
  · cases hfound

/-- What a signature of tokens between word boundaries finds in a line: the maximal runs of word
characters that have the form of its tokens, from left to right, as many as the limit allows. -/
theorem scanLine_wordTokens {key : Text} {form : TokenForm} (h : (key, form) ∈ wordTokens)
    (limit : Nat) (line : Text) (number : Nat) :
    ∃ (s : Signature) (words : List Run), find? key = some s ∧
      (∀ x, x ∈ words ↔ x.IsWordOf line ∧ form.Fits x.text) ∧
      words.Pairwise (fun x y => x.before.length < y.before.length) ∧
      s.scanLine limit line number =
        { findings := (words.take limit).map fun x =>
            { kind := s.name, ruleId := key, line := number, column := some (x.before.length + 1),
              matched := x.text, content := Text.trim line, description := s.description,
              severity := s.severity, file := none, entropy := none }
          advisories := if limit < words.length then [⟨key, number, limit, none⟩] else [] } := by
  obtain ⟨s, hs, rfl, hfree, hnodup, hp, hform⟩ := exists_find?_of_mem_wordTokens h
  obtain ⟨words, hmatches, hsorted, hwords⟩ :=
    (s.successive_allMatches line).exists_words hfree hnodup hp hform
  have hwords (x : Run) : x ∈ words ↔ x.IsWordOf line ∧ form.Fits x.text := by
    rw [hwords, and_iff_left (Nat.zero_le _)]
  refine ⟨s, words, hs, hwords, hsorted, ?_⟩
  rw [scanLine_eq, hmatches, ← List.map_take, List.map_map, List.length_map]
  have hfindings : (words.take limit).map (s.finding line (Text.trim line) number ∘ Run.wordMatch) =
      (words.take limit).map fun x =>
        { kind := s.name, ruleId := s.key, line := number, column := some (x.before.length + 1),
          matched := x.text, content := Text.trim line, description := s.description,
          severity := s.severity, file := none, entropy := none } := by
    refine List.map_congr_left fun x hx => ?_
    have hx := ((hwords x).1 (List.mem_of_mem_take hx)).1
    rw [Function.comp_apply, finding, Run.captured_wordMatch hx]
    rfl
  rw [hfindings]

def keyLine : Text :=
  "AKIA0123456789ABCDEF,ASIA0123456789ABCDEF éAKIA0123456789ABCDEF AKIA0123456789ABCDEF_"

/-- The first two keys are found, and a limit of one leaves the second one out. -/
theorem scanLine_wordTokens_keyLine :
    ∃ (form : TokenForm) (s : Signature) (words : List Run),
      ("aws_access_key".toList, form) ∈ wordTokens ∧ find? "aws_access_key" = some s ∧
      ⟨[], "AKIA0123456789ABCDEF".toList, keyLine.drop 20⟩ ∈ words ∧
      ⟨keyLine.take 21, "ASIA0123456789ABCDEF".toList, keyLine.drop 41⟩ ∈ words ∧
      (s.scanLine 1 keyLine 7).findings.map (fun f => (f.column, f.matched)) =
        (words.take 1).map (fun x => (some (x.before.length + 1), x.text)) ∧
      (s.scanLine 2 keyLine 7).findings.map (fun f => (f.column, f.matched)) =
        [(some 1, "AKIA0123456789ABCDEF".toList), (some 22, "ASIA0123456789ABCDEF".toList)] ∧
      (s.scanLine 1 keyLine 7).advisories = [⟨"aws_access_key", 7, 1, none⟩] ∧
      (s.scanLine 2 keyLine 7).advisories = [] := by
  have hmem : wordTokens.head (by decide) ∈ wordTokens := List.head_mem _
  obtain ⟨s, words, hs, hwords, -, hscan⟩ := scanLine_wordTokens hmem 1 keyLine 7
  have hreports : (find? "aws_access_key").all (fun s =>
      (s.scanLine 2 keyLine 7).findings.map (fun f => (f.column, f.matched)) =
          [(some 1, "AKIA0123456789ABCDEF".toList), (some 22, "ASIA0123456789ABCDEF".toList)] ∧
        (s.scanLine 1 keyLine 7).advisories = [⟨"aws_access_key", 7, 1, none⟩] ∧
        (s.scanLine 2 keyLine 7).advisories = []) = true := by
    decide +kernel
  rw [hs, Option.all_some, decide_eq_true_eq] at hreports
  have hfirst : Run.IsWordOf keyLine ⟨[], "AKIA0123456789ABCDEF".toList, keyLine.drop 20⟩ :=
    Run.isWordOf_iff.2 (by decide +kernel)
  have hsecond : Run.IsWordOf keyLine
      ⟨keyLine.take 21, "ASIA0123456789ABCDEF".toList, keyLine.drop 41⟩ :=
    Run.isWordOf_iff.2 (by decide +kernel)
  refine ⟨_, s, words, hmem, hs, (hwords _).2 ⟨hfirst, by decide +kernel⟩,
    (hwords _).2 ⟨hsecond, by decide +kernel⟩, ?_, hreports⟩
  rw [hscan, List.map_map]
  rfl

end Signature

end SecretScan
