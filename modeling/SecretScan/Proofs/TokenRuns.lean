import SecretScan.Proofs.FindingPlaces

/-!
The tokens of a line. The tokenizer passes over a line once and keeps the characters since the last
delimiter; what it hands out are the maximal runs of characters that delimit nothing, each of them
once and from left to right, so that equal runs keep their own places. What is found by entropy are
those runs that pass every filter, in the same order.
-/

namespace SecretScan

structure Token.Run where
  before : Text
  text : Text
  after : Text

namespace Token.Run

structure IsRunOf (line : Text) (x : Run) : Prop where
  line_eq : line = x.before ++ x.text ++ x.after
  ne_nil : x.text ≠ []
  free : ∀ c ∈ x.text, isDelimiter c = false
  before_ends : ∀ c ∈ x.before.getLast?, isDelimiter c = true
  after_starts : ∀ c ∈ x.after.head?, isDelimiter c = true

/-- Whether a part of a line is a run can be computed. -/
theorem isRunOf_iff {line : Text} {x : Run} : IsRunOf line x ↔
    line = x.before ++ x.text ++ x.after ∧ x.text ≠ [] ∧ x.text.any isDelimiter = false ∧
      x.before.getLast?.all isDelimiter = true ∧ x.after.head?.all isDelimiter = true := by
  simp only [List.any_eq_false, Bool.not_eq_true, Option.all_eq_true]
  constructor
  · intro h
    exact ⟨h.line_eq, h.ne_nil, h.free, h.before_ends, h.after_starts⟩
  · intro ⟨hline, hne, hfree, hbefore, hafter⟩
    exact ⟨hline, hne, hfree, hbefore, hafter⟩

def token (x : Run) : Token :=
  ⟨x.before.length, x.text⟩

def ofWord (before word after : Text) : List Run :=
  if word.isEmpty then [] else [⟨before, word, after⟩]

/-- Characters that delimit nothing, up to a delimiter or the end, are what a line has there before
its first delimiter. -/
theorem takeWhile_eq {word rest : Text} (hword : ∀ c ∈ word, isDelimiter c = false)
    (hrest : ∀ c ∈ rest.head?, isDelimiter c = true) :
    (word ++ rest).takeWhile (fun c => !isDelimiter c) = word := by
  have hstop : rest.takeWhile (fun c => !isDelimiter c) = [] := by
    cases rest with
    | nil => rfl
    | cons c rest =>
      rw [List.takeWhile_cons, hrest c rfl]
      rfl
  rw [List.takeWhile_append_of_pos fun c hc => by rw [hword c hc]; rfl, hstop, List.append_nil]

section Front

variable {front word rest : Text} {x : Run}

/-- A run that starts within a word between delimiters is that word, since a character passed over
between the delimiter and the run would be one of the word. -/
theorem IsRunOf.eq_word (h : IsRunOf (front ++ word ++ rest) x)
    (hword : ∀ c ∈ word, isDelimiter c = false)
    (hrest : ∀ c ∈ rest.head?, isDelimiter c = true)
    (hlower : front.length ≤ x.before.length)
    (hupper : x.before.length ≤ front.length + word.length) : x = ⟨front, word, rest⟩ := by
  obtain ⟨before, text, after⟩ := x
  simp only at hlower hupper
  have heq : front ++ (word ++ rest) = before ++ (text ++ after) := by
    have hline := h.line_eq
    simpa only [List.append_assoc] using hline
  obtain ⟨passed, rfl, hpassed⟩ : ∃ passed, before = front ++ passed ∧
      word ++ rest = passed ++ (text ++ after) := by
    rcases List.append_eq_append_iff.1 heq with
      ⟨passed, hbefore, hwhole⟩ | ⟨passed, hbefore, hwhole⟩
    · exact ⟨passed, hbefore, hwhole⟩
    · have hlength := congrArg List.length hbefore
      rw [List.length_append] at hlength
      obtain rfl : passed = [] := List.eq_nil_of_length_eq_zero (by omega)
      exact ⟨[], by rw [hbefore, List.append_nil, List.append_nil], hwhole.symm⟩
  have hnone : passed = [] := by
    by_contra hne
    have hlast := List.getLast?_eq_some_getLast hne
    have hpassedWord : passed <+: word := by
      refine List.prefix_of_prefix_length_le ⟨text ++ after, hpassed.symm⟩
        (List.prefix_append word rest) ?_
      rw [List.length_append] at hupper
      omega
    have hdelimiter := h.before_ends (passed.getLast hne) (by
      simp only [List.getLast?_append, hlast, Option.some_or, Option.mem_def])
    rw [hword _ (hpassedWord.subset (List.getLast_mem hne))] at hdelimiter
    cases hdelimiter
  subst hnone
  rw [List.nil_append] at hpassed
  have htext : word = text := by
    rw [← takeWhile_eq hword hrest, hpassed, takeWhile_eq h.free h.after_starts]
  subst htext
  obtain rfl : rest = after := List.append_cancel_left hpassed
  rw [List.append_nil]

/-- The runs that start within a word between delimiters. -/
theorem mem_word_iff (hfront : ∀ c ∈ front.getLast?, isDelimiter c = true)
    (hword : ∀ c ∈ word, isDelimiter c = false)
    (hrest : ∀ c ∈ rest.head?, isDelimiter c = true) :
    x ∈ ofWord front word rest ↔
      IsRunOf (front ++ word ++ rest) x ∧ front.length ≤ x.before.length ∧
        x.before.length ≤ front.length + word.length := by
  by_cases hempty : word = []
  · subst hempty
    refine iff_of_false List.not_mem_nil ?_
    rintro ⟨h, hlower, hupper⟩
    have heq := h.eq_word hword hrest hlower hupper
    exact h.ne_nil (by rw [heq])
  · rw [ofWord, if_neg (mt List.isEmpty_iff.1 hempty), List.mem_singleton]
    constructor
    · rintro rfl
      exact ⟨⟨rfl, hempty, hword, hfront, hrest⟩, Nat.le_refl _, Nat.le_add_right _ _⟩
    · rintro ⟨h, hlower, hupper⟩
      exact h.eq_word hword hrest hlower hupper

theorem pairwise_ofWord (before word after : Text) :
    (ofWord before word after).Pairwise fun x y => x.before.length < y.before.length := by
  unfold ofWord
  split
  · exact .nil
  · exact List.pairwise_singleton _ _

structure RunsFrom (line : Text) (position : Nat) (found : List Run) : Prop where
  sorted : found.Pairwise fun x y => x.before.length < y.before.length
  mem_iff : ∀ x, x ∈ found ↔ IsRunOf line x ∧ position ≤ x.before.length

/-- At the end of the line only its last word is left. -/
theorem runsFrom_ofWord (hfront : ∀ c ∈ front.getLast?, isDelimiter c = true)
    (hword : ∀ c ∈ word, isDelimiter c = false) :
    RunsFrom (front ++ word ++ []) front.length (ofWord front word []) := by
  refine ⟨pairwise_ofWord _ _ _, fun x => ?_⟩
  rw [mem_word_iff hfront hword (by simp)]
  constructor
  · rintro ⟨h, hlower, -⟩
    exact ⟨h, hlower⟩
  · rintro ⟨h, hlower⟩
    refine ⟨h, hlower, ?_⟩
    have hlength := congrArg List.length h.line_eq
    simp only [List.length_append, List.length_nil] at hlength
    omega

/-- A word that ends at a delimiter comes before the runs that start behind the delimiter. -/
theorem RunsFrom.ofWord_append {c : Char} {found : List Run}
    (h : RunsFrom (front ++ word ++ c :: rest) (front.length + word.length + 1) found)
    (hfront : ∀ d ∈ front.getLast?, isDelimiter d = true)
    (hword : ∀ d ∈ word, isDelimiter d = false) (hc : isDelimiter c = true) :
    RunsFrom (front ++ word ++ c :: rest) front.length (ofWord front word (c :: rest) ++ found) := by
  have hrest : ∀ d ∈ (c :: rest).head?, isDelimiter d = true := by
    simpa using hc
  have hhere {x : Run} := mem_word_iff (x := x) hfront hword hrest
  refine ⟨List.pairwise_append.2 ⟨pairwise_ofWord _ _ _, h.sorted, fun x hx y hy => ?_⟩,
    fun x => ?_⟩
  · have hx := (hhere.1 hx).2.2
    have hy := ((h.mem_iff y).1 hy).2
    omega
  · rw [List.mem_append, hhere, h.mem_iff]
    constructor
    · rintro (⟨hrun, hlower, -⟩ | ⟨hrun, hlower⟩)
      · exact ⟨hrun, hlower⟩
      · exact ⟨hrun, by omega⟩
    · rintro ⟨hrun, hlower⟩
      rcases Nat.lt_or_ge (front.length + word.length) x.before.length with hlt | hle
      · exact .inr ⟨hrun, hlt⟩
      · exact .inl ⟨hrun, hlower, hle⟩

/-- What the tokenizer hands out when a word ends. -/
theorem map_token_ofWord (front pending rest : Text) :
    (ofWord front pending.reverse rest).map token =
      if pending.isEmpty then []
      else [⟨front.length + pending.length - pending.length, pending.reverse⟩] := by
  rw [ofWord, List.isEmpty_reverse, Nat.add_sub_cancel]
  split <;> rfl

end Front

end Token.Run

namespace Token

open Run

/-- The tokenizer at work: `front` ends with the last delimiter, and the characters of `pending`
have been read since then. It hands out the runs of the line that start behind `front`. At a
delimiter the word ends and the next one starts behind it; other characters continue the word. -/
theorem exists_runs_of_ofRest {front pending : Text}
    (hfront : ∀ c ∈ front.getLast?, isDelimiter c = true)
    (hpending : ∀ c ∈ pending, isDelimiter c = false) (rest : Text) :
    ∃ found : List Run, ofRest (front.length + pending.length) pending rest = found.map token ∧
      RunsFrom (front ++ pending.reverse ++ rest) front.length found := by
  have hword {pending : Text} (hpending : ∀ c ∈ pending, isDelimiter c = false) :
      ∀ c ∈ pending.reverse, isDelimiter c = false :=
    fun c hc => hpending c (List.mem_reverse.1 hc)
  induction rest generalizing front pending with
  | nil =>
    refine ⟨ofWord front pending.reverse [], ?_, runsFrom_ofWord hfront (hword hpending)⟩
    rw [map_token_ofWord, ofRest]
  | cons c rest ih =>
    rw [ofRest]
    by_cases hc : isDelimiter c = true
    · have hfront' : ∀ d ∈ (front ++ pending.reverse ++ [c]).getLast?, isDelimiter d = true := by
        simpa using hc
      obtain ⟨found, heq, hfound⟩ := ih hfront' (List.forall_mem_nil _)
      have hlength : (front ++ pending.reverse ++ [c]).length =
          front.length + pending.reverse.length + 1 := by
        simp only [List.length_append, List.length_singleton]
      have hline : front ++ pending.reverse ++ [c] ++ [].reverse ++ rest =
          front ++ pending.reverse ++ c :: rest := by
        simp only [List.reverse_nil, List.append_nil, List.append_assoc, List.singleton_append]
      rw [hline, hlength] at hfound
      rw [hlength, List.length_reverse, List.length_nil, Nat.add_zero] at heq
      refine ⟨ofWord front pending.reverse (c :: rest) ++ found, ?_,
        hfound.ofWord_append hfront (hword hpending) hc⟩
      rw [if_pos hc, heq, List.map_append, map_token_ofWord]
    · have hc : isDelimiter c = false := Bool.eq_false_iff.2 hc
      have hlonger : ∀ d ∈ c :: pending, isDelimiter d = false :=
        List.forall_mem_cons.2 ⟨hc, hpending⟩
      obtain ⟨found, heq, hfound⟩ := ih hfront hlonger
      have hline : front ++ (c :: pending).reverse ++ rest =
          front ++ pending.reverse ++ c :: rest := by
        simp only [List.reverse_cons, List.append_assoc, List.singleton_append]
      rw [hline] at hfound
      refine ⟨found, ?_, hfound⟩
      rw [hc, ← heq]
      rfl

/-- The tokens of a line are its maximal runs, from left to right. -/
theorem exists_runs (line : Text) :
    ∃ found : List Run, ofLine line = found.map token ∧
      found.Pairwise (fun x y => x.before.length < y.before.length) ∧
      ∀ x, x ∈ found ↔ IsRunOf line x := by
  obtain ⟨found, heq, hfound⟩ := @exists_runs_of_ofRest [] [] (by simp) (by simp) line
  refine ⟨found, heq, hfound.sorted, fun x => ?_⟩
  exact (hfound.mem_iff x).trans (and_iff_left (Nat.zero_le _))

namespace Run

/-- The run passes every filter: it is not the part of an address behind its scheme, its length lies
within the bounds, it has a letter or a digit, it names nothing on the local machine, it is neither
all digits nor all lower-case letters, it contains no allowed text, and its entropy is high. -/
structure Passes (o : ScanOptions) (x : Run) : Prop where
  no_address : ¬ ("//".toList <+: x.text ∧
    ∃ scheme ∈ ["http:", "https:", "ftp:", "file:", "ws:", "wss:"],
      scheme.toList <:+ Text.toLowercase x.before)
  not_short : o.minTokenLength ≤ x.text.length
  not_long : x.text.length ≤ o.maxTokenLength
  alphanumeric : ∃ c ∈ x.text, Text.isAlphanumeric c = true
  not_local : ∀ name ∈ ["localhost", "127.0.0.1", "0.0.0.0", "::1"],
    ¬ name.toList <+: Text.toLowercase x.text
  not_digits : ∃ c ∈ x.text, c.isDigit = false
  not_lowercase : ∃ c ∈ x.text, Text.isLowercase c = false
  not_allowed : ∀ allowed ∈ o.allowed, ¬ allowed <:+: Text.toLowercase x.text
  high : Entropy.ofText x.text ≥ o.entropyThreshold

theorem followsScheme_iff (line : Text) (t : Token) :
    t.followsScheme line = true ↔ "//".toList <+: t.text ∧
      ∃ scheme ∈ ["http:", "https:", "ftp:", "file:", "ws:", "wss:"],
        scheme.toList <:+ Text.toLowercase (line.take t.start) := by
  simp only [followsScheme, schemes, Bool.and_eq_true, List.isPrefixOf_iff_prefix, List.any_map,
    List.any_eq_true, Function.comp_apply, List.isSuffixOf_iff_suffix]

theorem isCandidate_iff (o : ScanOptions) (text : Text) :
    isCandidate o text = true ↔ o.minTokenLength ≤ text.length ∧ text.length ≤ o.maxTokenLength ∧
      (∃ c ∈ text, Text.isAlphanumeric c = true) ∧
      (∀ name ∈ ["localhost", "127.0.0.1", "0.0.0.0", "::1"],
        ¬ name.toList <+: Text.toLowercase text) ∧
      (∃ c ∈ text, c.isDigit = false) ∧ (∃ c ∈ text, Text.isLowercase c = false) ∧
      ∀ allowed ∈ o.allowed, ¬ allowed <:+: Text.toLowercase text := by
  simp only [isCandidate, loopbacks, Bool.and_eq_true, decide_eq_true_eq, List.any_eq_true,
    Bool.not_eq_true', List.any_eq_false, List.all_eq_false, List.mem_map, forall_exists_index,
    and_imp, forall_apply_eq_imp_iff₂, List.isPrefixOf_iff_prefix, Text.occursIn_iff,
    Bool.not_eq_true, and_assoc]

/-- The filters let through what passes. -/
theorem passes_iff {o : ScanOptions} {line : Text} {x : Run} (hx : x.IsRunOf line) :
    x.Passes o ↔ x.token.followsScheme line = false ∧ isCandidate o x.text = true ∧
      Entropy.ofText x.text ≥ o.entropyThreshold := by
  have hbefore : line.take x.token.start = x.before := by
    rw [hx.line_eq, List.append_assoc]
    exact List.take_left
  rw [← Bool.not_eq_true, followsScheme_iff, hbefore, isCandidate_iff]
  constructor
  · intro h
    exact ⟨h.no_address, ⟨h.not_short, h.not_long, h.alphanumeric, h.not_local, h.not_digits,
      h.not_lowercase, h.not_allowed⟩, h.high⟩
  · rintro ⟨haddress, ⟨hshort, hlong, halphanumeric, hlocal, hdigits, hlowercase, hallowed⟩, hhigh⟩
    exact ⟨haddress, hshort, hlong, halphanumeric, hlocal, hdigits, hlowercase, hallowed, hhigh⟩

end Run

end Token

namespace Detector

open Token

/-- The tokens that look random are those of the runs that pass, with their entropies. -/
theorem randomTokens_eq (o : ScanOptions) (line : Text) :
    ∃ found : List Run, randomTokens o line =
        found.map (fun x => (x.token, Entropy.ofText x.text)) ∧
      found.Pairwise (fun x y => x.before.length < y.before.length) ∧
      ∀ x, x ∈ found ↔ isStatement line = false ∧ x.IsRunOf line ∧ x.Passes o := by
  cases hstatement : isStatement line with
  | true =>
    refine ⟨[], ?_, .nil, fun x => iff_of_false List.not_mem_nil ?_⟩
    · rw [randomTokens, if_pos hstatement, List.map_nil]
    · intro h
      cases h.1
  | false =>
    obtain ⟨runs, htokens, hsorted, hruns⟩ := exists_runs line
    refine ⟨runs.filter fun x => decide (Entropy.ofText x.text ≥ o.entropyThreshold) &&
      (!x.token.followsScheme line && isCandidate o x.text), ?_, hsorted.filter _, fun x => ?_⟩
    · rw [randomTokens, if_neg (Bool.eq_false_iff.1 hstatement), htokens, List.filter_map,
        List.filter_filter, List.filter_map, List.map_map]
      rfl
    · rw [List.mem_filter, hruns, Bool.and_eq_true, Bool.and_eq_true, Bool.not_eq_true',
        decide_eq_true_eq]
      constructor
      · rintro ⟨hx, hhigh, hscheme, hcandidate⟩
        exact ⟨rfl, hx, (Run.passes_iff hx).2 ⟨hscheme, hcandidate, hhigh⟩⟩
      · rintro ⟨-, hx, hpasses⟩
        obtain ⟨hscheme, hcandidate, hhigh⟩ := (Run.passes_iff hx).1 hpasses
        exact ⟨hx, hhigh, hscheme, hcandidate⟩

/-- What entropy finds in a line: nothing where the line reads like a statement, and otherwise one
finding for each run that passes, from left to right, which points at the place of this very run. -/
theorem scanHighEntropy_eq (line : Text) (number : Nat) (o : ScanOptions) :
    ∃ (statement : Pattern) (found : List Run), Pattern.compile statementSource = .ok statement ∧
      (∀ x, x ∈ found ↔
        statement.isMatch line = false ∧ x.IsRunOf line ∧ x.Passes o.sanitized) ∧
      found.Pairwise (fun x y => x.before.length < y.before.length) ∧
      (∀ x ∈ found,
        Text.columnAtByte line (Text.Utf8.encode x.before).length = x.before.length + 1) ∧
      scanHighEntropy line number o = found.map fun x =>
        { kind := "High Entropy String", ruleId := "high_entropy_string", line := number,
          column := some (x.before.length + 1), matched := x.text, content := Text.trim line,
          description := "High-entropy string (".toList ++
            Decimal.fixed 2 (Entropy.ofText x.text) ++
            " bits/char); possibly a hardcoded secret".toList,
          severity := .medium, file := none, entropy := some (Entropy.ofText x.text) } := by
  have hcompiles : statement?.isSome = true := by decide +kernel
  obtain ⟨statement, hstatement⟩ := Option.isSome_iff_exists.1 hcompiles
  obtain ⟨found, htokens, hsorted, hfound⟩ := randomTokens_eq o.sanitized line
  have hcode : isStatement line = statement.isMatch line := by
    rw [isStatement, hstatement, Option.any_some]
  refine ⟨statement, found, toOption_eq_some_iff.1 hstatement, ?_, hsorted, fun x hx => ?_, ?_⟩
  · rw [← hcode]
    exact hfound
  · have hline := ((hfound x).1 hx).2.1.line_eq
    rw [hline, List.append_assoc, Text.columnAtByte_append]
  · rw [scanHighEntropy, highEntropy_scanLine, htokens, List.map_map]
    rfl

def repeatedTokens : Text := "ключ AB12AB12 AB12AB12"

/-- Each of the two tokens is found at its own place. -/
theorem scanHighEntropy_repeatedTokens :
    ∃ found : List Run,
      ⟨"ключ ".toList, "AB12AB12".toList, " AB12AB12".toList⟩ ∈ found ∧
      ⟨"ключ AB12AB12 ".toList, "AB12AB12".toList, []⟩ ∈ found ∧
      (scanHighEntropy repeatedTokens 3 Scanner.tokenKeyDisabled).map
          (fun f => (f.line, f.column, f.matched)) =
        found.map (fun x => (3, some (x.before.length + 1), x.text)) ∧
      (scanHighEntropy repeatedTokens 3 Scanner.tokenKeyDisabled).map (·.column) =
        [some 6, some 15] := by
  obtain ⟨statement, found, hstatement, hfound, -, -, heq⟩ :=
    scanHighEntropy_eq repeatedTokens 3 Scanner.tokenKeyDisabled
  have hcode : statement.isMatch repeatedTokens = false := by
    have hcompiles : (Pattern.compile statementSource).toOption.any
        (fun p => p.isMatch repeatedTokens) = false := by decide +kernel
    rw [hstatement] at hcompiles
    exact hcompiles
  have hfirst : Run.IsRunOf repeatedTokens
      ⟨"ключ ".toList, "AB12AB12".toList, " AB12AB12".toList⟩ :=
    Run.isRunOf_iff.2 (by decide +kernel)
  have hsecond : Run.IsRunOf repeatedTokens
      ⟨"ключ AB12AB12 ".toList, "AB12AB12".toList, []⟩ :=
    Run.isRunOf_iff.2 (by decide +kernel)
  refine ⟨found, (hfound _).2 ⟨hcode, hfirst, (Run.passes_iff hfirst).2 ?_⟩,
    (hfound _).2 ⟨hcode, hsecond, (Run.passes_iff hsecond).2 ?_⟩, ?_, ?_⟩
  · decide +kernel
  · decide +kernel
  · rw [heq, List.map_map]
    rfl
  · decide +kernel

end Detector

end SecretScan
