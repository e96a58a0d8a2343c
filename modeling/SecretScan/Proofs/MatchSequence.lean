import SecretScan.Detector.Signatures
import SecretScan.Proofs.PatternSpan

/-!
The matches of a signature on a line. Searching again behind each match gives a sequence that does
not depend on any limit: it is finite, since a search goes on at least one character further even
behind an empty match, and its matches follow each other without overlap. A report takes the
beginning of this sequence, as far as the limit allows, and advises exactly when that is not all.
-/

namespace SecretScan

namespace Match

/-- The matches found from a position on: those of a first search and, after a match, those found
behind it, until a search finds nothing. -/
inductive Successive (search : Nat → Option Match) : Nat → List Match → Prop
  | done {position : Nat} (h : search position = none) : Successive search position []
  | found {position : Nat} {m : Match} {rest : List Match} (h : search position = some m)
      (hrest : Successive search m.nextStart rest) : Successive search position (m :: rest)

/-- The text is what the line has within the first group of the match or, when this group took no
part, within the whole match. -/
def Captures (line : Text) (m : Match) (text : Text) : Prop :=
  ∃ pre suffix, line = pre ++ text ++ suffix ∧
    ((m.group? 1 = some (pre.length, pre.length + text.length) ∧
        m.start ≤ pre.length ∧ pre.length + text.length ≤ m.stop) ∨
      (m.group? 1 = none ∧ m.start = pre.length ∧ m.stop = pre.length + text.length))

theorem start_lt_nextStart {m : Match} (h : m.start ≤ m.stop) : m.start < m.nextStart := by
  unfold nextStart
  split <;> omega

theorem stop_le_nextStart (m : Match) : m.stop ≤ m.nextStart := by
  unfold nextStart
  split <;> omega

section Search

variable {search : Nat → Option Match} {length : Nat}

namespace InLine

theorem lt_nextStart (h : InLine search length) {position : Nat} {m : Match}
    (hm : search position = some m) : position < m.nextStart :=
  Nat.lt_of_le_of_lt (h.le_start position m hm) (start_lt_nextStart (h.start_le_stop position m hm))

theorem position_le (h : InLine search length) {position : Nat} {m : Match}
    (hm : search position = some m) : position ≤ length :=
  Nat.le_trans (h.le_start position m hm)
    (Nat.le_trans (h.start_le_stop position m hm) (h.stop_le position m hm))

/-- Searching comes to an end: the part of the line that is left gets shorter. -/
theorem exists_successive (h : InLine search length) (position : Nat) :
    ∃ found, Successive search position found := by
  cases hm : search position with
  | none => exact ⟨[], .done hm⟩
  | some m =>
    have hposition := h.position_le hm
    have hnext := h.lt_nextStart hm
    obtain ⟨rest, hrest⟩ := h.exists_successive m.nextStart
    exact ⟨m :: rest, .found hm hrest⟩
termination_by length + 1 - position

end InLine

namespace Successive

variable {position : Nat} {found : List Match}

theorem eq_of_successive {other : List Match} (h : Successive search position found)
    (h' : Successive search position other) : other = found := by
  induction h generalizing other with
  | done h =>
    cases h' with
    | done => rfl
    | found h' => rw [h] at h'; cases h'
  | found h hrest ih =>
    cases h' with
    | done h' => rw [h] at h'; cases h'
    | found h' hrest' =>
      rw [h] at h'
      obtain rfl := Option.some.inj h'
      rw [ih hrest']

theorem exists_search (h : Successive search position found) {m : Match} (hm : m ∈ found) :
    ∃ p, search p = some m := by
  induction h with
  | done => cases hm
  | found h hrest ih =>
    rcases List.mem_cons.1 hm with rfl | hm
    · exact ⟨_, h⟩
    · exact ih hm

theorem le_start (h : Successive search position found) (hline : InLine search length)
    {m : Match} (hm : m ∈ found) : position ≤ m.start := by
  induction h with
  | done => cases hm
  | found h hrest ih =>
    rcases List.mem_cons.1 hm with rfl | hm
    · exact hline.le_start _ _ h
    · exact Nat.le_trans (Nat.le_of_lt (hline.lt_nextStart h)) (ih hm)

theorem pairwise (h : Successive search position found) (hline : InLine search length) :
    found.Pairwise fun m n => m.start < n.start ∧ m.stop ≤ n.start := by
  induction h with
  | done => exact .nil
  | @found position m rest h hrest ih =>
    refine List.pairwise_cons.2 ⟨fun n hn => ?_, ih⟩
    have hnext := hrest.le_start hline hn
    have hstart := start_lt_nextStart (hline.start_le_stop position m h)
    have hstop := stop_le_nextStart m
    omega

/-- Each match takes up a position of its own, the end of the line included. -/
theorem length_le (h : Successive search position found) (hline : InLine search length) :
    found.length ≤ length + 1 - position := by
  induction h with
  | done => simp
  | @found position m rest h hrest ih =>
    have hposition := hline.position_le h
    have hnext := hline.lt_nextStart h
    simp only [List.length_cons]
    omega

/-- A bounded search finds the beginning of the sequence. -/
theorem sequence_eq_take (h : Successive search position found) (hline : InLine search length)
    (count : Nat) : Match.sequence search length count position = found.take count := by
  induction h generalizing count with
  | @done position h =>
    cases count with
    | zero => rfl
    | succ count => simp [Match.sequence, h]
  | @found position m rest h hrest ih =>
    cases count with
    | zero => rfl
    | succ count =>
      have hposition : ¬ length < position := Nat.not_lt.2 (hline.position_le h)
      simp only [Match.sequence, if_neg hposition, h, ih count, List.take_succ_cons]

end Successive

end Search

end Match

/-- The text between two positions, with what stands on its two sides. -/
theorem Text.exists_slice {line : Text} {start stop : Nat} (hle : start ≤ stop)
    (hstop : stop ≤ line.length) :
    ∃ pre suffix, line = pre ++ slice line start stop ++ suffix ∧ pre.length = start ∧
      pre.length + (slice line start stop).length = stop := by
  refine ⟨line.take start, (line.drop start).drop (stop - start), ?_, ?_, ?_⟩
  · rw [slice, List.append_assoc, List.take_append_drop, List.take_append_drop]
  · rw [List.length_take]
    omega
  · rw [slice, List.length_take, List.length_take, List.length_drop]
    omega

namespace Signature

/-- What a finding reports as its match is the text of the first group or of the whole match. -/
theorem captures_captured {search : Nat → Option Match} {line : Text}
    (hline : Match.InLine search line.length) {position : Nat} {m : Match}
    (hm : search position = some m) : m.Captures line (captured line m) := by
  have hle := hline.start_le_stop position m hm
  have hstop := hline.stop_le position m hm
  unfold captured
  cases hgroup : m.group? 1 with
  | none =>
    obtain ⟨pre, suffix, heq, hpre, hlength⟩ := Text.exists_slice hle hstop
    exact ⟨pre, suffix, heq, .inr ⟨hgroup, hpre.symm, hlength.symm⟩⟩
  | some bounds =>
    obtain ⟨first, last⟩ := bounds
    have hinside := hline.group position m hm first last hgroup
    obtain ⟨pre, suffix, heq, hpre, hlength⟩ :=
      Text.exists_slice hinside.2.1 (Nat.le_trans hinside.2.2 hstop)
    refine ⟨pre, suffix, heq, .inl ⟨?_, ?_, ?_⟩⟩
    · rw [hgroup, hlength, hpre]
    · rw [hpre]
      exact hinside.1
    · rw [hlength]
      exact hinside.2.2

/-- A report is the part of the sequence of matches within the limit, with an advisory when there
is more. -/
theorem report_eq_of_successive (s : Signature) {search : Nat → Option Match} {line : Text}
    (hline : Match.InLine search line.length) {found : List Match}
    (h : Match.Successive search 0 found) (limit number : Nat) :
    s.report search limit line number =
      ⟨(found.take limit).map (s.finding line (Text.trim line) number),
        if limit < found.length then [⟨s.key, number, limit, none⟩] else []⟩ := by
  have hlength : limit < (found.take (limit + 1)).length ↔ limit < found.length := by
    rw [List.length_take]
    omega
  simp only [report, h.sequence_eq_take hline, List.take_take, hlength,
    Nat.min_eq_left (Nat.le_succ limit)]

def allMatches (s : Signature) (line : Text) : List Match :=
  Match.sequence (s.pattern.matchFrom? line) line.length (line.length + 1) 0

theorem successive_allMatches (s : Signature) (line : Text) :
    Match.Successive (s.pattern.matchFrom? line) 0 (s.allMatches line) := by
  have hline := s.pattern.inLine_matchFrom? line
  obtain ⟨found, hfound⟩ := hline.exists_successive 0
  have hlength : found.length ≤ line.length + 1 := hfound.length_le hline
  rw [allMatches, hfound.sequence_eq_take hline, List.take_of_length_le hlength]
  exact hfound

theorem scanLine_eq (s : Signature) (limit : Nat) (line : Text) (number : Nat) :
    s.scanLine limit line number =
      ⟨((s.allMatches line).take limit).map (s.finding line (Text.trim line) number),
        if limit < (s.allMatches line).length then [⟨s.key, number, limit, none⟩] else []⟩ :=
  s.report_eq_of_successive (s.pattern.inLine_matchFrom? line) (s.successive_allMatches line)
    limit number

/-- Whatever search keeps to the line: its successive matches are finitely many and do not overlap,
and the report has one finding for each of them up to the limit, and an advisory for the limit
exactly when there are more. -/
theorem report_eq_take (s : Signature) {search : Nat → Option Match} {line : Text}
    (hline : Match.InLine search line.length) (limit number : Nat) :
    ∃ found : List Match,
      (∀ other, Match.Successive search 0 other ↔ other = found) ∧
      found.length ≤ line.length + 1 ∧
      (found.Pairwise fun m n => m.start < n.start ∧ m.stop ≤ n.start) ∧
      (∀ m ∈ found, m.Captures line (captured line m)) ∧
      (s.report search limit line number).findings =
        (found.take limit).map (fun m =>
          { kind := s.name, ruleId := s.key, line := number, column := some (m.start + 1),
            matched := captured line m, content := Text.trim line,
            description := s.description, severity := s.severity, file := none,
            entropy := none }) ∧
      (s.report search limit line number).advisories =
        if limit < found.length then [⟨s.key, number, limit, none⟩] else [] := by
  obtain ⟨found, hfound⟩ := hline.exists_successive 0
  have hreport := s.report_eq_of_successive hline hfound limit number
  refine ⟨found, fun other => ⟨hfound.eq_of_successive, fun h => h ▸ hfound⟩,
    hfound.length_le hline, hfound.pairwise hline, fun m hm => ?_, ?_, ?_⟩
  · obtain ⟨position, hm⟩ := hfound.exists_search hm
    exact captures_captured hline hm
  · rw [hreport]
    rfl
  · rw [hreport]

def runs (letter : Char) : Signature where
  key := "runs"
  name := "Runs"
  severity := .low
  description := "Runs of a letter"
  pattern := ⟨[letter, '*'], 0, .span 0 (.single letter) 0 none true⟩

/-- In `baac` the runs of `a` are empty, then `aa`, then empty twice: directly behind `aa` and at
the end of the line. Three of them leave something out and four do not. -/
theorem report_eq_take_runs :
    Match.InLine ((runs 'a').pattern.matchFrom? "baac".toList) 4 ∧
      (∃ found : List Match,
        (∀ other, Match.Successive ((runs 'a').pattern.matchFrom? "baac".toList) 0 other ↔
          other = found) ∧
        ((runs 'a').report ((runs 'a').pattern.matchFrom? "baac".toList) 3 "baac".toList 7).findings
          = (found.take 3).map ((runs 'a').finding "baac".toList "baac".toList 7)) ∧
      ((runs 'a').scanLine 3 "baac".toList 7).findings.map (fun f => (f.column, f.matched)) =
        [(some 1, []), (some 2, ['a', 'a']), (some 4, [])] ∧
      ((runs 'a').scanLine 3 "baac".toList 7).advisories = [⟨"runs", 7, 3, none⟩] ∧
      ((runs 'a').scanLine 4 "baac".toList 7).advisories = [] := by
  have hline := (runs 'a').pattern.inLine_matchFrom? "baac".toList
  obtain ⟨found, hfound, -, -, -, hfindings, -⟩ := report_eq_take (runs 'a') hline 3 7
  exact ⟨hline, ⟨found, hfound, hfindings⟩, by decide, by decide +kernel,
    by decide⟩

end Signature

end SecretScan
