import SecretScan.Decimal.Fixed
import SecretScan.Detector.Basic
import SecretScan.Entropy
import SecretScan.Options
import SecretScan.Pattern.Basic

/-!
Detection of tokens that look random. A line that reads like a statement of a program is passed
over; any other line is cut into tokens at blanks, quotes and brackets, and a token is reported when
it is a candidate and its entropy reaches the threshold.
-/

namespace SecretScan

/-- A maximal run of characters that delimit nothing, and the number of characters before it. -/
structure Token where
  start : Nat
  text : Text
deriving DecidableEq, Repr

namespace Token

def isDelimiter (c : Char) : Bool :=
  Text.isWhitespace c || ("'\"=:,;()\x7b\x7d[]<>".toList).contains c

/-- The tokens of the rest of a line. `pending` are the characters of the current token, the last
one first, and `index` counts the characters read. -/
def ofRest (index : Nat) (pending : Text) : Text → List Token
  | [] => if pending.isEmpty then [] else [⟨index - pending.length, pending.reverse⟩]
  | c :: rest =>
    if isDelimiter c then
      (if pending.isEmpty then [] else [⟨index - pending.length, pending.reverse⟩]) ++
        ofRest (index + 1) [] rest
    else ofRest (index + 1) (c :: pending) rest

def ofLine (line : Text) : List Token :=
  ofRest 0 [] line

/-- Tokens stand where they start: in what was read of the line already, which ends with `pending`,
or in the rest. -/
theorem exists_split_of_mem_ofRest {index : Nat} {pending rest : Text} {t : Token}
    (ht : t ∈ ofRest index pending rest) :
    ∃ pre post, pending.reverse ++ rest = pre ++ t.text ++ post ∧
      t.start = index + pre.length - pending.length := by
  have hhere {index : Nat} {pending rest : Text} (ht : t ∈ if pending.isEmpty then []
      else [Token.mk (index - pending.length) pending.reverse]) :
      ∃ pre post, pending.reverse ++ rest = pre ++ t.text ++ post ∧
        t.start = index + pre.length - pending.length := by
    split at ht
    · cases ht
    · obtain rfl := List.mem_singleton.1 ht
      exact ⟨[], rest, rfl, rfl⟩
  induction rest generalizing index pending with
  | nil => exact hhere ht
  | cons c rest ih =>
    rw [ofRest] at ht
    by_cases hc : isDelimiter c = true
    · rw [if_pos hc] at ht
      rcases List.mem_append.1 ht with ht | ht
      · exact hhere ht
      · obtain ⟨pre, post, heq, hstart⟩ := ih ht
        rw [List.reverse_nil, List.nil_append] at heq
        refine ⟨pending.reverse ++ c :: pre, post, ?_, ?_⟩
        · simp only [heq, List.append_assoc, List.cons_append]
        · simp only [hstart, List.length_nil, List.length_append, List.length_reverse,
            List.length_cons]
          omega
    · rw [if_neg hc] at ht
      obtain ⟨pre, post, heq, hstart⟩ := ih ht
      rw [List.reverse_cons, List.append_assoc, List.singleton_append] at heq
      refine ⟨pre, post, heq, ?_⟩
      rw [hstart, List.length_cons]
      omega

theorem exists_split_of_mem_ofLine {line : Text} {t : Token} (ht : t ∈ ofLine line) :
    ∃ pre post, line = pre ++ t.text ++ post ∧ pre.length = t.start := by
  obtain ⟨pre, post, heq, hstart⟩ := exists_split_of_mem_ofRest ht
  rw [Nat.zero_add] at hstart
  exact ⟨pre, post, heq, hstart.symm⟩

def schemes : List Text :=
  ["http:", "https:", "ftp:", "file:", "ws:", "wss:"].map String.toList

def followsScheme (line : Text) (t : Token) : Bool :=
  "//".toList.isPrefixOf t.text &&
    let before := Text.toLowercase (line.take t.start)
    schemes.any fun scheme => scheme.isSuffixOf before

def loopbacks : List Text :=
  ["localhost", "127.0.0.1", "0.0.0.0", "::1"].map String.toList

def isCandidate (o : ScanOptions) (token : Text) : Bool :=
  let lower := Text.toLowercase token
  o.minTokenLength ≤ token.length && token.length ≤ o.maxTokenLength &&
    token.any Text.isAlphanumeric &&
    !(loopbacks.any fun start => start.isPrefixOf lower) &&
    !token.all Char.isDigit &&
    !token.all Text.isLowercase &&
    !(o.allowed.any fun allowed => Text.occursIn allowed lower)

end Token

namespace Detector

def highEntropyKey : Text := "high_entropy_string"

def statementSource : Text :=
  "^\\s*(?:(?://|#|/\\*|\\*|--)\\s*)?(?:import|from|export|function|class|def|if|else|for|" ++
  "while|return|switch|case)\\b"

def statement? : Option Pattern :=
  (Pattern.compile statementSource).toOption

def isStatement (line : Text) : Bool :=
  statement?.any fun pattern => pattern.isMatch line

def tokenFinding (content : Text) (number : Nat) (t : Token) (entropy : Float) : Finding where
  kind := "High Entropy String"
  ruleId := highEntropyKey
  line := number
  column := some (t.start + 1)
  matched := t.text
  content := content
  description := "High-entropy string (".toList ++ Decimal.fixed 2 entropy ++
    " bits/char); possibly a hardcoded secret".toList
  severity := .medium
  file := none
  entropy := some entropy

def randomTokens (o : ScanOptions) (line : Text) : List (Token × Float) :=
  if isStatement line then []
  else
    ((Token.ofLine line).filter fun t => !t.followsScheme line && Token.isCandidate o t.text)
      |>.map (fun t => (t, Entropy.ofText t.text))
      |>.filter fun (_, entropy) => entropy ≥ o.entropyThreshold

theorem mem_randomTokens {o : ScanOptions} {line : Text} {t : Token} {entropy : Float} :
    (t, entropy) ∈ randomTokens o line ↔ isStatement line = false ∧ t ∈ Token.ofLine line ∧
      t.followsScheme line = false ∧ Token.isCandidate o t.text = true ∧
      entropy = Entropy.ofText t.text ∧ entropy ≥ o.entropyThreshold := by
  unfold randomTokens
  by_cases hstatement : isStatement line = true
  · rw [if_pos hstatement, hstatement]
    simp only [List.not_mem_nil, Bool.true_eq_false, false_and]
  · rw [if_neg hstatement, Bool.eq_false_iff.2 hstatement]
    simp only [List.mem_filter, List.mem_map, Prod.mk.injEq, Bool.and_eq_true, Bool.not_eq_true',
      decide_eq_true_eq, true_and]
    constructor
    · rintro ⟨⟨t, ⟨hline, hscheme, hcandidate⟩, rfl, rfl⟩, hthreshold⟩
      exact ⟨hline, hscheme, hcandidate, rfl, hthreshold⟩
    · rintro ⟨hline, hscheme, hcandidate, rfl, hthreshold⟩
      exact ⟨⟨t, ⟨hline, hscheme, hcandidate⟩, rfl, rfl⟩, hthreshold⟩

def highEntropy (o : ScanOptions) : Detector :=
  let o := o.sanitized
  { name := "EntropyRecognizer"
    scanLine := fun line number =>
      let content := Text.trim line
      ⟨(randomTokens o line).map fun (t, entropy) => tokenFinding content number t entropy, []⟩ }

end Detector

def scanHighEntropy (line : Text) (number : Nat) (o : ScanOptions) : List Finding :=
  ((Detector.highEntropy o).scanLine line number).findings

end SecretScan
