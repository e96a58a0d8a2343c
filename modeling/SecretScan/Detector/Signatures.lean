import SecretScan.Detector.Basic
import SecretScan.Options
import SecretScan.Signature.Catalog

/-!
Detection by signatures, built-in and custom. The matches of a signature on a line are taken from
left to right without overlap, up to a limit; when there is one match more than the limit allows,
an advisory says so.
-/

namespace SecretScan

/-- The position from which the search goes on after a match: its end, or one further when the
match is empty. -/
def Match.nextStart (m : Match) : Nat :=
  if m.start < m.stop then m.stop else m.stop + 1

/-- The first `count` matches from a position on, given a search for the leftmost match at or after
a position of a line with `length` characters. -/
def Match.sequence (search : Nat → Option Match) (length : Nat) : Nat → Nat → List Match
  | 0, _ => []
  | count + 1, position =>
    if length < position then []
    else match search position with
      | none => []
      | some m => m :: Match.sequence search length count m.nextStart

namespace Signature

/-- What a match captures: the first group if it took part, else the whole match. -/
def captured (line : Text) (m : Match) : Text :=
  match m.group? 1 with
  | some (start, stop) => Text.slice line start stop
  | none => Text.slice line m.start m.stop

def finding (s : Signature) (line content : Text) (number : Nat) (m : Match) : Finding where
  kind := s.name
  ruleId := s.key
  line := number
  column := some (m.start + 1)
  matched := captured line m
  content := content
  description := s.description
  severity := s.severity
  file := none
  entropy := none

def report (s : Signature) (search : Nat → Option Match) (limit : Nat) (line : Text)
    (number : Nat) : ScanReport :=
  let found := Match.sequence search line.length (limit + 1) 0
  let content := Text.trim line
  { findings := (found.take limit).map (s.finding line content number)
    advisories := if limit < found.length then [⟨s.key, number, limit, none⟩] else [] }

def scanLine (s : Signature) (limit : Nat) (line : Text) (number : Nat) : ScanReport :=
  s.report (s.pattern.matchFrom? line) limit line number

def scanLineAll (signatures : List Signature) (limit : Nat) (line : Text) (number : Nat) :
    ScanReport :=
  .concat (signatures.map fun s => s.scanLine limit line number)

end Signature

namespace CustomPattern

def compile (index : Nat) (p : CustomPattern) : Except PatternError Signature :=
  Signature.Definition.compile
    { key := p.key index
      name := p.name
      severity := p.severity
      description :=
        p.description.getD ("Matches custom pattern '".toList ++ p.name ++ "'".toList)
      pattern := p.regex }

end CustomPattern

namespace ScanOptions

def builtinSignatures (o : ScanOptions) : List Signature :=
  Signature.builtin.filter fun s => o.isEnabled s.key

/-- The custom signatures that compile and are not switched off. Places are counted before any
pattern is dropped. -/
def customSignatures (o : ScanOptions) : List Signature :=
  (o.customPatterns.zipIdx.filterMap fun (p, index) => (p.compile index).toOption).filter
    fun s => o.isEnabled s.key

end ScanOptions

namespace Detector

def builtin (o : ScanOptions) : Detector :=
  ⟨"PatternRecognizer", Signature.scanLineAll o.builtinSignatures o.maxIterations⟩

def custom (o : ScanOptions) : Detector :=
  ⟨"CustomRecognizer", Signature.scanLineAll o.customSignatures o.maxIterations⟩

end Detector

def scanBuiltin (content : Text) (o : ScanOptions) : ScanReport :=
  (Detector.builtin o.sanitized).scanText content

end SecretScan
