import SecretScan.Pattern.Error
import SecretScan.Pattern.Tree
import SecretScan.Text.Letter

/-!
The reading head of the pattern parser, and the parts of a pattern that do not nest: white space and
comments in spaced patterns, numbers, escapes, flags and group names. Each reader takes the head at
the first character of its part and leaves it behind the last one.
-/

namespace SecretScan

structure PatternReader where
  rest : Text
  spaced : Bool
  names : List Text
  groups : Nat

namespace PatternReader

def plain (c : Char) : Literal := ⟨c, false⟩

def skipBlanks (inComment : Bool) : Text → Text
  | [] => []
  | c :: rest =>
    if inComment then skipBlanks (c != '\n') rest
    else if Text.isWhitespace c then skipBlanks false rest
    else if c == '#' then skipBlanks true rest
    else c :: rest

def skipSpace (r : PatternReader) : PatternReader :=
  if r.spaced then { r with rest := skipBlanks false r.rest } else r

def next (r : PatternReader) : PatternReader :=
  { r with rest := r.rest.drop 1 }

def nextSkip (r : PatternReader) : PatternReader :=
  r.next.skipSpace

def after? (start : Text) (r : PatternReader) : Option PatternReader :=
  if start.isPrefixOf r.rest then some { r with rest := r.rest.drop start.length } else none

/-- The character after the current one, blanks skipped where the pattern is spaced. A number sign
is passed over together with the white space after it. -/
def peekSpace (r : PatternReader) : Option Char :=
  let tail := r.rest.drop 1
  if !r.spaced then tail.head?
  else match tail.dropWhile Text.isWhitespace with
    | [] => tail.head?
    | '#' :: more =>
      match more.dropWhile Text.isWhitespace with
      | [] => tail.head?
      | c :: _ => some c
    | c :: _ => some c

def digits : Nat → Text → PatternReader → Text × PatternReader
  | 0, found, r => (found.reverse, r)
  | fuel + 1, found, r =>
    match r.rest with
    | c :: _ => if c.isDigit then digits fuel (c :: found) r.nextSkip else (found.reverse, r)
    | [] => (found.reverse, r)

def valueOf (base : Nat) (digitOf : Char → Nat) (s : Text) : Nat :=
  s.foldl (fun n c => n * base + digitOf c) 0

def hexDigit (c : Char) : Nat :=
  if c.isDigit then c.toNat - 48 else if 'a' ≤ c then c.toNat - 87 else c.toNat - 55

def isHexDigit (c : Char) : Bool :=
  c.isDigit || ('a' ≤ c && c ≤ 'f') || ('A' ≤ c && c ≤ 'F')

/-- Reads a decimal number, around which white space may stand. There is no number at all when no
digit follows, and the number is wrong when it does not fit 32 bits. -/
def decimal (r : PatternReader) : Except PatternError Nat × PatternReader :=
  let r := { r with rest := r.rest.dropWhile Text.isWhitespace }
  let (found, r) := digits r.rest.length [] r
  let r := { r with rest := r.rest.dropWhile Text.isWhitespace }
  let value := valueOf 10 hexDigit found
  if found.isEmpty then (.error .repetitionCountEmpty, r)
  else if value < 0x100000000 then (.ok value, r)
  else (.error .decimalInvalid, r)

def hexChar (found : Text) : Except PatternError Char :=
  let code := valueOf 16 hexDigit found
  if h : code.isValidChar then .ok (Char.ofNatAux code h) else .error .hexInvalid

def hexFixed : Nat → Text → PatternReader → Except PatternError (Text × PatternReader)
  | 0, found, r => .ok (found.reverse, r)
  | count + 1, found, r =>
    match r.rest with
    | [] => .error .escapeUnexpectedEnd
    | c :: _ =>
      if isHexDigit c then hexFixed count (c :: found) r.nextSkip else .error .hexInvalidDigit

def hexBraced : Nat → Text → PatternReader → Except PatternError (Text × PatternReader)
  | 0, _, _ => .error .escapeUnexpectedEnd
  | fuel + 1, found, r =>
    match r.rest with
    | [] => .error .escapeUnexpectedEnd
    | '\x7d' :: _ => .ok (found.reverse, r)
    | c :: _ =>
      if isHexDigit c then hexBraced fuel (c :: found) r.nextSkip else .error .hexInvalidDigit

def hexEscape (count : Nat) (r : PatternReader) :
    Except PatternError (Literal × PatternReader) := do
  let r := r.nextSkip
  match r.rest with
  | [] => .error .escapeUnexpectedEnd
  | '\x7b' :: _ =>
    let r := r.nextSkip
    let (found, r) ← hexBraced (r.rest.length + 1) [] r
    if found.isEmpty then .error .hexEmpty
    else
      let c ← hexChar found
      .ok (plain c, r.nextSkip)
  | _ =>
    let (found, r) ← hexFixed count [] r
    let c ← hexChar found
    .ok (⟨c, count == 2⟩, r)

def propertyName : Nat → Text → PatternReader → Except PatternError (Text × PatternReader)
  | 0, _, _ => .error .escapeUnexpectedEnd
  | fuel + 1, found, r =>
    match r.rest with
    | [] => .error .escapeUnexpectedEnd
    | '\x7d' :: _ => .ok (found.reverse, r)
    | c :: _ => propertyName fuel (c :: found) r.nextSkip

def property (r : PatternReader) : Except PatternError (Text × PatternReader) := do
  let r := r.nextSkip
  match r.rest with
  | [] => .error .escapeUnexpectedEnd
  | '\x7b' :: _ =>
    let r := r.nextSkip
    let (name, r) ← propertyName (r.rest.length + 1) [] r
    .ok (name, r.next)
  | '\\' :: _ => .error .propertyInvalid
  | c :: _ => .ok ([c], r.nextSkip)

def isMeta (c : Char) : Bool :=
  ("\\.+*?()|[]\x7b\x7d^$#&-~".toList).contains c

def isEscapable (c : Char) : Bool :=
  isMeta c || (Text.isAscii c && !c.isAlphanum && c != '<' && c != '>')

def isBoundaryLetter (c : Char) : Bool :=
  c.isAlpha || c == '-'

def boundaryName : Nat → Text → PatternReader → Text × PatternReader
  | 0, found, r => (found.reverse, r)
  | fuel + 1, found, r =>
    match r.rest with
    | c :: _ =>
      if isBoundaryLetter c then boundaryName fuel (c :: found) r.nextSkip else (found.reverse, r)
    | [] => (found.reverse, r)

/-- Reads what may follow `\b` in braces. Braces that do not begin with a letter are left for the
counted repetition. -/
def boundary (r : PatternReader) : Except PatternError (Assertion × PatternReader) :=
  match r.rest with
  | '\x7b' :: _ =>
    let inner := r.nextSkip
    match inner.rest with
    | [] => .error .boundaryOrRepetitionUnexpectedEnd
    | c :: _ =>
      if !isBoundaryLetter c then .ok (.boundary, r)
      else
        let (name, inner) := boundaryName inner.rest.length [] inner
        match inner.rest with
        | '\x7d' :: _ =>
          if name == "start".toList then .ok (.wordStart, inner.next)
          else if name == "end".toList then .ok (.wordEnd, inner.next)
          else if name == "start-half".toList then .ok (.wordStartHalf, inner.next)
          else if name == "end-half".toList then .ok (.wordEndHalf, inner.next)
          else .error .boundaryUnrecognized
        | _ => .error .boundaryUnclosed
  | _ => .ok (.boundary, r)

inductive Escape where
  | literal (l : Literal)
  | assertion (a : Assertion)
  | short (cls : ShortClass) (negated : Bool)
  | property (name : Text) (negated : Bool)

def escape (r : PatternReader) : Except PatternError (Escape × PatternReader) := do
  let r := r.next
  match r.rest with
  | [] => .error .escapeUnexpectedEnd
  | c :: _ =>
    let after := r.next
    match c with
    | 'x' => let (l, r) ← hexEscape 2 r; .ok (.literal l, r)
    | 'u' => let (l, r) ← hexEscape 4 r; .ok (.literal l, r)
    | 'U' => let (l, r) ← hexEscape 8 r; .ok (.literal l, r)
    | 'p' => let (name, r) ← property r; .ok (.property name false, r)
    | 'P' => let (name, r) ← property r; .ok (.property name true, r)
    | 'd' => .ok (.short .digit false, after)
    | 's' => .ok (.short .space false, after)
    | 'w' => .ok (.short .word false, after)
    | 'D' => .ok (.short .digit true, after)
    | 'S' => .ok (.short .space true, after)
    | 'W' => .ok (.short .word true, after)
    | 'a' => .ok (.literal (plain '\x07'), after)
    | 'f' => .ok (.literal (plain '\x0c'), after)
    | 't' => .ok (.literal (plain '\t'), after)
    | 'n' => .ok (.literal (plain '\n'), after)
    | 'r' => .ok (.literal (plain '\r'), after)
    | 'v' => .ok (.literal (plain '\x0b'), after)
    | 'A' => .ok (.assertion .textStart, after)
    | 'z' => .ok (.assertion .textEnd, after)
    | 'b' => let (a, r) ← boundary after; .ok (.assertion a, r)
    | 'B' => .ok (.assertion .notBoundary, after)
    | '<' => .ok (.assertion .wordStart, after)
    | '>' => .ok (.assertion .wordEnd, after)
    | c =>
      if c.isDigit then .error .backreference
      else if isEscapable c then .ok (.literal (plain c), after)
      else .error .escapeUnrecognized

def flagOf (c : Char) : Option PatternFlag :=
  match c with
  | 'i' => some .ignoreCase
  | 'm' => some .multiLine
  | 's' => some .dotAll
  | 'U' => some .swapGreed
  | 'u' => some .unicode
  | 'R' => some .crlf
  | 'x' => some .spaced
  | _ => none

/-- Reads flags up to a colon or a closing parenthesis. `negated` holds once a minus has been seen,
and `dangling` while it is the last character. -/
def flags : Text → FlagChanges → Bool → Bool → Except PatternError (FlagChanges × Text)
  | [], _, _, _ => .error .flagUnexpectedEnd
  | c :: rest, found, negated, dangling =>
    if c == ':' || c == ')' then
      if dangling then .error .flagDanglingNegation else .ok (found.reverse, c :: rest)
    else if c == '-' then
      if negated then .error .flagRepeatedNegation else flags rest found true true
    else match flagOf c with
      | none => .error .flagUnrecognized
      | some flag =>
        if found.any (·.1 == flag) then .error .flagDuplicate
        else flags rest ((flag, !negated) :: found) negated false

def flagValue? (changes : FlagChanges) (flag : PatternFlag) : Option Bool :=
  changes.lookup flag

def isNameChar (isFirst : Bool) (c : Char) : Bool :=
  c == '_' || (if isFirst then Text.isLetter c
    else c == '.' || c == '[' || c == ']' || Text.isAlphanumeric c)

def nameChars : Text → Text → Except PatternError (Text × Text)
  | [], _ => .error .groupNameUnexpectedEnd
  | c :: rest, found =>
    if c == '>' then .ok (found.reverse, c :: rest)
    else if isNameChar found.isEmpty c then nameChars rest (c :: found)
    else .error .groupNameInvalid

def groupName (r : PatternReader) : Except PatternError PatternReader := do
  let (name, rest) ← nameChars r.rest []
  if name.isEmpty then .error .groupNameEmpty
  else if r.names.contains name then .error .groupNameDuplicate
  else .ok { r with rest := rest.drop 1, names := name :: r.names }

/-- What an opening parenthesis can begin: a change of flags for the rest of the group around it, a
capture group with its number, or a group with flags of its own. -/
inductive Opening where
  | flags (changes : FlagChanges)
  | capture (index : Nat)
  | group (changes : FlagChanges)

def opening (r : PatternReader) : Except PatternError (Opening × PatternReader) := do
  let r := r.next.skipSpace
  let numbered := { r with groups := r.groups + 1 }
  if ["?=", "?!", "?<=", "?<!"].any fun start => (r.after? start).isSome then .error .lookAround
  else if let some named := (numbered.after? "?P<").or (numbered.after? "?<") then
    let r ← groupName named
    .ok (.capture numbered.groups, r)
  else if let some inner := r.after? "?" then
    if inner.rest.isEmpty then .error .groupUnclosed
    else
      let (changes, rest) ← flags inner.rest [] false false
      let after := { r with rest := rest.drop 1 }
      if rest.head? == some ')' then
        if changes.isEmpty then .error .repetitionMissing else .ok (.flags changes, after)
      else .ok (.group changes, after)
  else .ok (.capture numbered.groups, numbered)

end PatternReader

end SecretScan
