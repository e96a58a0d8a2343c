import SecretScan.Pattern.Expr
import SecretScan.Pattern.Parse

/-!
The meaning of a parsed pattern. Flags are carried from left to right and end with the group that
changes them. With the flag for Unicode off a pattern speaks of bytes, and is rejected where it
could match a byte that is not ASCII.
-/

namespace SecretScan

structure PatternFlags where
  ignoreCase : Bool := false
  multiLine : Bool := false
  dotAll : Bool := false
  swapGreed : Bool := false
  unicode : Bool := true
  crlf : Bool := false

namespace PatternFlags

def set (flags : PatternFlags) (change : PatternFlag × Bool) : PatternFlags :=
  match change with
  | (.ignoreCase, on) => { flags with ignoreCase := on }
  | (.multiLine, on) => { flags with multiLine := on }
  | (.dotAll, on) => { flags with dotAll := on }
  | (.swapGreed, on) => { flags with swapGreed := on }
  | (.unicode, on) => { flags with unicode := on }
  | (.crlf, on) => { flags with crlf := on }
  | (.spaced, _) => flags

def apply (flags : PatternFlags) (changes : FlagChanges) : PatternFlags :=
  changes.foldl set flags

end PatternFlags

namespace Expr

def closeSet (flags : PatternFlags) (negated : Bool) (s : CharSet) : Except PatternError CharSet :=
  if flags.unicode then
    let s := if flags.ignoreCase then .foldCase s else s
    .ok (if negated then .compl s else s)
  else if negated then .error .invalidUtf8
  else .ok (if flags.ignoreCase then .inter (.foldCase s) (.range '\x00' '\x7f') else s)

def shortSet (flags : PatternFlags) (cls : ShortClass) (negated : Bool) :
    Except PatternError CharSet :=
  if flags.unicode then
    let s := match cls with
      | .digit => CharSet.digit
      | .space => CharSet.space
      | .word => CharSet.word
    .ok (if negated then .compl s else s)
  else if negated then .error .invalidUtf8
  else .ok <| match cls with
    | .digit => CharSet.asciiDigit
    | .space => CharSet.asciiSpace
    | .word => CharSet.asciiWord

/-- The name of a property without case, blanks, hyphens, underscores and a leading `is`. -/
def plainName (name : Text) : Text :=
  let kept := (name.filter fun c =>
    Text.isAscii c && c != ' ' && c != '-' && c != '_').map Char.toLower
  if "is".toList.isPrefixOf kept && kept != "isc".toList then kept.drop 2 else kept

def propertySet (flags : PatternFlags) (name : Text) (negated : Bool) :
    Except PatternError CharSet :=
  let digits := ["nd", "decimalnumber", "digit"].map String.toList
  let spaces := ["whitespace", "wspace", "space"].map String.toList
  let categories := ["gc", "generalcategory"].map String.toList
  let found : Option CharSet :=
    match name.span (fun c => c != ':' && c != '=') with
    | (key, _ :: value) =>
      if categories.contains (plainName key) && digits.contains (plainName value)
      then some .digit else none
    | (whole, []) =>
      if digits.contains (plainName whole) then some .digit
      else if spaces.contains (plainName whole) then some .space else none
  if !flags.unicode then .error .unicodeNotAllowed
  else match found with
    | none => .error .propertyNotFound
    | some s => .ok (if negated then .compl s else s)

def literalChar (flags : PatternFlags) (l : Literal) : Except PatternError Char :=
  if !flags.unicode && l.isByte && !Text.isAscii l.char then .error .invalidUtf8 else .ok l.char

def classChar (flags : PatternFlags) (l : Literal) : Except PatternError Char := do
  let c ← literalChar flags l
  if !flags.unicode && !Text.isAscii c then .error .unicodeNotAllowed else .ok c

def literalSet (flags : PatternFlags) (l : Literal) : Except PatternError CharSet := do
  let c ← literalChar flags l
  if !flags.ignoreCase then .ok (.single c)
  else if flags.unicode then .ok (.anyCase c)
  else if c.isAlpha then .ok (.union (.single c.toUpper) (.single c.toLower))
  else .ok (.single c)

def classSet (flags : PatternFlags) : ClassTree → Except PatternError CharSet
  | .empty => .ok .none
  | .literal l => do
    let c ← classChar flags l
    .ok (.single c)
  | .range first last => do
    let first ← classChar flags first
    let last ← classChar flags last
    .ok (.range first last)
  | .named ranges negated => closeSet flags negated (.ofRanges ranges)
  | .short cls negated => shortSet flags cls negated
  | .property name negated => propertySet flags name negated
  | .bracket body negated => do
    let s ← classSet flags body
    closeSet flags negated s
  | .union a b => do
    let a ← classSet flags a
    let b ← classSet flags b
    .ok (.union a b)
  | .operator op a b => do
    let a ← classSet flags a
    let b ← classSet flags b
    let a ← closeSet flags false a
    let b ← closeSet flags false b
    .ok <| match op with
      | .intersection => .inter a b
      | .difference => .diff a b
      | .symmetricDifference => .symmDiff a b

def assertionLook (flags : PatternFlags) (a : Assertion) : Look :=
  let ascii := !flags.unicode
  match a with
  | .lineStart =>
    if !flags.multiLine then .textStart else if flags.crlf then .lineStartReturn else .lineStart
  | .lineEnd =>
    if !flags.multiLine then .textEnd else if flags.crlf then .lineEndReturn else .lineEnd
  | .textStart => .textStart
  | .textEnd => .textEnd
  | .boundary => .boundary ascii
  | .notBoundary => .notBoundary ascii
  | .wordStart => .wordStart ascii
  | .wordEnd => .wordEnd ascii
  | .wordStartHalf => .wordStartHalf ascii
  | .wordEndHalf => .wordEndHalf ascii

def dotSet (flags : PatternFlags) : Except PatternError CharSet :=
  if !flags.unicode then .error .invalidUtf8
  else if flags.dotAll then .ok (.compl .none)
  else if flags.crlf then .ok (.allBut ['\n', '\r'])
  else .ok (.allBut ['\n'])

def ofTree (flags : PatternFlags) : PatternTree → Except PatternError (Expr × PatternFlags)
  | .empty => .ok (.empty, flags)
  | .flags changes => .ok (.empty, flags.apply changes)
  | .literal l => do
    let s ← literalSet flags l
    .ok (.set s, flags)
  | .dot => do
    let s ← dotSet flags
    .ok (.set s, flags)
  | .assertion a => .ok (.look (assertionLook flags a), flags)
  | .short cls negated => do
    let s ← shortSet flags cls negated
    .ok (.set s, flags)
  | .property name negated => do
    let s ← propertySet flags name negated
    .ok (.set s, flags)
  | .bracket body negated => do
    let s ← classSet flags body
    let s ← closeSet flags negated s
    .ok (.set s, flags)
  | .rep body least most greedy => do
    let (e, flags) ← ofTree flags body
    .ok (e.repeated least most (greedy != flags.swapGreed), flags)
  | .capture index body => do
    let (e, _) ← ofTree flags body
    .ok (.capture index e, flags)
  | .group changes body => do
    let (e, _) ← ofTree (flags.apply changes) body
    .ok (e, flags)
  | .seq a b => do
    let (a, flags) ← ofTree flags a
    let (b, flags) ← ofTree flags b
    .ok (.seq a b, flags)
  | .alt a b => do
    let (a, flags) ← ofTree flags a
    let (b, flags) ← ofTree flags b
    .ok (.alt a b, flags)

end Expr

end SecretScan
