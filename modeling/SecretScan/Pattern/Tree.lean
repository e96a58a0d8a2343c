import SecretScan.Text.Basic

/-!
Patterns as they are written, before flags are given their meaning. Nothing here is matched; a tree
records just enough to tell which set, assertion or repetition the writer asked for.
-/

namespace SecretScan

inductive PatternFlag where
  | ignoreCase
  | multiLine
  | dotAll
  | swapGreed
  | unicode
  | crlf
  | spaced
deriving DecidableEq

abbrev FlagChanges := List (PatternFlag × Bool)

inductive ShortClass where
  | digit
  | space
  | word
deriving DecidableEq

inductive Assertion where
  | lineStart
  | lineEnd
  | textStart
  | textEnd
  | boundary
  | notBoundary
  | wordStart
  | wordEnd
  | wordStartHalf
  | wordEndHalf
deriving DecidableEq

/-- A character written in a pattern. A character given by exactly two hexadecimal digits stands
for a byte when the flag for Unicode is off. -/
structure Literal where
  char : Char
  isByte : Bool
deriving DecidableEq

inductive SetOperator where
  | intersection
  | difference
  | symmetricDifference
deriving DecidableEq

inductive ClassTree where
  | empty
  | literal (l : Literal)
  | range (first last : Literal)
  | named (ranges : List (Char × Char)) (negated : Bool)
  | short (cls : ShortClass) (negated : Bool)
  | property (name : Text) (negated : Bool)
  | bracket (body : ClassTree) (negated : Bool)
  | union (a b : ClassTree)
  | operator (op : SetOperator) (a b : ClassTree)
deriving DecidableEq

inductive PatternTree where
  | empty
  | flags (changes : FlagChanges)
  | literal (l : Literal)
  | dot
  | assertion (a : Assertion)
  | short (cls : ShortClass) (negated : Bool)
  | property (name : Text) (negated : Bool)
  | bracket (body : ClassTree) (negated : Bool)
  | rep (body : PatternTree) (least : Nat) (most : Option Nat) (greedy : Bool)
  | capture (index : Nat) (body : PatternTree)
  | group (changes : FlagChanges) (body : PatternTree)
  | seq (a b : PatternTree)
  | alt (a b : PatternTree)
deriving DecidableEq

end SecretScan
