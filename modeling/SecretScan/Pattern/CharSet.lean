import SecretScan.Text.Basic
import SecretScan.Text.WordChar
import SecretScan.Text.CaseFold

/-!
Sets of characters as patterns describe them. A set is a term, and membership is read off the term,
so that no set is ever spelled out; the complement of a set ranges over all characters.
-/

namespace SecretScan

inductive CharSet where
  | none
  | range (first last : Char)
  | word
  | digit
  | space
  | union (a b : CharSet)
  | inter (a b : CharSet)
  | diff (a b : CharSet)
  | symmDiff (a b : CharSet)
  | compl (a : CharSet)
  | foldCase (a : CharSet)
deriving DecidableEq

namespace CharSet

/-- Membership. Ignoring case adds every case variant of a member. -/
def contains : CharSet → Char → Bool
  | .none, _ => false
  | .range first last, c => first ≤ c && c ≤ last
  | .word, c => Text.isWordChar c
  | .digit, c => Text.isDecimalDigit c
  | .space, c => Text.isWhitespace c
  | .union a b, c => a.contains c || b.contains c
  | .inter a b, c => a.contains c && b.contains c
  | .diff a b, c => a.contains c && !b.contains c
  | .symmDiff a b, c => a.contains c != b.contains c
  | .compl a, c => !a.contains c
  | .foldCase a, c => a.contains c || (Text.caseVariants c).any a.contains

def single (c : Char) : CharSet :=
  .range c c

def ofRanges : List (Char × Char) → CharSet
  | [] => .none
  | [(first, last)] => .range first last
  | (first, last) :: rest => .union (.range first last) (ofRanges rest)

def anyCase (c : Char) : CharSet :=
  if (Text.caseVariants c).isEmpty then single c else .foldCase (single c)

def allBut (chars : List Char) : CharSet :=
  .compl (ofRanges (chars.map fun c => (c, c)))

def asciiDigit : CharSet := .range '0' '9'

def asciiSpace : CharSet := ofRanges [('\t', '\r'), (' ', ' ')]

def asciiWord : CharSet := ofRanges [('0', '9'), ('A', 'Z'), ('_', '_'), ('a', 'z')]

end CharSet

end SecretScan
