import SecretScan.Pattern.CharSet

/-!
Expressions: patterns with the meaning of their flags spelled out. An expression is matched against
the characters of one line; of all the ways in which it can match at a position the first one in
the order of its branches counts, where a greedy repetition prefers another round and a lazy one
prefers to stop.
-/

namespace SecretScan

/-- A condition on a position, given by the characters before and after it. Word boundaries use
word characters of all scripts or of ASCII alone. -/
inductive Look where
  | textStart
  | textEnd
  | lineStart
  | lineEnd
  | lineStartReturn
  | lineEndReturn
  | boundary (ascii : Bool)
  | notBoundary (ascii : Bool)
  | wordStart (ascii : Bool)
  | wordEnd (ascii : Bool)
  | wordStartHalf (ascii : Bool)
  | wordEndHalf (ascii : Bool)
deriving DecidableEq

namespace Look

def isWord (ascii : Bool) (neighbour : Option Char) : Bool :=
  neighbour.any fun c => if ascii then CharSet.asciiWord.contains c else Text.isWordChar c

/-- The condition holds between the two neighbours. Where carriage returns end lines too, no line
starts or ends between a carriage return and a newline. -/
def holds (look : Look) (before after : Option Char) : Bool :=
  match look with
  | .textStart => before.isNone
  | .textEnd => after.isNone
  | .lineStart => before.isNone || before == some '\n'
  | .lineEnd => after.isNone || after == some '\n'
  | .lineStartReturn =>
    before.isNone || before == some '\n' || (before == some '\r' && after != some '\n')
  | .lineEndReturn =>
    after.isNone || after == some '\r' || (after == some '\n' && before != some '\r')
  | .boundary ascii => isWord ascii before != isWord ascii after
  | .notBoundary ascii => isWord ascii before == isWord ascii after
  | .wordStart ascii => !isWord ascii before && isWord ascii after
  | .wordEnd ascii => isWord ascii before && !isWord ascii after
  | .wordStartHalf ascii => !isWord ascii before
  | .wordEndHalf ascii => !isWord ascii after

end Look

inductive Expr where
  | empty
  | set (s : CharSet)
  | look (l : Look)
  | seq (a b : Expr)
  | alt (a b : Expr)
  | capture (index : Nat) (a : Expr)
  | rep (a : Expr) (least : Nat) (most : Option Nat) (greedy : Bool)
deriving DecidableEq

namespace Expr

def nullable : Expr → Bool
  | .empty => true
  | .set _ => false
  | .look _ => true
  | .seq a b => a.nullable && b.nullable
  | .alt a b => a.nullable || b.nullable
  | .capture _ a => a.nullable
  | .rep a least _ _ => least == 0 || a.nullable

def isZeroWidth : Expr → Bool
  | .empty => true
  | .set _ => false
  | .look _ => true
  | .seq a b => a.isZeroWidth && b.isZeroWidth
  | .alt a b => a.isZeroWidth && b.isZeroWidth
  | .capture _ a => a.isZeroWidth
  | .rep a _ most _ => most == some 0 || a.isZeroWidth

/-- The size of a set in bytes. The classes of all scripts are large because each of their ranges
is spelled out. -/
def setSize : CharSet → Nat
  | .none => 32
  | .range _ last => if Text.isAscii last then 40 else 200
  | .word => 48000
  | .digit => 3600
  | .space => 800
  | .union a b => setSize a + setSize b
  | .inter a b => setSize a + setSize b
  | .diff a b => setSize a + setSize b
  | .symmDiff a b => setSize a + setSize b
  | .compl a => setSize a + 300
  | .foldCase a => setSize a + 100

def size : Expr → Nat
  | .empty => 0
  | .set s => setSize s
  | .look _ => 32
  | .seq a b => a.size + b.size
  | .alt a b => a.size + b.size + 40
  | .capture _ a => a.size + 64
  | .rep a least none _ => max least 1 * a.size + 40
  | .rep a _ (some most) _ => most * (a.size + 40)

/-- A repetition. What matches no character is tried at most once; no round at all is the empty
expression, and exactly one round is the expression itself. -/
def repeated (a : Expr) (least : Nat) (most : Option Nat) (greedy : Bool) : Expr :=
  let bounded := a.isZeroWidth
  let least := if bounded then min least 1 else least
  let most := if bounded then some (min (most.getD 1) 1) else most
  if most == some 0 then .empty
  else if least == 1 && most == some 1 then a
  else .rep a least most greedy

end Expr

end SecretScan
