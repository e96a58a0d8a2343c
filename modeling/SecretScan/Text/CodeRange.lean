/-!
Sets of characters given by sorted lists of inclusive ranges of code points. The tables of
character properties are written in this form; ASCII characters never reach them.
-/

namespace SecretScan.Text

abbrev CodeRange := Nat × Nat

def isAscii (c : Char) : Bool :=
  c.toNat < 128

namespace CodeRange

/-- Some range of a list holds the code point. The list is sorted, so the walk ends at the first
range that begins above it. -/
def holds (code : Nat) : List CodeRange → Bool
  | [] => false
  | (first, last) :: rest =>
    if code < first then false else if code ≤ last then true else holds code rest

def covers (ranges : List CodeRange) (c : Char) : Bool :=
  holds c.toNat ranges

end CodeRange

end SecretScan.Text
