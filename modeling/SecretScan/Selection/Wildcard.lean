import SecretScan.Text.Basic

/-!
Wildcards within one segment: a star stands for any run of characters and a question mark for any
one character. The stretch of a pattern between two stars is placed as far to the left as it fits;
a stretch that is placed is never moved again, because the star behind it can take up whatever an
earlier place leaves over.
-/

namespace SecretScan.Wildcard

/-- What becomes of the part of a pattern in front of its next star: the pattern and the text end
together, the star is reached with the rest of both, or the text does not fit. -/
inductive Stretch where
  | fits
  | star (pattern text : Text)
  | fails

def stretch : Text → Text → Stretch
  | [], [] => .fits
  | [], _ :: _ => .fails
  | p :: pattern, text =>
    if p == '*' then .star pattern text
    else match text with
      | [] => .fails
      | c :: text => if p == '?' || p == c then stretch pattern text else .fails

def firstStretch (pattern : Text) : Text → Stretch
  | [] => stretch pattern []
  | c :: text =>
    match stretch pattern (c :: text) with
    | .fails => firstStretch pattern text
    | placed => placed

/-- Matches a text against the pattern behind a star; `stars` bounds the stars left in it. -/
def matchesAfterStar : Nat → Text → Text → Bool
  | 0, _, _ => false
  | stars + 1, pattern, text =>
    match firstStretch pattern text with
    | .fits => true
    | .star pattern text => matchesAfterStar stars pattern text
    | .fails => false

def matchesSegment (text pattern : Text) : Bool :=
  match stretch pattern text with
  | .fits => true
  | .star behind rest => matchesAfterStar pattern.length behind rest
  | .fails => false

end SecretScan.Wildcard
