import SecretScan.Pattern.Basic

/-!
Remarks in a line that keep its findings out of the report. The leftmost remark of a line counts: it
silences either every signature or the ones that it lists.
-/

namespace SecretScan

inductive Suppression where
  | all
  | keys (listed : List Text)
deriving DecidableEq, Repr

namespace Suppression

/-- The pattern of a remark. Its first group is the list of keys, if there is one. -/
def remarkSource : Text :=
  "(?i)(?:pragma:\\s*no\\s*keyscan|keyscan:ignore(?:\\[([^\\]\\n]\x7b0,256\x7d)\\])?)"

def remark? : Option Pattern :=
  (Pattern.compile remarkSource).toOption

def listedKeys (list : Text) : List Text :=
  (((Text.splitOn ',' list).map Text.trim).filter (!·.isEmpty)).eraseDups

/-- The suppression of a line, if it has a remark. An empty list silences everything. -/
def ofLine? (line : Text) : Option Suppression := do
  let pattern ← remark?
  let found ← pattern.matchFrom? line 0
  match found.group? 1 with
  | none => some .all
  | some (start, stop) =>
    match listedKeys (Text.slice line start stop) with
    | [] => some .all
    | listed => some (.keys listed)

def suppresses : Suppression → Text → Bool
  | .all, _ => true
  | .keys listed, key => listed.contains key

end Suppression

end SecretScan
