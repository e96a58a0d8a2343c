import SecretScan.Pattern.Expr
import Std.Data.TreeSet

/-!
Matching by trying alternatives in order. A plan is an expression whose branching places carry
numbers. The search remembers at which positions each of these places has been entered; entering
the same place at the same position again cannot lead to a match that the first entry has missed,
so every place is entered at most once per position and the search takes time proportional to the
length of the plan times the length of the line.
-/

namespace SecretScan

/-- A position in a line: the number of characters before it, the last of them, and the characters
after it. -/
structure Cursor where
  index : Nat
  before : Option Char
  rest : Text

namespace Cursor

def start (line : Text) : Cursor :=
  ⟨0, none, line⟩

def forward : Nat → Cursor → Cursor
  | 0, c => c
  | n + 1, c =>
    match c.rest with
    | [] => c
    | x :: rest => forward n ⟨c.index + 1, some x, rest⟩

end Cursor

abbrev Entered := Std.TreeSet (Nat × Nat) (compareLex (compareOn (·.1)) (compareOn (·.2)))

/-- The starts and ends of groups, the latest first: group `i` starts at an entry for `2 * i` and
ends at an entry for `2 * i + 1`. -/
abbrev Slots := List (Nat × Nat)

/-- An attempt ends with the position and the groups of a match, or fails with all places that it
has entered. -/
inductive Attempt where
  | found (stop : Nat) (slots : Slots)
  | failed (entered : Entered)

namespace Attempt

def orElse (a : Attempt) (b : Entered → Attempt) : Attempt :=
  match a with
  | .found stop slots => .found stop slots
  | .failed entered => b entered

def enter (place index : Nat) (entered : Entered) (go : Entered → Attempt) : Attempt :=
  if entered.contains (place, index) then .failed entered else go (entered.insert (place, index))

end Attempt

abbrev Continuation := Cursor → Slots → Entered → Attempt

/-- An expression with numbered branching places. A `span` takes characters of one set one by one;
its number stands for the place behind it. -/
inductive Plan where
  | empty
  | set (s : CharSet)
  | look (l : Look)
  | seq (a b : Plan)
  | alt (place : Nat) (a b : Plan)
  | capture (index : Nat) (a : Plan)
  | option (place : Nat) (a : Plan) (greedy : Bool)
  | loop (place : Nat) (a : Plan) (greedy : Bool)
  | span (place : Nat) (s : CharSet) (least : Nat) (most : Option Nat) (greedy : Bool)
deriving DecidableEq

namespace Plan

/-- The positions that a run of characters of a set can reach, the nearest first. `least` more
characters are needed before the run may stop, and `most` are allowed. -/
def reach (s : CharSet) : Nat → Option Nat → Option Char → Nat → Text → List Cursor
  | least, _, before, index, [] => if least == 0 then [⟨index, before, []⟩] else []
  | least, most, before, index, c :: rest =>
    let here := if least == 0 then [⟨index, before, c :: rest⟩] else []
    if most != some 0 && s.contains c then
      here ++ reach s (least - 1) (most.map (· - 1)) (some c) (index + 1) rest
    else here

def tryAll (place : Nat) (next : Continuation) (slots : Slots) : List Cursor → Entered → Attempt
  | [], entered => .failed entered
  | c :: cs, entered =>
    (Attempt.enter place c.index entered (next c slots)).orElse (tryAll place next slots cs)

/-- Rounds of a loop. After each round the place behind it is entered, from where another round is
tried and the way out. -/
def rounds (place : Nat) (body : Continuation → Continuation) (greedy : Bool)
    (next : Continuation) : Nat → Continuation
  | 0 => fun _ _ entered => .failed entered
  | fuel + 1 => body fun c slots entered =>
    Attempt.enter place c.index entered fun entered =>
      let again := rounds place body greedy next fuel c slots
      if greedy then (again entered).orElse (next c slots)
      else (next c slots entered).orElse again

/-- Matches a plan and then whatever is left. A loop has at most one round more than there are
positions at which a round can end. -/
def run : Plan → Continuation → Continuation
  | .empty, next => next
  | .set s, next => fun c slots entered =>
    match c.rest with
    | [] => .failed entered
    | x :: rest =>
      if s.contains x then next ⟨c.index + 1, some x, rest⟩ slots entered else .failed entered
  | .look l, next => fun c slots entered =>
    if l.holds c.before c.rest.head? then next c slots entered else .failed entered
  | .seq a b, next => a.run (b.run next)
  | .alt place a b, next => fun c slots entered =>
    Attempt.enter place c.index entered fun entered =>
      (a.run next c slots entered).orElse (b.run next c slots)
  | .capture index a, next => fun c slots entered =>
    a.run (fun d slots => next d ((2 * index + 1, d.index) :: slots)) c
      ((2 * index, c.index) :: slots) entered
  | .option place a greedy, next => fun c slots entered =>
    Attempt.enter place c.index entered fun entered =>
      if greedy then (a.run next c slots entered).orElse (next c slots)
      else (next c slots entered).orElse (a.run next c slots)
  | .loop place a greedy, next => fun c slots entered =>
    rounds place a.run greedy next (c.rest.length + 2) c slots entered
  | .span place s least most greedy, next => fun c slots entered =>
    let reached := reach s least most c.before c.index c.rest
    tryAll place next slots (if greedy then reached.reverse else reached) entered

def copies (body : Nat → Plan × Nat) : Nat → Nat → Plan × Nat
  | 0, place => (.empty, place)
  | 1, place => body place
  | n + 1, place =>
    let (first, place) := body place
    let (others, place) := copies body n place
    (.seq first others, place)

/-- A plan that may be repeated a number of times; a round is tried only after all before it. -/
def optionals (body : Nat → Plan × Nat) (greedy : Bool) : Nat → Nat → Plan × Nat
  | 0, place => (.empty, place)
  | n + 1, place =>
    let (first, next) := body (place + 1)
    let (others, next) := optionals body greedy n next
    (.option place (match n with | 0 => first | _ => .seq first others) greedy, next)

/-- Numbers the branching places of an expression from a given number on, and returns the first
number that is free. `loose` tells that the expression is the body of a loop that can go round
without a character; there each round of an inner repetition is a place of its own. -/
def number (loose : Bool) : Expr → Nat → Plan × Nat
  | .empty, place => (.empty, place)
  | .set s, place => (.set s, place)
  | .look l, place => (.look l, place)
  | .seq a b, place =>
    let (a, place) := number loose a place
    let (b, place) := number loose b place
    (.seq a b, place)
  | .alt a b, place =>
    let (a, next) := number loose a (place + 1)
    let (b, next) := number loose b next
    (.alt place a b, next)
  | .capture index a, place =>
    let (a, place) := number loose a place
    (.capture index a, place)
  | .rep a least most greedy, place =>
    let general (body : Nat → Plan × Nat) : Plan × Nat :=
      match most with
      | some most =>
        let (first, place) := copies body least place
        let (others, place) := optionals body greedy (most - least) place
        (if least == 0 then others else if most ≤ least then first else .seq first others, place)
      | none =>
        let looped (place : Nat) : Plan × Nat :=
          let (body, next) := body (place + 1)
          (.loop place body greedy, next)
        match least with
        | 0 =>
          let (body, next) := looped (place + 1)
          (.option place body greedy, next)
        | least + 1 =>
          let (first, place) := copies body least place
          let (last, place) := looped place
          (if least == 0 then last else .seq first last, place)
    let loose := loose || (most.isNone && a.nullable)
    match a with
    | .set s =>
      if loose then general fun place => (.set s, place)
      else (.span place s least most greedy, place + 1)
    | a => general (number loose a)

def searchFrom (p : Plan) : Nat → Cursor → Entered → Option (Nat × Nat × Slots)
  | fuel, c, entered =>
    match p.run (fun d slots _ => .found d.index slots) c [] entered with
    | .found stop slots => some (c.index, stop, slots)
    | .failed entered =>
      match fuel, c.rest with
      | 0, _ => none
      | _, [] => none
      | fuel + 1, x :: rest => searchFrom p fuel ⟨c.index + 1, some x, rest⟩ entered

end Plan

end SecretScan
