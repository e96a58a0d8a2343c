import SecretScan.Pattern.Reader

/-!
Parsing a pattern into its tree. Groups and bracketed classes nest; everything else is read by the
reading head. A tree is built together with its depth, because patterns that nest too deeply are
rejected once they have been read.
-/

namespace SecretScan

/-- A tree and the number of composite trees on its longest branch. -/
structure Measured (α : Type) where
  tree : α
  depth : Nat

namespace ClassTree

def namedRanges : List (String × List (Char × Char)) :=
  [("alnum", [('0', '9'), ('A', 'Z'), ('a', 'z')]),
   ("alpha", [('A', 'Z'), ('a', 'z')]),
   ("ascii", [('\x00', '\x7f')]),
   ("blank", [('\t', '\t'), (' ', ' ')]),
   ("cntrl", [('\x00', '\x1f'), ('\x7f', '\x7f')]),
   ("digit", [('0', '9')]),
   ("graph", [('!', '~')]),
   ("lower", [('a', 'z')]),
   ("print", [(' ', '~')]),
   ("punct", [('!', '/'), (':', '@'), ('[', '\x60'), ('\x7b', '~')]),
   ("space", [('\t', '\r'), (' ', ' ')]),
   ("upper", [('A', 'Z')]),
   ("word", [('0', '9'), ('A', 'Z'), ('_', '_'), ('a', 'z')]),
   ("xdigit", [('0', '9'), ('A', 'F'), ('a', 'f')])]

/-- Reads `[:name:]` or `[:^name:]`. Anything else in its place is no named class. -/
def readNamed (r : PatternReader) : Option (ClassTree × PatternReader) := do
  let r ← r.after? "[:"
  let negated := r.rest.head? == some '^'
  let r := if negated then r.next else r
  let name := r.rest.takeWhile (· != ':')
  let r ← { r with rest := r.rest.drop name.length }.after? ":]"
  let ranges ← namedRanges.lookup (String.ofList name)
  some (.named ranges negated, r)

def ofItems : List (Measured ClassTree) → Measured ClassTree
  | [] => ⟨.empty, 0⟩
  | [item] => item
  | item :: items =>
    items.foldl
      (fun all item => ⟨.union item.tree all.tree, max all.depth (item.depth + 1)⟩)
      ⟨item.tree, item.depth + 1⟩

def applyPending (pending : Option (SetOperator × Measured ClassTree)) (b : Measured ClassTree) :
    Measured ClassTree :=
  match pending with
  | none => b
  | some (op, a) => ⟨.operator op a.tree b.tree, max a.depth b.depth + 1⟩

def ofEscape : PatternReader.Escape → Except PatternError ClassTree
  | .literal l => .ok (.literal l)
  | .short cls negated => .ok (.short cls negated)
  | .property name negated => .ok (.property name negated)
  | .assertion _ => .error .classEscapeInvalid

def boundOf : PatternReader.Escape → Except PatternError Literal
  | .literal l => .ok l
  | _ => .error .classRangeLiteral

def readItem (r : PatternReader) :
    Except PatternError (PatternReader.Escape × PatternReader) :=
  match r.rest with
  | [] => .error .classUnclosed
  | '\\' :: _ => r.escape
  | c :: _ => .ok (.literal (PatternReader.plain c), r.next)

/-- Reads a character, an escape or a range. A minus before the closing bracket or before another
minus does not make a range. -/
def readRange (r : PatternReader) : Except PatternError (ClassTree × PatternReader) := do
  let (first, r) ← readItem r
  let r := r.skipSpace
  match r.rest with
  | [] => .error .classUnclosed
  | c :: _ =>
    if c != '-' || r.peekSpace == some ']' || r.peekSpace == some '-' then
      let item ← ofEscape first
      .ok (item, r)
    else
      let r := r.nextSkip
      if r.rest.isEmpty then .error .classUnclosed
      else
        let (last, r) ← readItem r
        let first ← boundOf first
        let last ← boundOf last
        if first.char ≤ last.char then .ok (.range first last, r) else .error .classRangeInvalid

def leadingMinus : Nat → List (Measured ClassTree) → PatternReader →
    Except PatternError ((List (Measured ClassTree)) × PatternReader)
  | 0, _, _ => .error .classUnclosed
  | fuel + 1, items, r =>
    match r.rest with
    | [] => .error .classUnclosed
    | '-' :: _ => leadingMinus fuel (⟨.literal (PatternReader.plain '-'), 0⟩ :: items) r.nextSkip
    | _ => .ok (items, r)

def readOpening (r : PatternReader) :
    Except PatternError ((Bool × List (Measured ClassTree)) × PatternReader) := do
  let r := r.nextSkip
  let negated := r.rest.head? == some '^'
  let r := if negated then r.nextSkip else r
  let (items, r) ← leadingMinus (r.rest.length + 1) [] r
  if items.isEmpty && r.rest.head? == some ']' then
    let r := r.nextSkip
    if r.rest.isEmpty then .error .classUnclosed
    else .ok ((negated, [⟨.literal (PatternReader.plain ']'), 0⟩]), r)
  else .ok ((negated, items), r)

def readBody : Nat → Option (SetOperator × Measured ClassTree) → List (Measured ClassTree) →
    PatternReader → Except PatternError ((Measured ClassTree) × PatternReader)
  | 0, _, _, _ => .error .classUnclosed
  | fuel + 1, pending, items, r => do
    let r := r.skipSpace
    let operator (op : SetOperator) :=
      readBody fuel (some (op, applyPending pending (ofItems items))) [] r.next.next
    match r.rest with
    | [] => .error .classUnclosed
    | ']' :: _ => .ok (applyPending pending (ofItems items), r.next)
    | '&' :: '&' :: _ => operator .intersection
    | '-' :: '-' :: _ => operator .difference
    | '~' :: '~' :: _ => operator .symmetricDifference
    | '[' :: _ =>
      match readNamed r with
      | some (item, r) => readBody fuel pending (⟨item, 0⟩ :: items) r
      | none =>
        let ((negated, first), r) ← readOpening r
        let (body, r) ← readBody fuel none first r
        readBody fuel pending (⟨.bracket body.tree negated, body.depth + 1⟩ :: items) r
    | _ =>
      let (item, r) ← readRange r
      readBody fuel pending (⟨item, 0⟩ :: items) r

end ClassTree

namespace PatternTree

def nestLimit : Nat := 250

def ofItems : List (Measured PatternTree) → Measured PatternTree
  | [] => ⟨.empty, 0⟩
  | [item] => item
  | item :: items =>
    items.foldl (fun all item => ⟨.seq item.tree all.tree, max all.depth (item.depth + 1)⟩)
      ⟨item.tree, item.depth + 1⟩

def ofBranches : List (Measured PatternTree) → Measured PatternTree
  | [] => ⟨.empty, 0⟩
  | [branch] => branch
  | branch :: branches =>
    branches.foldl
      (fun all branch => ⟨.alt branch.tree all.tree, max all.depth (branch.depth + 1)⟩)
      ⟨branch.tree, branch.depth + 1⟩

def popRepeatable : List (Measured PatternTree) →
    Except PatternError (Measured PatternTree × List (Measured PatternTree))
  | [] => .error .repetitionMissing
  | item :: items =>
    match item.tree with
    | .empty => .error .repetitionMissing
    | .flags _ => .error .repetitionMissing
    | _ => .ok (item, items)

def readGreed (r : PatternReader) : Bool × PatternReader :=
  if r.rest.head? == some '?' then (false, r.next) else (true, r)

/-- Reads what follows the first number of a counted repetition. A fault of that number shows only
after it is known that the pattern goes on. -/
def readBounds (least : Except PatternError Nat) (r : PatternReader) :
    Except PatternError ((Nat × Option Nat) × PatternReader) :=
  match r.rest with
  | [] => .error .repetitionCountUnclosed
  | ',' :: _ =>
    let r := r.nextSkip
    match r.rest with
    | [] => .error .repetitionCountUnclosed
    | '\x7d' :: _ => do
      let least ← least
      .ok ((least, none), r)
    | _ => do
      let least ← least
      let (most, r) := r.decimal
      let most ← most
      .ok ((least, some most), r)
  | _ => do
    let least ← least
    .ok ((least, some least), r)

def readCount (r : PatternReader) : Except PatternError ((Nat × Option Nat) × PatternReader) := do
  let r := r.nextSkip
  if r.rest.isEmpty then .error .repetitionCountUnclosed
  else
    let (least, r) := r.decimal
    let (bounds, r) ← readBounds least r
    if r.rest.head? == some '\x7d' then .ok (bounds, r.nextSkip)
    else .error .repetitionCountUnclosed

def repeated (item : Measured PatternTree) (least : Nat) (most : Option Nat) (greedy : Bool) :
    Measured PatternTree :=
  ⟨.rep item.tree least most greedy, item.depth + 1⟩

/-- Reads branches up to a closing parenthesis or the end of the pattern. `branches` are complete,
`items` belong to the current branch; both come last first. -/
def readBranches : Nat → List (Measured PatternTree) → List (Measured PatternTree) →
    PatternReader → Except PatternError ((Measured PatternTree) × PatternReader)
  | 0, _, _, _ => .error .groupUnclosed
  | fuel + 1, branches, items, r => do
    let r := r.skipSpace
    let simple (least : Nat) (most : Option Nat) := do
      let (item, items) ← popRepeatable items
      let (greedy, r) := readGreed r.next
      readBranches fuel branches (repeated item least most greedy :: items) r
    let leaf (tree : PatternTree) (r : PatternReader) :=
      readBranches fuel branches (⟨tree, 0⟩ :: items) r
    match r.rest with
    | [] => .ok (ofBranches (ofItems items :: branches), r)
    | ')' :: _ => .ok (ofBranches (ofItems items :: branches), r)
    | '|' :: _ => readBranches fuel (ofItems items :: branches) [] r.next
    | '?' :: _ => simple 0 (some 1)
    | '*' :: _ => simple 0 none
    | '+' :: _ => simple 1 none
    | '\x7b' :: _ =>
      let (item, items) ← popRepeatable items
      let ((least, most), r) ← readCount r
      let (greedy, r) := readGreed r
      if most.any (· < least) then .error .repetitionCountInvalid
      else readBranches fuel branches (repeated item least most greedy :: items) r
    | '[' :: _ =>
      let ((negated, first), r) ← ClassTree.readOpening r
      let (body, r) ← ClassTree.readBody (r.rest.length + 1) none first r
      readBranches fuel branches (⟨.bracket body.tree negated, body.depth + 1⟩ :: items) r
    | '(' :: _ =>
      let (opened, inner) ← r.opening
      match opened with
      | .flags changes =>
        let spaced := (PatternReader.flagValue? changes .spaced).getD r.spaced
        leaf (.flags changes) { inner with spaced }
      | .capture index =>
        let (body, inner) ← readBranches fuel [] [] inner
        if inner.rest.isEmpty then .error .groupUnclosed
        else
          readBranches fuel branches (⟨.capture index body.tree, body.depth + 1⟩ :: items)
            { inner.next with spaced := r.spaced }
      | .group changes =>
        let spaced := (PatternReader.flagValue? changes .spaced).getD r.spaced
        let (body, inner) ← readBranches fuel [] [] { inner with spaced }
        if inner.rest.isEmpty then .error .groupUnclosed
        else
          readBranches fuel branches (⟨.group changes body.tree, body.depth + 1⟩ :: items)
            { inner.next with spaced := r.spaced }
    | '.' :: _ => leaf .dot r.next
    | '^' :: _ => leaf (.assertion .lineStart) r.next
    | '$' :: _ => leaf (.assertion .lineEnd) r.next
    | '\\' :: _ =>
      let (found, r) ← r.escape
      match found with
      | .literal l => leaf (.literal l) r
      | .assertion a => leaf (.assertion a) r
      | .short cls negated => leaf (.short cls negated) r
      | .property name negated => leaf (.property name negated) r
    | c :: _ => leaf (.literal (PatternReader.plain c)) r.next

def parse (source : Text) : Except PatternError (PatternTree × Nat) := do
  let (found, r) ← readBranches (source.length + 1) [] [] ⟨source, false, [], 0⟩
  if !r.rest.isEmpty then .error .groupUnopened
  else if nestLimit < found.depth then .error (.nestLimitExceeded nestLimit)
  else .ok (found.tree, r.groups)

end PatternTree

end SecretScan
