import SecretScan.Settings.Scalar

/-!
Settings files in TOML. A file is a list of statements, one a line: headers, which open a table or
add one to a list of tables, and keys with values, which belong to the table that was opened last.
Lists and inline tables may run over several lines and may end with a comma.
-/

namespace SecretScan.Document

def depthLimit : Nat := 80

def skipBlanks (s : Text) : Text :=
  s.dropWhile fun c => c == ' ' || c == '\t'

/-- A text without blanks, newlines and comments at its start. Inside a comment, as the flag tells,
everything up to the end of the line is skipped. -/
def skipGap (inComment : Bool) : Text → Option Text
  | [] => some []
  | c :: rest =>
    if c == '\n' then skipGap false rest
    else if c == '\r' then if rest.head? == some '\n' then skipGap false rest else none
    else if inComment then if Quoted.isPlain c then skipGap true rest else none
    else if c == ' ' || c == '\t' then skipGap false rest
    else if c == '#' then skipGap true rest
    else some (c :: rest)

def skipLineEnd (s : Text) : Option Text :=
  match skipBlanks s with
  | [] => some []
  | c :: rest =>
    if c == '\n' || c == '\r' || c == '#' then skipGap false (c :: rest) else none

def isKeyChar (c : Char) : Bool :=
  c.isAlphanum || c == '_' || c == '-'

def readKeyPart (s : Text) : Option (Text × Text) :=
  match s with
  | '"' :: _ => Quoted.readShort s
  | '\'' :: _ => Quoted.readShort s
  | _ =>
    let bare := s.takeWhile isKeyChar
    if bare.isEmpty then none else some (bare, s.dropWhile isKeyChar)

def readKey : Nat → Text → Option (List Text × Text)
  | 0, _ => none
  | fuel + 1, s => do
    let (part, rest) ← readKeyPart (skipBlanks s)
    match skipBlanks rest with
    | '.' :: rest =>
      let (parts, rest) ← readKey fuel rest
      some (part :: parts, rest)
    | rest => some ([part], rest)

def readItems (item : Text → Option (Setting × Text)) :
    Nat → List Setting → Text → Option (List Setting × Text)
  | 0, _, _ => none
  | fuel + 1, found, s => do
    match ← skipGap false s with
    | ']' :: rest => some (found.reverse, rest)
    | s =>
      let (v, rest) ← item s
      match ← skipGap false rest with
      | ']' :: rest => some ((v :: found).reverse, rest)
      | ',' :: rest => readItems item fuel (v :: found) rest
      | _ => none

def readPair (item : Text → Option (Setting × Text)) (s : Text) :
    Option (List Text × Setting × Text) := do
  let (key, rest) ← readKey (s.length + 1) s
  match rest with
  | '=' :: rest =>
    let (v, rest) ← item (skipBlanks rest)
    some (key, v, rest)
  | _ => none

def readPairs (item : Text → Option (Setting × Text)) :
    Nat → Setting.Entries → Text → Option (Setting.Entries × Text)
  | 0, _, _ => none
  | fuel + 1, entries, s => do
    match ← skipGap false s with
    | '\x7d' :: rest => some (entries, rest)
    | s =>
      let (key, v, rest) ← readPair item s
      let entries ← Setting.assign v key .dotted entries
      match ← skipGap false rest with
      | '\x7d' :: rest => some (entries, rest)
      | ',' :: rest => readPairs item fuel entries rest
      | _ => none

def readSimple (s : Text) : Option (Setting × Text) :=
  match s with
  | '"' :: _ => (Quoted.read s).map fun (t, rest) => (.text t, rest)
  | '\'' :: _ => (Quoted.read s).map fun (t, rest) => (.text t, rest)
  | _ => Scalar.read s

def readValue : Nat → Text → Option (Setting × Text)
  | 0, s => readSimple s
  | depth + 1, s =>
    match s with
    | '[' :: rest =>
      (readItems (readValue depth) (rest.length + 1) [] rest).map fun (items, rest) =>
        (.list false items, rest)
    | '\x7b' :: rest =>
      (readPairs (readValue depth) (rest.length + 1) [] rest).map fun (entries, rest) =>
        (.table .inline entries, rest)
    | s => readSimple s

def readHeader (closing : Text) (s : Text) : Option (List Text × Text) := do
  let (key, rest) ← readKey (s.length + 1) s
  if closing.isPrefixOf rest then some (key, rest.drop closing.length) else none

/-- Reads statements. `path` is the key of the table that is open. -/
def readStatements : Nat → List Text → Setting.Entries → Text → Option Setting.Entries
  | 0, _, entries, s => if s.isEmpty then some entries else none
  | _, _, entries, [] => some entries
  | fuel + 1, path, entries, s =>
    match s with
    | '[' :: '[' :: rest => do
      let (key, rest) ← readHeader [']', ']'] rest
      let entries ← Setting.alongHeader Setting.openElement key entries
      readStatements fuel key entries (← skipLineEnd rest)
    | '[' :: rest => do
      let (key, rest) ← readHeader [']'] rest
      let entries ← Setting.alongHeader Setting.openTable key entries
      readStatements fuel key entries (← skipLineEnd rest)
    | s => do
      let (key, v, rest) ← readPair (readValue depthLimit) s
      let entries ← Setting.inOpen (Setting.assign v key .dotted) path entries
      readStatements fuel path entries (← skipLineEnd rest)

def withoutMark : Text → Text
  | '\uFEFF' :: rest => rest
  | s => s

def read (s : Text) : Option Setting.Entries := do
  let s ← skipGap false (withoutMark s)
  readStatements s.length [] [] s

end SecretScan.Document
