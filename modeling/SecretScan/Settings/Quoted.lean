import SecretScan.Text.Basic

/-!
Quoted text in settings files. Between double quotes a backslash escapes; between single quotes
every character stands for itself. Three quotes open a text of several lines, which may contain one
or two quotes in a row, also right before the three that close it. Every reader starts behind the
opening quotes and returns the text and what follows the closing ones.
-/

namespace SecretScan.Quoted

def isPlain (c : Char) : Bool :=
  c == '\t' || (32 ≤ c.toNat && c.toNat != 127)

def hexValue? (c : Char) : Option Nat :=
  if '0' ≤ c && c ≤ '9' then some (c.toNat - 48)
  else if 'a' ≤ c && c ≤ 'f' then some (c.toNat - 87)
  else if 'A' ≤ c && c ≤ 'F' then some (c.toNat - 55)
  else none

def character? (digits : Text) : Option Char := do
  let values ← digits.mapM hexValue?
  let code := values.foldl (fun n d => n * 16 + d) 0
  if code.isValidChar then some (Char.ofNat code) else none

def simpleEscape? : Char → Option Char
  | 'b' => some '\x08'
  | 't' => some '\t'
  | 'n' => some '\n'
  | 'f' => some '\x0c'
  | 'r' => some '\r'
  | 'e' => some '\x1b'
  | '"' => some '"'
  | '\\' => some '\\'
  | _ => none

def escapeWidth? : Char → Option Nat
  | 'x' => some 2
  | 'u' => some 4
  | 'U' => some 8
  | _ => none

def readEscape : Text → Option (Char × Text)
  | [] => none
  | c :: rest =>
    match escapeWidth? c with
    | some width =>
      if rest.length < width then none
      else (character? (rest.take width)).map fun d => (d, rest.drop width)
    | none => (simpleEscape? c).map fun d => (d, rest)

def readBasic : Nat → Text → Text → Option (Text × Text)
  | 0, _, _ => none
  | _, _, [] => none
  | fuel + 1, found, c :: rest =>
    if c == '"' then some (found.reverse, rest)
    else if c == '\\' then
      match readEscape rest with
      | some (d, rest) => readBasic fuel (d :: found) rest
      | none => none
    else if isPlain c then readBasic fuel (c :: found) rest
    else none

def readLiteral (found : Text) : Text → Option (Text × Text)
  | [] => none
  | c :: rest =>
    if c == '\'' then some (found.reverse, rest)
    else if isPlain c then readLiteral (c :: found) rest
    else none

def skipNewline : Text → Text
  | '\n' :: rest => rest
  | '\r' :: '\n' :: rest => rest
  | s => s

def skipBlankLines : Text → Text
  | [] => []
  | '\r' :: '\n' :: rest => skipBlankLines rest
  | c :: rest => if c == ' ' || c == '\t' || c == '\n' then skipBlankLines rest else c :: rest

def continued? (s : Text) : Option Text :=
  let behind := s.dropWhile fun c => c == ' ' || c == '\t'
  if (skipNewline behind).length < behind.length then some (skipBlankLines behind) else none

/-- Splits off the quotes that close a text of several lines. Of up to five quotes in a row, the
last three close it. -/
def closing? (quote : Char) (s : Text) : Option (Text × Text) :=
  let run := (s.takeWhile (· == quote)).length
  if run < 3 then none else some (List.replicate (min run 5 - 3) quote, s.drop (min run 5))

def readLongBasic : Nat → Text → Text → Option (Text × Text)
  | 0, _, _ => none
  | _, _, [] => none
  | fuel + 1, found, c :: rest =>
    match closing? '"' (c :: rest) with
    | some (quotes, rest) => some (found.reverse ++ quotes, rest)
    | none =>
      if c == '\\' then
        match continued? rest with
        | some rest => readLongBasic fuel found rest
        | none =>
          match readEscape rest with
          | some (d, rest) => readLongBasic fuel (d :: found) rest
          | none => none
      else if isPlain c || c == '\n' || (c == '\r' && rest.head? == some '\n') then
        readLongBasic fuel (c :: found) rest
      else none

def readLongLiteral (found : Text) : Text → Option (Text × Text)
  | [] => none
  | c :: rest =>
    match closing? '\'' (c :: rest) with
    | some (quotes, rest) => some (found.reverse ++ quotes, rest)
    | none =>
      if isPlain c || c == '\n' || (c == '\r' && rest.head? == some '\n') then
        readLongLiteral (c :: found) rest
      else none

def readShort : Text → Option (Text × Text)
  | '"' :: rest => readBasic (rest.length + 1) [] rest
  | '\'' :: rest => readLiteral [] rest
  | _ => none

def read : Text → Option (Text × Text)
  | '"' :: '"' :: '"' :: rest =>
    let body := skipNewline rest
    readLongBasic (body.length + 1) [] body
  | '\'' :: '\'' :: '\'' :: rest => readLongLiteral [] (skipNewline rest)
  | s => readShort s

end SecretScan.Quoted
