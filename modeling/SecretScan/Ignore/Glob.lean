import SecretScan.Pattern.Basic

/-!
Globs of ignore files. They are read into tokens and then compared with the bytes of a path, one
character of the expression for each byte; so a question mark stands for one byte, and a class for
the bytes of its characters. Stars and question marks stay within one segment of the path.
-/

namespace SecretScan.Ignore

inductive GlobFault where
  | unopenedChoice
  | unclosedChoice
  | invalidRange (first last : Char)
  | danglingEscape
deriving DecidableEq, Repr

namespace GlobFault

def message : GlobFault → Text
  | .unopenedChoice =>
    "unopened alternate group; missing '\x7b' (maybe escape '\x7d' with '[\x7d]'?)"
  | .unclosedChoice =>
    "unclosed alternate group; missing '\x7d' (maybe escape '\x7b' with '[\x7b]'?)"
  | .invalidRange first last =>
    "invalid range; '".toList ++ first :: "' > '".toList ++ last :: "'".toList
  | .danglingEscape => "dangling '\\'"

end GlobFault

/-- A piece of a glob. Double stars that are whole segments stand for directories: in front, between
slashes, or at the end. -/
inductive GlobToken where
  | char (c : Char)
  | anyByte
  | anyRun
  | leadingDirectories
  | innerDirectories
  | everythingBelow
  | oneOf (negated : Bool) (ranges : List (Char × Char))
  | choice (alternatives : List (List GlobToken))

/-- What has been read of a glob: the tokens of the branch that is being read, the last one first,
and, for every choice that is still open, its finished branches and the tokens in front of it. -/
structure GlobState where
  tokens : List GlobToken
  opened : List (List (List GlobToken) × List GlobToken)
  classesEnded : Bool

namespace GlobState

def start : GlobState :=
  ⟨[], [], false⟩

def push (s : GlobState) (t : GlobToken) : GlobState :=
  { s with tokens := t :: s.tokens }

def pushStars (s : GlobState) : GlobState :=
  (s.push .anyRun).push .anyRun

def openChoice (s : GlobState) : GlobState :=
  { s with tokens := [], opened := ([], s.tokens) :: s.opened }

def comma (s : GlobState) : GlobState :=
  match s.opened with
  | [] => s.push (.char ',')
  | (finished, outer) :: opened =>
    { s with tokens := [], opened := (s.tokens.reverse :: finished, outer) :: opened }

def closeChoice (s : GlobState) : Except GlobFault GlobState :=
  match s.opened with
  | [] => .error .unopenedChoice
  | (finished, outer) :: opened =>
    let alternatives := (s.tokens.reverse :: finished).reverse
    .ok { s with tokens := .choice alternatives :: outer, opened := opened }

def directories (s : GlobState) (atEnd : Bool) : GlobState :=
  let fresh := if atEnd then GlobToken.everythingBelow else .innerDirectories
  match s.tokens with
  | [] => s
  | .leadingDirectories :: _ => s
  | .everythingBelow :: _ => s
  | _ :: rest => { s with tokens := fresh :: rest }

end GlobState

/-- The items of a class behind its opening bracket, and what follows the class; nothing where the
class is not closed. `first` tells that no item has been read, `dash` that a dash waits for the end
of a range. -/
def readClass (first dash : Bool) (ranges : List (Char × Char)) :
    Text → Except GlobFault (Option (List (Char × Char) × Text))
  | [] => .ok none
  | c :: rest =>
    if c == ']' && !first then
      .ok (some ((if dash then ('-', '-') :: ranges else ranges).reverse, rest))
    else if c == '-' && !first && !dash then readClass false true ranges rest
    else match dash, ranges with
      | true, (low, _) :: others =>
        if c < low then .error (.invalidRange low c)
        else readClass false false ((low, c) :: others) rest
      | _, _ => readClass false false ((c, c) :: ranges) rest

def readGlob : Nat → GlobState → Option Char → Text → Except GlobFault GlobState
  | 0, s, _, _ => .ok s
  | _, s, _, [] => .ok s
  | fuel + 1, s, before, c :: rest =>
    match c with
    | '?' => readGlob fuel (s.push .anyByte) (some c) rest
    | '*' =>
      match rest with
      | '*' :: behind =>
        if s.tokens.isEmpty then
          match behind with
          | [] => readGlob fuel (s.push .leadingDirectories) (some '*') []
          | '/' :: behind => readGlob fuel (s.push .leadingDirectories) (some '/') behind
          | _ => readGlob fuel s.pushStars (some '*') behind
        else if before != some '/' && !(!s.opened.isEmpty && (before == some ',' ||
            before == some '\x7b')) then
          readGlob fuel s.pushStars (some '*') behind
        else
          match behind with
          | [] => readGlob fuel (s.directories true) (some '*') []
          | '/' :: behind => readGlob fuel (s.directories false) (some '/') behind
          | next :: _ =>
            if !s.opened.isEmpty && (next == ',' || next == '\x7d') then
              readGlob fuel (s.directories true) (some '*') behind
            else readGlob fuel s.pushStars (some '*') behind
      | _ => readGlob fuel (s.push .anyRun) (some c) rest
    | '[' =>
      if s.classesEnded then readGlob fuel (s.push (.char c)) (some c) rest
      else
        let (negated, items) := match rest with
          | '!' :: items => (true, items)
          | '^' :: items => (true, items)
          | items => (false, items)
        match readClass true false [] items with
        | .error fault => .error fault
        | .ok none => readGlob fuel { s.push (.char c) with classesEnded := true } (some c) rest
        | .ok (some (ranges, behind)) =>
          readGlob fuel (s.push (.oneOf negated ranges)) (some ']') behind
    | '\x7b' => readGlob fuel s.openChoice (some c) rest
    | '\x7d' =>
      match s.closeChoice with
      | .error fault => .error fault
      | .ok s => readGlob fuel s (some c) rest
    | ',' => readGlob fuel s.comma (some c) rest
    | '\\' =>
      match rest with
      | [] => .error .danglingEscape
      | d :: rest => readGlob fuel (s.push (.char d)) (some d) rest
    | _ => readGlob fuel (s.push (.char c)) (some c) rest

def tokensOf (glob : Text) : Except GlobFault (List GlobToken) := do
  let s ← readGlob glob.length .start none glob
  if s.opened.isEmpty then .ok s.tokens.reverse else .error .unclosedChoice

def bytesOf (s : Text) : Text :=
  s.flatMap fun c => (String.utf8EncodeChar c).map fun b => Char.ofNat b.toNat

/-- The bytes of a range of characters: those of its first character, those of its last one, and
all between the last byte of the one and the first byte of the other. -/
def rangeBytes (range : Char × Char) : List (Char × Char) :=
  let first := bytesOf [range.1]
  let last := bytesOf [range.2]
  let single (bytes : Text) := bytes.map fun b => (b, b)
  if range.1 == range.2 then single first
  else
    single first.dropLast ++ [(first.getLastD '\x00', last.headD '\x00')] ++ single (last.drop 1)

def sequence : List Expr → Expr
  | [] => .empty
  | [e] => e
  | e :: rest => .seq e (sequence rest)

def oneOfThese : List Expr → Expr
  | [] => .empty
  | [e] => e
  | e :: rest => .alt e (oneOfThese rest)

def slash : Expr := .set (.single '/')

def anything : Expr := .rep (.set (.compl .none)) 0 none true

mutual

def GlobToken.expr : GlobToken → Expr
  | .char c => sequence ((bytesOf [c]).map fun b => .set (.single b))
  | .anyByte => .set (.allBut ['/'])
  | .anyRun => .rep (.set (.allBut ['/'])) 0 none true
  | .leadingDirectories => .alt (.rep slash 0 (some 1) true) (.seq anything slash)
  | .innerDirectories => .alt slash (.seq slash (.seq anything slash))
  | .everythingBelow => .seq slash anything
  | .oneOf negated ranges =>
    let set := CharSet.ofRanges (ranges.flatMap rangeBytes)
    .set (if negated then .compl set else set)
  | .choice alternatives => oneOfThese (branchExprs alternatives)

def tokenExprs : List GlobToken → List Expr
  | [] => []
  | t :: rest => t.expr :: tokenExprs rest

def branchExprs : List (List GlobToken) → List Expr
  | [] => []
  | branch :: rest =>
    let here := sequence (tokenExprs branch)
    if here == .empty then branchExprs rest else here :: branchExprs rest

end

def globExpr : List GlobToken → Expr
  | [.leadingDirectories] => anything
  | tokens => sequence (tokenExprs tokens)

def compileGlob (glob : Text) : Except GlobFault Pattern := do
  let tokens ← tokensOf glob
  let expr := Expr.seq (.look .textStart) (.seq (globExpr tokens) (.look .textEnd))
  .ok ⟨glob, 0, (Plan.number false expr 0).1⟩

end SecretScan.Ignore
