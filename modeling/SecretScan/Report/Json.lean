import SecretScan.Text.Basic

/-!
Values of the report in JSON, and their text with one entry per line. An empty list is written
without a line of its own; object fields stand in the order given.
-/

namespace SecretScan.Report

inductive JsonValue where
  | number (digits : Text)
  | text (s : Text)
  | list (items : List JsonValue)
  | object (fields : List (Text × JsonValue))

namespace JsonValue

def hexByte (n : Nat) : Text :=
  [Nat.digitChar (n / 16), Nat.digitChar (n % 16)]

def escapeChar (c : Char) : Text :=
  if c == '"' then ['\\', '"']
  else if c == '\\' then ['\\', '\\']
  else if c == '\n' then ['\\', 'n']
  else if c == '\r' then ['\\', 'r']
  else if c == '\t' then ['\\', 't']
  else if c.toNat == 8 then ['\\', 'b']
  else if c.toNat == 12 then ['\\', 'f']
  else if c.toNat < 32 then ['\\', 'u', '0', '0'] ++ hexByte c.toNat
  else [c]

def quote (s : Text) : Text :=
  '"' :: (s.flatMap escapeChar ++ ['"'])

def newline (depth : Nat) : Text :=
  '\n' :: List.replicate (2 * depth) ' '

def bracketed (depth : Nat) (left right : Char) (entries : List Text) : Text :=
  if entries.isEmpty then [left, right]
  else
    left :: (Text.join [','] (entries.map (newline (depth + 1) ++ ·)) ++ newline depth ++ [right])

mutual

def render (depth : Nat) : JsonValue → Text
  | .number digits => digits
  | .text s => quote s
  | .list items => bracketed depth '[' ']' (renderItems (depth + 1) items)
  | .object fields => bracketed depth '\x7b' '\x7d' (renderFields (depth + 1) fields)

def renderItems (depth : Nat) : List JsonValue → List Text
  | [] => []
  | item :: items => render depth item :: renderItems depth items

def renderFields (depth : Nat) : List (Text × JsonValue) → List Text
  | [] => []
  | (name, value) :: fields =>
    (quote name ++ [':', ' '] ++ render depth value) :: renderFields depth fields

end

end JsonValue

end SecretScan.Report
