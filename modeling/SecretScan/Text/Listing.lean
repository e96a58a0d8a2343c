import SecretScan.Text.Basic
import SecretScan.Text.Visible

/-!
Texts as diagnostics show them: in quotes, with escapes for quotes, backslashes and characters that
are not seen.
-/

namespace SecretScan.Text

def numberEscape (c : Char) : Text :=
  "\\u\x7b".toList ++ Nat.toDigits 16 c.toNat ++ ['\x7d']

def showChar (c : Char) : Text :=
  match c with
  | '\x00' => ['\\', '0']
  | '\t' => ['\\', 't']
  | '\r' => ['\\', 'r']
  | '\n' => ['\\', 'n']
  | '\\' => ['\\', '\\']
  | '"' => ['\\', '"']
  | c => if isVisible c then [c] else numberEscape c

def showQuoted (s : Text) : Text :=
  '"' :: (s.flatMap showChar ++ ['"'])

def showList (items : List Text) : Text :=
  '[' :: (join [',', ' '] (items.map showQuoted) ++ [']'])

def showList? : Option (List Text) → Text
  | some items => "Some(".toList ++ showList items ++ [')']
  | none => "None"

end SecretScan.Text
