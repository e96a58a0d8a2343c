import SecretScan.Text.Basic

/-!
File trees. An entry is a file with its bytes, a link with the path that it holds, or a directory of
named entries. An address is the list of names that leads from a directory to an entry below it;
links on the way are not followed.
-/

namespace SecretScan

abbrev Address := List Text

inductive Entry where
  | file (content : List UInt8)
  | link (target : Text)
  | directory (entries : List (Text × Entry))

namespace Entry

def entries : Entry → List (Text × Entry)
  | .directory entries => entries
  | _ => []

def isDirectory : Entry → Bool
  | .directory _ => true
  | _ => false

def isFile : Entry → Bool
  | .file _ => true
  | _ => false

def at? (e : Entry) : Address → Option Entry
  | [] => some e
  | name :: rest =>
    match e.entries.lookup name with
    | some inner => inner.at? rest
    | none => none

def assign {α : Type} (name : Text) (value : α) : List (Text × α) → List (Text × α)
  | [] => [(name, value)]
  | (other, old) :: rest =>
    if other == name then (name, value) :: rest else (other, old) :: assign name value rest

/-- The tree with an entry at an address. Directories on the way are made where there are none. -/
def put (new : Entry) : Address → Entry → Entry
  | [], _ => new
  | name :: rest, e =>
    let inner := (e.entries.lookup name).getD (.directory [])
    .directory (assign name (put new rest inner) e.entries)

end Entry

end SecretScan
