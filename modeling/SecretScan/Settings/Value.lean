import SecretScan.Text.Basic

/-!
The values of a settings file in TOML, and how its statements build them up. No key is given twice.
A table remembers how it came about, which decides whether later statements may add to it: a table
made on the way to another one can still get a header of its own, a table made by a dotted key takes
more dotted keys, and an inline table takes nothing more.
-/

namespace SecretScan

inductive TableKind where
  | implied
  | dotted
  | opened
  | inline
deriving DecidableEq, Repr

/-- A value of a settings file. A list of tables grows by headers, other lists do not grow. What a
date says does not matter here. -/
inductive Setting where
  | text (s : Text)
  | integer (n : Int)
  | float (x : Float)
  | boolean (b : Bool)
  | date
  | list (ofTables : Bool) (items : List Setting)
  | table (kind : TableKind) (entries : List (Text × Setting))

namespace Setting

abbrev Entries := List (Text × Setting)

def replace (key : Text) (value : Setting) (entries : Entries) : Entries :=
  entries.map fun (k, v) => if k == key then (k, value) else (k, v)

/-- Changes the entries of the table that a header names: a table, or the last table of a list. -/
def within (change : TableKind → Entries → Option Entries) : Setting → Option Setting
  | .table kind entries => (change kind entries).map (.table kind)
  | .list true items =>
    match items.getLast? with
    | some (.table kind entries) =>
      (change kind entries).map fun entries =>
        .list true (items.dropLast ++ [.table kind entries])
    | _ => none
  | _ => none

def isTable (a b : TableKind) : Setting → Bool
  | .table kind _ => kind == a || kind == b
  | _ => false

/-- Gives a value to a dotted key. Tables on the way that have headers of their own or are inline
are closed to it, and so is a last table that no dotted key has made. -/
def assign (value : Setting) : List Text → TableKind → Entries → Option Entries
  | [], _, _ => none
  | [key], kind, entries =>
    if kind != .dotted || (entries.lookup key).isSome then none
    else some (entries ++ [(key, value)])
  | key :: path, _, entries =>
    match entries.lookup key with
    | none => do
      let inner ← assign value path .dotted []
      some (entries ++ [(key, .table .dotted inner)])
    | some old =>
      if old.isTable .opened .inline then none
      else do
        let new ← old.within fun kind inner => assign value path kind inner
        some (replace key new entries)

def alongHeader (last : Text → Entries → Option Entries) : List Text → Entries → Option Entries
  | [], _ => none
  | [key], entries => last key entries
  | key :: path, entries =>
    match entries.lookup key with
    | none => do
      let inner ← alongHeader last path []
      some (entries ++ [(key, .table .implied inner)])
    | some old =>
      if old.isTable .inline .inline then none
      else do
        let new ← old.within fun _ inner => alongHeader last path inner
        some (replace key new entries)

/-- Opens a table. Only a table made on the way to another one may be there already. -/
def openTable (key : Text) (entries : Entries) : Option Entries :=
  match entries.lookup key with
  | none => some (entries ++ [(key, .table .opened [])])
  | some (.table .implied inner) => some (replace key (.table .opened inner) entries)
  | some _ => none

def openElement (key : Text) (entries : Entries) : Option Entries :=
  match entries.lookup key with
  | none => some (entries ++ [(key, .list true [.table .opened []])])
  | some (.list true items) =>
    some (replace key (.list true (items ++ [.table .opened []])) entries)
  | some _ => none

def inOpen (change : Entries → Option Entries) : List Text → Entries → Option Entries
  | [], entries => change entries
  | key :: path, entries =>
    match entries.lookup key with
    | none => none
    | some old => do
      let new ← old.within fun _ inner => inOpen change path inner
      some (replace key new entries)

end Setting

end SecretScan
