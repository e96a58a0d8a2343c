import SecretScan.CommandLine.Run

/-!
The program. It reads the part of the file system that a run can look at into a workspace, runs on
it, and prints what comes out. Entries that cannot be read are left out.
-/

open System

namespace SecretScan.Program

def pathAt (address : Address) : FilePath :=
  String.ofList (Workspace.pathOf address)

def readLink (path : FilePath) : IO Entry := do
  try
    return .link (← IO.FS.realPath path).toString.toList
  catch _ => return .link []

partial def readEntry (path : FilePath) : IO (Option Entry) := do
  try
    match (← path.symlinkMetadata).type with
    | .dir =>
      let mut entries := #[]
      for item in ← path.readDir do
        if let some entry ← readEntry item.path then
          entries := entries.push (item.fileName.toList, entry)
      return some (.directory entries.toList)
    | .file => return some (.file (← IO.FS.readBinFile path).toList)
    | .symlink => return some (← readLink path)
    | .other => return none
  catch _ => return none

def addEntry (tree : Entry) (address : Address) : IO Entry := do
  if (tree.at? address).isSome then return tree
  match ← readEntry (pathAt address) with
  | some entry => return .put entry address tree
  | none => return tree

def guidingFiles : List Text :=
  [".keyscan.toml", ".keyscanignore", ".ignore", ".gitignore"].map String.toList

def addDirectory (tree : Entry) (address : Address) : IO Entry := do
  let mut tree := if (tree.at? address).isSome then tree else .put (.directory []) address tree
  for name in guidingFiles do
    tree ← addEntry tree (address ++ [name])
  let control := address ++ [".git".toList]
  if ← (pathAt control).isDir then
    if (tree.at? control).isNone then tree := .put (.directory []) control tree
    addEntry tree (control ++ ["info".toList, "exclude".toList])
  else addEntry tree control

/-- Adds what a path leads through, and then everything below it. `here` is the directory that has
been reached. -/
partial def addAlong (tree : Entry) (here : Address) : List Text → IO Entry
  | [] => do
    match ← readEntry (pathAt here) with
    | some entry => return .put entry here tree
    | none => return tree
  | name :: rest => do
    if name.isEmpty || name == ['.'] then addAlong tree here rest
    else if name == ['.', '.'] then addAlong tree here.dropLast rest
    else
      let next := here ++ [name]
      try
        match (← (pathAt next).symlinkMetadata).type with
        | .dir => addAlong (← addDirectory tree next) next rest
        | .symlink =>
          let link ← readLink (pathAt next)
          let tree := Entry.put link next tree
          match link with
          | .link (_ :: target) => addAlong tree [] (Text.splitOn '/' target ++ rest)
          | _ => return tree
        | _ => addEntry tree next
      catch _ => return tree

def pathsOf (arguments : List String) : List Text :=
  match Arguments.read (arguments.map String.toList) with
  | .ok (.run a) => (if a.paths.isEmpty then [['.']] else a.paths) ++ a.config.toList
  | _ => []

def workspaceFor (arguments : List String) : IO Workspace := do
  let cwd := (Text.splitOn '/' (← IO.currentDir).toString.toList).filter (!·.isEmpty)
  let mut tree ← addDirectory (.directory []) []
  for n in List.range cwd.length do
    tree ← addDirectory tree (cwd.take (n + 1))
  for path in pathsOf arguments do
    tree ← addAlong tree (Workspace.base path cwd) (Text.splitOn '/' path)
  return ⟨tree, cwd⟩

end SecretScan.Program

open SecretScan in
def main (arguments : List String) : IO UInt32 := do
  let w ← Program.workspaceFor arguments
  let outcome := CommandLine.run w (arguments.map String.toList)
  (← IO.getStderr).putStr (String.ofList outcome.diagnostics)
  (← IO.getStdout).putStr (String.ofList outcome.output)
  match outcome.exit with
  | .ok code => return UInt32.ofNat code
  | .error e =>
    (← IO.getStderr).putStr (String.ofList ("Error: ".toList ++ e.description ++ ['\n']))
    return 1
