import SecretScan.Decimal.Read
import SecretScan.Severity

/-!
The arguments of the command line. They are read from left to right: paths, switches, and options
with a value, which stands behind an equals sign or is the next argument. Switches and options that
hold one value may be given once. The first argument that asks for help or for the version ends the
reading, and so does the first fault.
-/

namespace SecretScan

inductive UsageError where
  | unknown (argument : Text)
  | missingValue (option : Text)
  | needlessValue (switch : Text)
  | repeated (argument : Text)
  | badValue (option value : Text)
  | emptyPath
deriving DecidableEq, Repr

namespace UsageError

def message : UsageError → Text
  | .unknown argument => "error: unexpected argument '".toList ++ argument ++ "'\n".toList
  | .missingValue option => "error: a value is required for '".toList ++ option ++ "'\n".toList
  | .needlessValue switch => "error: no value is allowed for '".toList ++ switch ++ "'\n".toList
  | .repeated argument =>
    "error: the argument '".toList ++ argument ++ "' cannot be used more than once\n".toList
  | .badValue option value =>
    "error: invalid value '".toList ++ value ++ "' for '".toList ++ option ++ "'\n".toList
  | .emptyPath => "error: a path is required\n"

end UsageError

structure Arguments where
  paths : List Text := []
  config : Option Text := none
  includes : List Text := []
  excludes : List Text := []
  noDefaultExcludes : Bool := false
  noGitignore : Bool := false
  disabled : List Text := []
  maxIterations : Option Float := none
  entropyThreshold : Option Float := none
  minTokenLength : Option Nat := none
  maxTokenLength : Option Nat := none
  allowed : List Text := []
  noEntropy : Bool := false
  json : Bool := false
  verbose : Bool := false
  failOn : Option Severity := none
  strict : Bool := false
  listSignatures : Bool := false

inductive Request where
  | run (a : Arguments)
  | help
  | version

namespace Arguments

def addPath (path : Text) (a : Arguments) : Except UsageError Arguments :=
  if path.isEmpty then .error .emptyPath else .ok { a with paths := a.paths ++ [path] }

def addPaths : List Text → Arguments → Except UsageError Arguments
  | [], a => .ok a
  | path :: rest, a => do addPaths rest (← a.addPath path)

def switch? : Text → Option ((Arguments → Bool) × (Arguments → Arguments)) :=
  fun name =>
    match String.ofList name with
    | "--no-default-excludes" =>
      some (noDefaultExcludes, fun a => { a with noDefaultExcludes := true })
    | "--no-gitignore" => some (noGitignore, fun a => { a with noGitignore := true })
    | "--no-entropy" => some (noEntropy, fun a => { a with noEntropy := true })
    | "--json" => some (json, fun a => { a with json := true })
    | "--verbose" => some (verbose, fun a => { a with verbose := true })
    | "--strict" => some (strict, fun a => { a with strict := true })
    | "--list-signatures" => some (listSignatures, fun a => { a with listSignatures := true })
    | _ => none

def turnOn (name : Text) (isOn : Arguments → Bool) (set : Arguments → Arguments)
    (a : Arguments) : Except UsageError Arguments :=
  if isOn a then .error (.repeated name) else .ok (set a)

/-- A number without a sign, of at most 64 bits; a plus in front does no harm. -/
def length? (s : Text) : Option Nat :=
  let digits := match s with
    | '+' :: rest => rest
    | s => s
  if digits.isEmpty || !digits.all Char.isDigit then none
  else
    let n := digits.foldl (fun n c => n * 10 + (c.toNat - 48)) 0
    if n < 0x10000000000000000 then some n else none

def path? (s : Text) : Option Text :=
  if s.isEmpty then none else some s

def setOnce {α : Type} (name value : Text) (old : Option α) (read : Text → Option α)
    (set : α → Arguments) : Except UsageError Arguments :=
  if old.isSome then .error (.repeated name)
  else match read value with
    | some v => .ok (set v)
    | none => .error (.badValue name value)

def option? : Text → Option (Text → Arguments → Except UsageError Arguments) :=
  fun name =>
    match String.ofList name with
    | "--config" => some fun v a =>
      setOnce name v a.config path? fun x => { a with config := some x }
    | "--include" => some fun v a => .ok { a with includes := a.includes ++ [v] }
    | "--exclude" => some fun v a => .ok { a with excludes := a.excludes ++ [v] }
    | "--disable" => some fun v a => .ok { a with disabled := a.disabled ++ [v] }
    | "--allow" => some fun v a => .ok { a with allowed := a.allowed ++ [v] }
    | "--max-iterations" => some fun v a =>
      setOnce name v a.maxIterations Decimal.read? fun x => { a with maxIterations := some x }
    | "--entropy-threshold" => some fun v a =>
      setOnce name v a.entropyThreshold Decimal.read? fun x =>
        { a with entropyThreshold := some x }
    | "--min-token-length" => some fun v a =>
      setOnce name v a.minTokenLength length? fun x => { a with minTokenLength := some x }
    | "--max-token-length" => some fun v a =>
      setOnce name v a.maxTokenLength length? fun x => { a with maxTokenLength := some x }
    | "--fail-on" => some fun v a =>
      setOnce name v a.failOn (fun s => (Severity.parse s).toOption) fun x =>
        { a with failOn := some x }
    | _ => none

def takesNegative (name : Text) : Bool :=
  name == "--max-iterations".toList || name == "--entropy-threshold".toList

def isPlainNumber (s : Text) : Bool :=
  let mantissa := s.takeWhile (· != 'e')
  let digits (s : Text) := s.all Char.isDigit
  digits (mantissa.takeWhile (· != '.')) && mantissa.head? != some '.' &&
    digits ((mantissa.dropWhile (· != '.')).drop 1) &&
    match s.dropWhile (· != 'e') with
    | [] => true
    | _ :: exponent => !mantissa.isEmpty && !exponent.isEmpty && digits exponent

def isRefused (option argument : Text) : Bool :=
  match argument with
  | '-' :: '-' :: _ => true
  | '-' :: c :: rest => !(takesNegative option && isPlainNumber (c :: rest))
  | _ => false

def splitValue (argument : Text) : Text × Option Text :=
  match argument.dropWhile (· != '=') with
  | [] => (argument, none)
  | _ :: value => (argument.takeWhile (· != '='), some value)

/-- Reads switches of one letter. The first one that is no common switch ends the reading. -/
def readLetters : Text → Arguments → Except UsageError Request
  | [], a => .ok (.run a)
  | 'v' :: rest, a =>
    match turnOn "-v".toList verbose (fun a => { a with verbose := true }) a with
    | .ok a => readLetters rest a
    | .error e => .error e
  | 'h' :: _, _ => .ok .help
  | 'V' :: _, _ => .ok .version
  | c :: _, _ => .error (.unknown ['-', c])

def readFrom (a : Arguments) : List Text → Except UsageError Request
  | [] => .ok (.run a)
  | argument :: rest =>
    match argument with
    | ['-', '-'] =>
      match a.addPaths rest with
      | .ok a => .ok (.run a)
      | .error e => .error e
    | '-' :: '-' :: _ =>
      let (name, attached) := splitValue argument
      match switch? name, option? name with
      | some (isOn, set), _ =>
        if attached.isSome then .error (.needlessValue name)
        else match turnOn name isOn set a with
          | .ok a => readFrom a rest
          | .error e => .error e
      | none, some apply =>
        match attached, rest with
        | some value, rest =>
          match apply value a with
          | .ok a => readFrom a rest
          | .error e => .error e
        | none, [] => .error (.missingValue name)
        | none, value :: rest =>
          if isRefused name value then .error (.missingValue name)
          else match apply value a with
            | .ok a => readFrom a rest
            | .error e => .error e
      | none, none =>
        if name == "--help".toList || name == "--version".toList then
          if attached.isSome then .error (.needlessValue name)
          else .ok (if name == "--help".toList then .help else .version)
        else .error (.unknown argument)
    | '-' :: c :: letters =>
      match readLetters (c :: letters) a with
      | .ok (.run a) => readFrom a rest
      | other => other
    | path =>
      match a.addPath path with
      | .ok a => readFrom a rest
      | .error e => .error e

def read (arguments : List Text) : Except UsageError Request :=
  readFrom {} arguments

end Arguments

end SecretScan
