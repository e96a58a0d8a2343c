import SecretScan.Decimal.Read
import SecretScan.Settings.Quoted
import SecretScan.Settings.Value

/-!
Values in settings files that are written without quotes and brackets: truth values, whole numbers,
decimal numbers, dates and times. Underscores may stand between two digits.
-/

namespace SecretScan.Scalar

def digits? (isDigit : Char → Bool) (s : Text) : Option Text :=
  let pieces := Text.splitOn '_' s
  if pieces.all fun piece => !piece.isEmpty && piece.all isDigit then some pieces.flatten else none

def isDigit (c : Char) : Bool :=
  '0' ≤ c && c ≤ '9'

def wholeDigits? (s : Text) : Option Text :=
  match digits? isDigit s with
  | some ('0' :: _ :: _) => none
  | found => found

def valueOf (base : Nat) (digits : Text) : Nat :=
  digits.foldl (fun n c => n * base + (Quoted.hexValue? c).getD 0) 0

def isDigitOf (base : Nat) (c : Char) : Bool :=
  (Quoted.hexValue? c).any (· < base)

def splitSign : Text → Bool × Text
  | '-' :: rest => (true, rest)
  | '+' :: rest => (false, rest)
  | s => (false, s)

def fits (n : Int) : Bool :=
  -0x80000000000000000000000000000000 ≤ n && n < 0x100000000000000000000000000000000

def integer? (s : Text) : Option Int := do
  let n ← match s with
    | '0' :: 'x' :: rest => (digits? (isDigitOf 16) rest).map fun ds => Int.ofNat (valueOf 16 ds)
    | '0' :: 'o' :: rest => (digits? (isDigitOf 8) rest).map fun ds => Int.ofNat (valueOf 8 ds)
    | '0' :: 'b' :: rest => (digits? (isDigitOf 2) rest).map fun ds => Int.ofNat (valueOf 2 ds)
    | s =>
      let (negative, body) := splitSign s
      (wholeDigits? body).map fun ds =>
        if negative then -Int.ofNat (valueOf 10 ds) else Int.ofNat (valueOf 10 ds)
  if fits n then some n else none

def splitAtFirst (p : Char → Bool) (s : Text) : Text × Option Text :=
  match s.dropWhile (!p ·) with
  | [] => (s, none)
  | _ :: rest => (s.takeWhile (!p ·), some rest)

def decimal? (s : Text) : Option Float := do
  let (negative, body) := splitSign s
  let (mantissa, exponent) := splitAtFirst (fun c => c == 'e' || c == 'E') body
  let (whole, fraction) := splitAtFirst (· == '.') mantissa
  if fraction.isNone && exponent.isNone then none
  let whole ← wholeDigits? whole
  let fraction ← match fraction with
    | some digits => (digits? isDigit digits).map ('.' :: ·)
    | none => some []
  let exponent ← match exponent with
    | some s =>
      let (down, digits) := splitSign s
      (digits? isDigit digits).map fun ds => 'e' :: if down then '-' :: ds else ds
    | none => some []
  let x ← Decimal.read? (whole ++ fraction ++ exponent)
  if x.isInf then none else some (if negative then -x else x)

def special? (s : Text) : Option Float :=
  let (negative, body) := splitSign s
  let signed (x : Float) : Float := if negative then -x else x
  if body == "inf".toList then some (signed (1.0 / 0.0))
  else if body == "nan".toList then some (signed (0.0 / 0.0))
  else none

def field? (width least most : Nat) (s : Text) : Option Text :=
  let digits := s.take width
  if digits.length == width && digits.all isDigit && least ≤ valueOf 10 digits &&
      valueOf 10 digits ≤ most then
    some (s.drop width)
  else none

def expect? (p : Char → Bool) : Text → Option Text
  | [] => none
  | c :: rest => if p c then some rest else none

def daysOf (year month : Nat) : Nat :=
  if month == 2 then
    if year % 4 == 0 && (year % 100 != 0 || year % 400 == 0) then 29 else 28
  else if month == 4 || month == 6 || month == 9 || month == 11 then 30
  else 31

def afterDate? (s : Text) : Option Text := do
  let month ← expect? (· == '-') (← field? 4 0 9999 s)
  let day ← expect? (· == '-') (← field? 2 1 12 month)
  field? 2 1 (daysOf (valueOf 10 (s.take 4)) (valueOf 10 (month.take 2))) day

def afterTime? (s : Text) : Option Text := do
  let rest ← field? 2 0 59 (← expect? (· == ':') (← field? 2 0 23 s))
  match rest with
  | ':' :: rest =>
    match ← field? 2 0 60 rest with
    | '.' :: rest =>
      if (rest.takeWhile isDigit).isEmpty then none else some (rest.dropWhile isDigit)
    | rest => some rest
  | rest => some rest

def afterOffset? : Text → Option Text
  | 'Z' :: rest => some rest
  | 'z' :: rest => some rest
  | c :: rest => do
    if c != '+' && c != '-' then none
    field? 2 0 59 (← expect? (· == ':') (← field? 2 0 23 rest))
  | [] => none

def isDate (s : Text) : Bool :=
  match afterDate? s with
  | some [] => true
  | some (c :: rest) =>
    if c == 'T' || c == 't' || c == ' ' then
      match afterTime? rest with
      | some [] => true
      | some rest => afterOffset? rest == some []
      | none => false
    else false
  | none => afterTime? s == some []

def isScalarChar (c : Char) : Bool :=
  c.isAlphanum || c == '_' || c == '+' || c == '-' || c == '.' || c == ':'

def split (s : Text) : Text × Text :=
  let first := s.takeWhile isScalarChar
  match s.dropWhile isScalarChar with
  | ' ' :: c :: rest =>
    if isDigit c && afterDate? first == some [] then
      (first ++ ' ' :: (c :: rest).takeWhile isScalarChar, (c :: rest).dropWhile isScalarChar)
    else (first, ' ' :: c :: rest)
  | rest => (first, rest)

def value? (s : Text) : Option Setting :=
  if s == "true".toList then some (.boolean true)
  else if s == "false".toList then some (.boolean false)
  else if isDate s then some .date
  else match integer? s with
    | some n => some (.integer n)
    | none => ((decimal? s).or (special? s)).map .float

def read (s : Text) : Option (Setting × Text) :=
  let (first, rest) := split s
  (value? first).map fun v => (v, rest)

end SecretScan.Scalar
