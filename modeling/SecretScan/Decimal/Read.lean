import SecretScan.Text.Basic

/-!
Reading a floating-point number from decimal text: an optional sign, then `inf`, `infinity` or `nan`
in any case, or digits with an optional point and an optional exponent. There must be a digit
before or behind the point, and nothing may stand around the number.
-/

namespace SecretScan.Decimal

def exponentLimit : Nat := 100000

def digitsValue (s : Text) : Nat :=
  s.foldl (fun n c => n * 10 + (c.toNat - 48)) 0

def scientific (digits : Nat) (exponent : Int) : Float :=
  let size := Int.ofNat (Nat.log2 digits) / 4 + exponent
  if digits == 0 then 0.0
  else if size > 400 then 1.0 / 0.0
  else if Int.ofNat (Nat.log2 digits) + exponent < -400 then 0.0
  else match exponent with
    | .ofNat e => Float.ofScientific digits false e
    | .negSucc e => Float.ofScientific digits true (e + 1)

def splitSign : Text → Bool × Text
  | '-' :: rest => (true, rest)
  | '+' :: rest => (false, rest)
  | rest => (false, rest)

def exponent? : Text → Option Int
  | [] => some 0
  | mark :: rest =>
    if mark == 'e' || mark == 'E' then
      let (negative, digits) := splitSign rest
      if digits.isEmpty || !digits.all Char.isDigit then none
      else
        let value := Int.ofNat (min (digitsValue digits) exponentLimit)
        some (if negative then -value else value)
    else none

def unsigned? (s : Text) : Option Float :=
  let name := s.map Char.toLower
  if name == "inf".toList || name == "infinity".toList then some (1.0 / 0.0)
  else if name == "nan".toList then some (0.0 / 0.0)
  else
    let (whole, rest) := s.span Char.isDigit
    let (fraction, rest) :=
      match rest with
      | '.' :: rest => rest.span Char.isDigit
      | rest => ([], rest)
    if whole.isEmpty && fraction.isEmpty then none
    else (exponent? rest).map fun exponent =>
      scientific (digitsValue (whole ++ fraction)) (exponent - Int.ofNat fraction.length)

def read? (s : Text) : Option Float :=
  let (negative, rest) := splitSign s
  (unsigned? rest).map fun x => if negative then -x else x

end SecretScan.Decimal
