import SecretScan.Decimal.Binary
import SecretScan.Text.Basic

/-!
Numbers with a fixed count of decimal places. The exact value is rounded to the nearest multiple of
the last place, and to the even one of two neighbours that are equally near.
-/

namespace SecretScan.Decimal

/-- The whole number nearest to a quotient; a half goes to the even neighbour. -/
def roundDiv (num den : Nat) : Nat :=
  let q := num / den
  let twice := 2 * (num % den)
  if twice < den then q else if den < twice then q + 1 else if q % 2 == 0 then q else q + 1

def pointed (places units : Nat) : Text :=
  let whole := Text.ofNat (units / Nat.pow 10 places)
  if places == 0 then whole
  else
    let fraction := Text.ofNat (units % Nat.pow 10 places)
    whole ++ '.' :: (List.replicate (places - fraction.length) '0' ++ fraction)

def fixed (places : Nat) (x : Float) : Text :=
  let sign (negative : Bool) (s : Text) : Text := if negative then '-' :: s else s
  match BinaryValue.ofFloat x with
  | .nan => "NaN"
  | .infinite negative => sign negative "inf"
  | .finite negative mantissa exponent =>
    let scaled := mantissa * Nat.pow 10 places
    let units :=
      match exponent with
      | .ofNat e => scaled * Nat.pow 2 e
      | .negSucc e => roundDiv scaled (Nat.pow 2 (e + 1))
    sign negative (pointed places units)

end SecretScan.Decimal
