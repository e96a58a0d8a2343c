/-!
The exact value of a floating-point number. A finite number is a sign, a whole number and a power
of two; everything that prints or compares such numbers exactly starts from there.
-/

namespace SecretScan

/-- What a floating-point number stands for. A finite one is `± mantissa * 2 ^ exponent`. -/
inductive BinaryValue where
  | nan
  | infinite (negative : Bool)
  | finite (negative : Bool) (mantissa : Nat) (exponent : Int)
deriving DecidableEq, Repr

namespace BinaryValue

def ofFloat (x : Float) : BinaryValue :=
  let bits := x.toBits.toNat
  let negative := bits / 0x8000000000000000 == 1
  let exponent := bits / 0x10000000000000 % 0x800
  let fraction := bits % 0x10000000000000
  if exponent == 2047 then if fraction == 0 then .infinite negative else .nan
  else if exponent == 0 then .finite negative fraction (-1074)
  else .finite negative (0x10000000000000 + fraction) (Int.ofNat exponent - 1075)

end BinaryValue

end SecretScan
