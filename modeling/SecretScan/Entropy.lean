import SecretScan.Text.Basic

/-!
The Shannon entropy of a text in bits per character. The binary logarithm is computed from a series
after the power of two has been split off, so that it is exact at powers of two; an entropy whose
probabilities are all powers of two is exact as well.
-/

namespace SecretScan.Entropy

def oddSeries (z : Float) : Float :=
  [25.0, 23.0, 21.0, 19.0, 17.0, 15.0, 13.0, 11.0, 9.0, 7.0, 5.0, 3.0, 1.0].foldl
    (fun sum d => 1.0 / d + z * sum) 0.0

/-- The binary logarithm of a positive normal number. With `s = (m - 1) / (m + 1)` the natural
logarithm of `m` is `2 * s * oddSeries (s * s)`, and `m` is kept near one. -/
def log2 (x : Float) : Float :=
  let bits := x.toBits.toNat
  let exponent := Int.ofNat (bits / 0x10000000000000 % 0x800) - 1023
  let unit := Float.ofBits (UInt64.ofNat (bits % 0x10000000000000 + 0x3FF0000000000000))
  let (m, exponent) := if unit > 1.4142135623730951 then (unit / 2.0, exponent + 1)
    else (unit, exponent)
  let s := (m - 1.0) / (m + 1.0)
  Float.ofInt exponent + 2.8853900817779268 * (s * oddSeries (s * s))

/-- Texts with fewer characters have no entropy: there is too little to tell random material from
an ordinary name. -/
def shortest : Nat := 8

def counts (s : Text) : List Nat :=
  s.eraseDups.map fun c => s.count c

def share (length count : Nat) : Float :=
  let p := Float.ofNat count / Float.ofNat length
  p * -log2 p

def ofText (s : Text) : Float :=
  if s.length < shortest then 0.0
  else
    let sum := ((counts s).map (share s.length)).foldl (· + ·) 0.0
    if sum > 0.0 then sum else 0.0

end SecretScan.Entropy
