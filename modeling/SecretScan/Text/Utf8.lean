import SecretScan.Text.Basic

/-!
Reading text from bytes in UTF-8. Only the shortest encodings of Unicode scalar values are text:
overlong forms, surrogates, values beyond the last code point and incomplete sequences are not.
-/

namespace SecretScan.Text.Utf8

def isContinuation (b : UInt8) : Bool :=
  0x80 ≤ b && b ≤ 0xBF

def low6 (b : UInt8) : Nat :=
  b.toNat - 0x80

def decodeChar : List UInt8 → Option (Char × List UInt8)
  | [] => none
  | a :: rest =>
    if a ≤ 0x7F then some (Char.ofNat a.toNat, rest)
    else match rest with
      | [] => none
      | b :: rest =>
        if !isContinuation b then none
        else if 0xC2 ≤ a && a ≤ 0xDF then
          some (Char.ofNat ((a.toNat - 0xC0) * 64 + low6 b), rest)
        else match rest with
          | [] => none
          | c :: rest =>
            if !isContinuation c then none
            else if 0xE0 ≤ a && a ≤ 0xEF then
              if (a == 0xE0 && b < 0xA0) || (a == 0xED && 0x9F < b) then none
              else some (Char.ofNat (((a.toNat - 0xE0) * 64 + low6 b) * 64 + low6 c), rest)
            else match rest with
              | [] => none
              | d :: rest =>
                if !isContinuation d then none
                else if 0xF0 ≤ a && a ≤ 0xF4 then
                  if (a == 0xF0 && b < 0x90) || (a == 0xF4 && 0x8F < b) then none
                  else some (Char.ofNat
                    ((((a.toNat - 0xF0) * 64 + low6 b) * 64 + low6 c) * 64 + low6 d), rest)
                else none

/-- Reads characters until the bytes end or are wrong: the characters, last one first, and the
number of bytes that they take. -/
def decodeFrom : Nat → Text → Nat → List UInt8 → Except Nat Text
  | _, found, _, [] => .ok found.reverse
  | 0, _, offset, _ => .error offset
  | fuel + 1, found, offset, bytes =>
    match decodeChar bytes with
    | none => .error offset
    | some (c, rest) => decodeFrom fuel (c :: found) (offset + utf8Width c) rest

/-- The text that the bytes encode, or the length of their longest part from the start that is
text. -/
def decode (bytes : List UInt8) : Except Nat Text :=
  decodeFrom bytes.length [] 0 bytes

end SecretScan.Text.Utf8
