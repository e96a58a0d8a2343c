import SecretScan.Proofs.TextEncoding
import SecretScan.Scanner

/-!
What becomes of bytes that encode no text. They are read up to a place where no character stands,
because a sequence is malformed there or cut short, and this place is reported. In front of it is
the longest part of the bytes, from their start, that encodes a text: whatever else encodes a text
there is read as the same characters, so it ends no later.
-/

namespace SecretScan

namespace Text.Utf8

def IsText (bytes : List UInt8) : Prop :=
  ∃ t, bytes = encode t

structure IsLongestText (bytes : List UInt8) (length : Nat) : Prop where
  length_le : length ≤ bytes.length
  isText_take : IsText (bytes.take length)
  le_of_isText : ∀ n, n ≤ bytes.length → IsText (bytes.take n) → n ≤ length

theorem decodeChar_encode_cons (c : Char) (t : Text) (rest : List UInt8) :
    decodeChar (encode (c :: t) ++ rest) = some (c, encode t ++ rest) := by
  apply decodeChar_eq_some_iff.2
  rw [encode_cons, List.append_assoc]

theorem length_encode_cons (c : Char) (t : Text) :
    (encode (c :: t)).length = utf8Width c + (encode t).length := by
  rw [encode_cons, List.length_append, String.length_utf8EncodeChar]
  rfl

theorem length_encode_le {s t : Text} (h : s <+: t) :
    (encode s).length ≤ (encode t).length := by
  obtain ⟨behind, hbehind⟩ := h
  rw [← hbehind, encode_append, List.length_append]
  omega

/-- Where no character stands behind a text, every text at the start is a part of it. -/
theorem prefix_of_encode_prefix_encode {s t : Text} {rest : List UInt8}
    (hrest : decodeChar rest = none) (h : encode s <+: encode t ++ rest) : s <+: t := by
  induction s generalizing t with
  | nil => exact List.nil_prefix
  | cons c s ih =>
    obtain ⟨behind, hbehind⟩ := h
    have hread := decodeChar_encode_cons c s behind
    rw [hbehind] at hread
    cases t with
    | nil =>
      have hnone : decodeChar (encode [] ++ rest) = none := hrest
      rw [hnone] at hread
      cases hread
    | cons d t =>
      rw [decodeChar_encode_cons] at hread
      obtain ⟨hchar, htail⟩ := Prod.mk.inj (Option.some.inj hread)
      have hinner : s <+: t := ih ⟨behind, htail.symm⟩
      rw [hchar]
      exact (List.prefix_cons_inj c).2 hinner

/-- Reading fails behind a text, where no character stands, and tells how long the text is. -/
theorem exists_of_decodeFrom_error {fuel offset length : Nat} {found : Text} {bytes : List UInt8}
    (hfuel : bytes.length ≤ fuel) (h : decodeFrom fuel found offset bytes = .error length) :
    ∃ t rest, bytes = encode t ++ rest ∧ decodeChar rest = none ∧
      length = offset + (encode t).length := by
  induction fuel generalizing found offset bytes with
  | zero =>
    have hnil : bytes = [] := List.length_eq_zero_iff.1 (Nat.le_zero.1 hfuel)
    rw [hnil, decodeFrom_nil] at h
    cases h
  | succ fuel ih =>
    cases bytes with
    | nil =>
      rw [decodeFrom_nil] at h
      cases h
    | cons b bytes =>
      cases hread : decodeChar (b :: bytes) with
      | none =>
        rw [decodeFrom, hread] at h
        · exact ⟨[], b :: bytes, rfl, hread, (Except.error.inj h).symm⟩
        · exact fun hnil => absurd hnil (List.cons_ne_nil b bytes)
      | some first =>
        obtain ⟨c, behind⟩ := first
        rw [decodeFrom_succ hread] at h
        have hbytes : b :: bytes = String.utf8EncodeChar c ++ behind :=
          decodeChar_eq_some_iff.1 hread
        have hlength := congrArg List.length hbytes
        have hpos := c.utf8Size_pos
        rw [List.length_append, String.length_utf8EncodeChar] at hlength
        obtain ⟨t, rest, hbehind, hrest, hoffset⟩ := ih (by omega) h
        refine ⟨c :: t, rest, ?_, hrest, ?_⟩
        · rw [hbytes, hbehind, encode_cons, List.append_assoc]
        · rw [length_encode_cons]
          omega

/-- The place where reading fails ends the longest text at the start of the bytes. -/
theorem isLongestText_of_decode {bytes : List UInt8} {length : Nat}
    (h : decode bytes = .error length) : IsLongestText bytes length := by
  obtain ⟨t, rest, hbytes, hrest, hlength⟩ := exists_of_decodeFrom_error (Nat.le_refl _) h
  rw [Nat.zero_add] at hlength
  refine ⟨?_, ?_, ?_⟩
  · rw [hbytes, hlength, List.length_append]
    omega
  · refine ⟨t, ?_⟩
    rw [hbytes, hlength, List.take_left]
  · intro n hn ⟨s, hs⟩
    have hstart : encode s <+: encode t ++ rest := by
      rw [← hs, ← hbytes]
      exact List.take_prefix n bytes
    have hle := length_encode_le (prefix_of_encode_prefix_encode hrest hstart)
    rw [← hs, List.length_take, Nat.min_eq_left hn] at hle
    omega

theorem IsLongestText.unique {bytes : List UInt8} {m n : Nat} (hm : IsLongestText bytes m)
    (hn : IsLongestText bytes n) : m = n := by
  apply Nat.le_antisymm
  · exact hn.le_of_isText m hm.length_le hm.isText_take
  · exact hm.le_of_isText n hn.length_le hn.isText_take

end Text.Utf8

namespace Scanner

open Text.Utf8

/-- Bytes that encode a text are reported on as the text is. All others are refused, under the label
that was given, or else the file name of the options, with the length of the longest text at their
start. -/
theorem scanBytes_refuses (o : ScanOptions) (bytes : List UInt8) (file : Option Text) :
    (∀ t, bytes = encode t →
        (ofOptions o).scanBytes bytes file = .ok ((ofOptions o).scan t file)) ∧
      (¬ IsText bytes → ∃ length, IsLongestText bytes length ∧
        (ofOptions o).scanBytes bytes file =
          .error (.nonText ((file.or o.filename).getD "<input>") length)) := by
  constructor
  · intro t hbytes
    rw [scanBytes, decode_eq_ok_iff.2 hbytes]
  · intro hbytes
    rw [scanBytes]
    cases hdecode : decode bytes with
    | ok t => exact absurd ⟨t, decode_eq_ok_iff.1 hdecode⟩ hbytes
    | error length => exact ⟨length, isLongestText_of_decode hdecode, rfl⟩

/-- A letter and the first two bytes of a euro sign, which has three. -/
def cutShort : List UInt8 := [0x6B, 0xE2, 0x82]

theorem decode_cutShort : decode cutShort = .error 1 := by decide

/-- The euro sign is read where it is whole. Where it is cut short the letter in front of it is all
that is text. -/
theorem scanBytes_refuses_cutShort :
    cutShort ++ [0xAC] = encode "k€".toList ∧
      (ofOptions {}).scanBytes (cutShort ++ [0xAC]) none =
        .ok ((ofOptions {}).scan "k€".toList none) ∧
      ¬ IsText cutShort ∧
      (ofOptions {}).scanBytes cutShort (some "notes.txt") =
        .error (.nonText "notes.txt".toList 1) := by
  have hwhole : cutShort ++ [0xAC] = encode "k€".toList := by decide
  have hcut : ¬ IsText cutShort := by
    intro ⟨t, ht⟩
    have hread := decode_eq_ok_iff.2 ht
    rw [decode_cutShort] at hread
    cases hread
  obtain ⟨hread, -⟩ := scanBytes_refuses {} (cutShort ++ [0xAC]) none
  obtain ⟨-, hrefused⟩ := scanBytes_refuses {} cutShort (some "notes.txt")
  obtain ⟨length, hlongest, hreport⟩ := hrefused hcut
  obtain rfl : length = 1 := hlongest.unique (isLongestText_of_decode decode_cutShort)
  exact ⟨hwhole, hread _ hwhole, hcut, hreport⟩

end Scanner

end SecretScan
