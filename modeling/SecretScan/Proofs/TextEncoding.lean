import Mathlib.Data.List.Basic
import SecretScan.Text.Utf8

/-!
Reading text from bytes undoes writing it. A character is read exactly where its encoding stands:
both the encoding and what is read are sequences of one of four widths, in which the first byte and
the ranges of the others tell the code point. Bytes are then text when they are the encodings of
some characters in a row, and this text is what is read.
-/

namespace SecretScan.Text.Utf8

/-- The bytes are the sequence of a number in one of the four widths: the first byte tells the
width, and the ranges leave out longer forms than needed, surrogates and what is too large. -/
inductive Sequence : List UInt8 → Nat → Prop
  | one {a : UInt8} (ha : a.toNat ≤ 0x7F) : Sequence [a] a.toNat
  | two {a b : UInt8} (ha : 0xC2 ≤ a.toNat ∧ a.toNat ≤ 0xDF) (hb : isContinuation b = true) :
    Sequence [a, b] ((a.toNat - 0xC0) * 64 + low6 b)
  | three {a b c : UInt8} (ha : 0xE0 ≤ a.toNat ∧ a.toNat ≤ 0xEF) (hb : isContinuation b = true)
      (hc : isContinuation c = true) (hlong : a.toNat = 0xE0 → 0xA0 ≤ b.toNat)
      (hsurrogate : a.toNat = 0xED → b.toNat ≤ 0x9F) :
    Sequence [a, b, c] (((a.toNat - 0xE0) * 64 + low6 b) * 64 + low6 c)
  | four {a b c d : UInt8} (ha : 0xF0 ≤ a.toNat ∧ a.toNat ≤ 0xF4) (hb : isContinuation b = true)
      (hc : isContinuation c = true) (hd : isContinuation d = true)
      (hlong : a.toNat = 0xF0 → 0x90 ≤ b.toNat) (hlarge : a.toNat = 0xF4 → b.toNat ≤ 0x8F) :
    Sequence [a, b, c, d] ((((a.toNat - 0xF0) * 64 + low6 b) * 64 + low6 c) * 64 + low6 d)

theorem isContinuation_iff (b : UInt8) :
    isContinuation b = true ↔ 0x80 ≤ b.toNat ∧ b.toNat ≤ 0xBF := by
  simp [isContinuation, UInt8.le_iff_toNat_le]

theorem toNat_of_isContinuation {b : UInt8} (h : isContinuation b = true) :
    b.toNat = 0x80 + low6 b ∧ low6 b < 64 := by
  have hb := (isContinuation_iff b).1 h
  unfold low6
  omega

namespace Sequence

variable {s : List UInt8} {n : Nat}

theorem isValidChar (h : Sequence s n) : n.isValidChar := by
  change n < 0xD800 ∨ 0xDFFF < n ∧ n < 0x110000
  cases h with
  | one ha => omega
  | two ha hb =>
    have hb := toNat_of_isContinuation hb
    omega
  | three ha hb hc hlong hsurrogate =>
    have hb := toNat_of_isContinuation hb
    have hc := toNat_of_isContinuation hc
    omega
  | four ha hb hc hd hlong hlarge =>
    have hb := toNat_of_isContinuation hb
    have hc := toNat_of_isContinuation hc
    have hd := toNat_of_isContinuation hd
    omega

theorem toNat_ofNat (h : Sequence s n) : (Char.ofNat n).val.toNat = n := by
  rw [Char.ofNat, dif_pos h.isValidChar]
  rfl

theorem ofNat_eq {k : Nat} {b : UInt8} (h : k = b.toNat) : UInt8.ofNat k = b := by
  rw [h, UInt8.ofNat_toNat]

/-- A sequence is the encoding of its character. -/
theorem encode (h : Sequence s n) : String.utf8EncodeChar (Char.ofNat n) = s := by
  simp only [String.utf8EncodeChar, h.toNat_ofNat]
  cases h with
  | one ha => rw [if_pos ha, UInt8.ofNat_toNat]
  | @two a b ha hb =>
    have hb := toNat_of_isContinuation hb
    rw [if_neg (by omega), if_pos (by omega)]
    rw [ofNat_eq (b := a) (by omega), ofNat_eq (b := b) (by omega)]
  | @three a b c ha hb hc hlong hsurrogate =>
    have hb := toNat_of_isContinuation hb
    have hc := toNat_of_isContinuation hc
    rw [if_neg (by omega), if_neg (by omega), if_pos (by omega)]
    rw [ofNat_eq (b := a) (by omega), ofNat_eq (b := b) (by omega), ofNat_eq (b := c) (by omega)]
  | @four a b c d ha hb hc hd hlong hlarge =>
    have hb := toNat_of_isContinuation hb
    have hc := toNat_of_isContinuation hc
    have hd := toNat_of_isContinuation hd
    rw [if_neg (by omega), if_neg (by omega), if_neg (by omega)]
    rw [ofNat_eq (b := a) (by omega), ofNat_eq (b := b) (by omega), ofNat_eq (b := c) (by omega),
      ofNat_eq (b := d) (by omega)]

theorem toNat_ofNat_of_lt {k : Nat} (h : k < 256) : (UInt8.ofNat k).toNat = k := by
  rw [UInt8.toNat_ofNat', Nat.mod_eq_of_lt h]

theorem isContinuation_ofNat {k : Nat} (h : k < 64) :
    isContinuation (UInt8.ofNat (k + 0x80)) = true ∧ low6 (UInt8.ofNat (k + 0x80)) = k := by
  have hbyte : (UInt8.ofNat (k + 0x80)).toNat = k + 0x80 := toNat_ofNat_of_lt (by omega)
  constructor
  · rw [isContinuation_iff, hbyte]
    omega
  · unfold low6
    omega

/-- The encoding of a character is a sequence of its code point. Every byte but the first has six
bits of it, whatever the width is. -/
theorem of_char (c : Char) : Sequence (String.utf8EncodeChar c) c.val.toNat := by
  have hvalid : c.val.toNat < 0xD800 ∨ 0xDFFF < c.val.toNat ∧ c.val.toNat < 0x110000 := c.valid
  simp only [String.utf8EncodeChar]
  generalize c.val.toNat = v at hvalid ⊢
  obtain ⟨hd, hlow6d⟩ := isContinuation_ofNat (Nat.mod_lt v (by omega : 64 > 0))
  obtain ⟨hc, hlow6c⟩ := isContinuation_ofNat (Nat.mod_lt (v / 64) (by omega : 64 > 0))
  obtain ⟨hb, hlow6b⟩ := isContinuation_ofNat (Nat.mod_lt (v / 4096) (by omega : 64 > 0))
  have htoNatc := (toNat_of_isContinuation hc).1
  have htoNatb := (toNat_of_isContinuation hb).1
  split
  · have ha : (UInt8.ofNat v).toNat = v := toNat_ofNat_of_lt (by omega)
    have hone := Sequence.one (a := UInt8.ofNat v) (by omega)
    rwa [ha] at hone
  split
  · have ha : (UInt8.ofNat (v / 64 % 32 + 0xC0)).toNat = v / 64 % 32 + 0xC0 :=
      toNat_ofNat_of_lt (by omega)
    have htwo := Sequence.two (a := UInt8.ofNat (v / 64 % 32 + 0xC0)) (by omega) hd
    have hn : (v / 64 % 32 + 0xC0 - 0xC0) * 64 + v % 64 = v := by omega
    rwa [ha, hlow6d, hn] at htwo
  split
  · have ha : (UInt8.ofNat (v / 4096 % 16 + 0xE0)).toNat = v / 4096 % 16 + 0xE0 :=
      toNat_ofNat_of_lt (by omega)
    have hthree := Sequence.three (a := UInt8.ofNat (v / 4096 % 16 + 0xE0)) (by omega) hc hd
      (by omega) (by omega)
    have hn : ((v / 4096 % 16 + 0xE0 - 0xE0) * 64 + v / 64 % 64) * 64 + v % 64 = v := by omega
    rwa [ha, hlow6c, hlow6d, hn] at hthree
  · have ha : (UInt8.ofNat (v / 262144 % 8 + 0xF0)).toNat = v / 262144 % 8 + 0xF0 :=
      toNat_ofNat_of_lt (by omega)
    have hfour := Sequence.four (a := UInt8.ofNat (v / 262144 % 8 + 0xF0)) (by omega) hb hc hd
      (by omega) (by omega)
    have hn : (((v / 262144 % 8 + 0xF0 - 0xF0) * 64 + v / 4096 % 64) * 64 + v / 64 % 64) * 64 +
        v % 64 = v := by omega
    rwa [ha, hlow6b, hlow6c, hlow6d, hn] at hfour

/-- A sequence in front of other bytes is read as its character. -/
theorem decodeChar_append {s : List UInt8} {n : Nat} (h : Sequence s n) (rest : List UInt8) :
    decodeChar (s ++ rest) = some (Char.ofNat n, rest) := by
  cases h with
  | one ha =>
    simp only [List.cons_append, List.nil_append, decodeChar, UInt8.le_iff_toNat_le,
      UInt8.reduceToNat]
    rw [if_pos ha]
  | two ha hb =>
    simp only [List.cons_append, List.nil_append, decodeChar, UInt8.le_iff_toNat_le,
      UInt8.reduceToNat, hb, Bool.not_true, Bool.false_eq_true, if_false, Bool.and_eq_true,
      decide_eq_true_eq]
    rw [if_neg (by omega), if_pos ha]
  | three ha hb hc hlong hsurrogate =>
    simp only [List.cons_append, List.nil_append, decodeChar, UInt8.le_iff_toNat_le,
      UInt8.lt_iff_toNat_lt, ← UInt8.toNat_inj, UInt8.reduceToNat, hb, hc, Bool.not_true,
      Bool.false_eq_true, if_false, Bool.and_eq_true, Bool.or_eq_true, beq_iff_eq,
      decide_eq_true_eq]
    rw [if_neg (by omega), if_neg (by omega), if_pos ha, if_neg (by omega)]
  | four ha hb hc hd hlong hlarge =>
    simp only [List.cons_append, List.nil_append, decodeChar, UInt8.le_iff_toNat_le,
      UInt8.lt_iff_toNat_lt, ← UInt8.toNat_inj, UInt8.reduceToNat, hb, hc, hd, Bool.not_true,
      Bool.false_eq_true, if_false, Bool.and_eq_true, Bool.or_eq_true, beq_iff_eq,
      decide_eq_true_eq]
    rw [if_neg (by omega), if_neg (by omega), if_neg (by omega), if_pos ha, if_neg (by omega)]

/-- Whatever is read is a sequence. -/
theorem exists_of_decodeChar {bytes rest : List UInt8} {c : Char}
    (h : decodeChar bytes = some (c, rest)) :
    ∃ s n, Sequence s n ∧ bytes = s ++ rest ∧ c = Char.ofNat n := by
  rcases bytes with _ | ⟨a, bytes⟩
  · cases h
  simp only [decodeChar, UInt8.le_iff_toNat_le, UInt8.lt_iff_toNat_lt, ← UInt8.toNat_inj,
    UInt8.reduceToNat, Bool.not_eq_true', Bool.and_eq_true, Bool.or_eq_true, beq_iff_eq,
    decide_eq_true_eq] at h
  split at h
  · rename_i ha
    obtain ⟨rfl, rfl⟩ := Prod.mk.inj (Option.some.inj h)
    exact ⟨_, _, .one ha, rfl, rfl⟩
  rcases bytes with _ | ⟨b, bytes⟩
  · cases h
  simp only at h
  split at h
  · cases h
  rename_i hb
  split at h
  · rename_i ha
    obtain ⟨rfl, rfl⟩ := Prod.mk.inj (Option.some.inj h)
    exact ⟨_, _, .two ha (eq_true_of_ne_false hb), rfl, rfl⟩
  rcases bytes with _ | ⟨c', bytes⟩
  · cases h
  simp only at h
  split at h
  · cases h
  rename_i hc
  split at h
  · rename_i ha
    split at h
    · cases h
    rename_i hrange
    obtain ⟨rfl, rfl⟩ := Prod.mk.inj (Option.some.inj h)
    exact ⟨_, _, .three ha (eq_true_of_ne_false hb) (eq_true_of_ne_false hc) (by omega)
      (by omega), rfl, rfl⟩
  rcases bytes with _ | ⟨d, bytes⟩
  · cases h
  simp only at h
  split at h
  · cases h
  rename_i hd
  split at h
  · rename_i ha
    split at h
    · cases h
    rename_i hrange
    obtain ⟨rfl, rfl⟩ := Prod.mk.inj (Option.some.inj h)
    exact ⟨_, _, .four ha (eq_true_of_ne_false hb) (eq_true_of_ne_false hc)
      (eq_true_of_ne_false hd) (by omega) (by omega), rfl, rfl⟩
  · cases h

end Sequence

/-- Characters are read where their encoding stands, and nowhere else. -/
theorem decodeChar_eq_some_iff {bytes rest : List UInt8} {c : Char} :
    decodeChar bytes = some (c, rest) ↔ bytes = String.utf8EncodeChar c ++ rest := by
  constructor
  · intro h
    obtain ⟨s, n, hs, rfl, rfl⟩ := Sequence.exists_of_decodeChar h
    rw [hs.encode]
  · rintro rfl
    rw [(Sequence.of_char c).decodeChar_append]
    exact congrArg some (Prod.ext (Char.ofNat_toNat c) rfl)

def encode (t : Text) : List UInt8 :=
  t.flatMap String.utf8EncodeChar

theorem decodeFrom_nil (fuel : Nat) (found : Text) (offset : Nat) :
    decodeFrom fuel found offset [] = .ok found.reverse := by
  rw [decodeFrom]

theorem decodeFrom_succ {fuel offset : Nat} {found : Text} {bytes rest : List UInt8} {c : Char}
    (h : decodeChar bytes = some (c, rest)) :
    decodeFrom (fuel + 1) found offset bytes =
      decodeFrom fuel (c :: found) (offset + utf8Width c) rest := by
  cases bytes with
  | nil => cases h
  | cons b bytes =>
    rw [decodeFrom, h]
    exact fun hnil => absurd hnil (List.cons_ne_nil b bytes)

theorem decodeFrom_encode {fuel : Nat} {t : Text} (h : (encode t).length ≤ fuel) (found : Text)
    (offset : Nat) : decodeFrom fuel found offset (encode t) = .ok (found.reverse ++ t) := by
  induction t generalizing fuel found offset with
  | nil =>
    change decodeFrom fuel found offset [] = _
    rw [decodeFrom_nil, List.append_nil]
  | cons c t ih =>
    have hread : decodeChar (encode (c :: t)) = some (c, encode t) :=
      decodeChar_eq_some_iff.2 rfl
    have hlength : (encode (c :: t)).length = c.utf8Size + (encode t).length := by
      rw [← String.length_utf8EncodeChar, ← List.length_append]
      rfl
    have hpos := c.utf8Size_pos
    cases fuel with
    | zero => omega
    | succ fuel =>
      rw [decodeFrom_succ hread, ih (by omega), List.reverse_cons, List.append_assoc,
        List.singleton_append]

theorem exists_of_decodeFrom {fuel offset : Nat} {found t : Text} {bytes : List UInt8}
    (h : decodeFrom fuel found offset bytes = .ok t) :
    ∃ read, t = found.reverse ++ read ∧ bytes = encode read := by
  induction fuel generalizing found offset bytes with
  | zero =>
    cases bytes with
    | nil =>
      rw [decodeFrom_nil] at h
      exact ⟨[], (List.append_nil _).symm ▸ (Except.ok.inj h).symm, rfl⟩
    | cons b bytes => cases h
  | succ fuel ih =>
    cases bytes with
    | nil =>
      rw [decodeFrom_nil] at h
      exact ⟨[], (List.append_nil _).symm ▸ (Except.ok.inj h).symm, rfl⟩
    | cons b bytes =>
      cases hread : decodeChar (b :: bytes) with
      | none =>
        rw [decodeFrom, hread] at h
        · cases h
        · exact fun hnil => absurd hnil (List.cons_ne_nil b bytes)
      | some first =>
        obtain ⟨c, rest⟩ := first
        rw [decodeFrom_succ hread] at h
        obtain ⟨read, rfl, rfl⟩ := ih h
        refine ⟨c :: read, ?_, decodeChar_eq_some_iff.1 hread⟩
        rw [List.reverse_cons, List.append_assoc, List.singleton_append]

/-- Bytes are read as a text exactly when they are its encoding. -/
theorem decode_eq_ok_iff {bytes : List UInt8} {t : Text} :
    decode bytes = .ok t ↔ bytes = encode t := by
  constructor
  · intro h
    obtain ⟨read, rfl, rfl⟩ := exists_of_decodeFrom h
    rfl
  · rintro rfl
    exact decodeFrom_encode (Nat.le_refl _) [] 0

section Ends

/-- A sequence begins with a byte that continues nothing, and whatever follows continues it. -/
theorem Sequence.exists_cons {s : List UInt8} {n : Nat} (h : Sequence s n) :
    ∃ first rest, s = first :: rest ∧ isContinuation first = false ∧
      ∀ b ∈ rest, isContinuation b = true := by
  have hfirst {a : UInt8} (ha : a.toNat ≤ 0x7F ∨ 0xC2 ≤ a.toNat) : isContinuation a = false := by
    rw [Bool.eq_false_iff]
    intro hc
    have hbounds := (isContinuation_iff a).1 hc
    omega
  cases h with
  | @one a ha => exact ⟨a, [], rfl, hfirst (by omega), by simp⟩
  | @two a b ha hb => exact ⟨a, [b], rfl, hfirst (by omega), by simp [hb]⟩
  | @three a b c ha hb hc => exact ⟨a, [b, c], rfl, hfirst (by omega), by simp [hb, hc]⟩
  | @four a b c d ha hb hc hd =>
    exact ⟨a, [b, c, d], rfl, hfirst (by omega), by simp [hb, hc, hd]⟩

theorem encode_cons (c : Char) (t : Text) :
    encode (c :: t) = String.utf8EncodeChar c ++ encode t :=
  List.flatMap_cons

theorem encode_append (s t : Text) : encode (s ++ t) = encode s ++ encode t :=
  List.flatMap_append

theorem encode_inj {s t : Text} (h : encode s = encode t) : s = t := by
  have hs : decode (encode s) = .ok s := decode_eq_ok_iff.2 rfl
  have ht : decode (encode s) = .ok t := decode_eq_ok_iff.2 h
  rw [hs] at ht
  exact Except.ok.inj ht

/-- No text begins within bytes that continue a sequence, as the first byte of a text does not. -/
theorem suffix_of_suffix_append {s t : Text} {rest : List UInt8}
    (hrest : ∀ b ∈ rest, isContinuation b = true) (h : encode s <:+ rest ++ encode t) :
    encode s <:+ encode t := by
  by_cases hlong : (encode s).length ≤ (encode t).length
  · exact List.suffix_of_suffix_length_le h (List.suffix_append _ _) hlong
  · obtain ⟨front, hfront⟩ :=
      List.suffix_of_suffix_length_le (List.suffix_append rest (encode t)) h (by omega)
    cases s with
    | nil => exact List.nil_suffix
    | cons c s =>
      obtain ⟨first, behind, hchar, hfirst, -⟩ := (Sequence.of_char c).exists_cons
      cases front with
      | nil => exact absurd (Nat.le_of_eq (congrArg List.length hfront.symm)) hlong
      | cons b front =>
        have hb : b = first := by
          rw [encode_cons, hchar] at hfront
          exact (List.cons.inj hfront).1
        obtain ⟨before, hbefore⟩ := h
        rw [← hfront, ← List.append_assoc] at hbefore
        have hmem : b ∈ rest := by
          rw [← List.append_cancel_right hbefore]
          exact List.mem_append_right before List.mem_cons_self
        rw [← hb, hrest b hmem] at hfirst
        cases hfirst

/-- A text ends with another one when its bytes do: what they end with begins with a byte that
continues nothing, and so it does not begin within a character. -/
theorem encode_suffix_iff {s t : Text} : encode s <:+ encode t ↔ s <:+ t := by
  constructor
  · intro h
    induction t with
    | nil =>
      have hs : encode s = encode [] := List.suffix_nil.1 h
      obtain rfl : s = [] := encode_inj hs
      exact List.suffix_rfl
    | cons c t ih =>
      obtain ⟨first, rest, hchar, -, hrest⟩ := (Sequence.of_char c).exists_cons
      have hbytes : encode (c :: t) = first :: (rest ++ encode t) := by
        rw [encode_cons, hchar]
        rfl
      rw [hbytes] at h
      rcases List.suffix_cons_iff.1 h with hwhole | hinner
      · obtain rfl : s = c :: t := encode_inj (hwhole.trans hbytes.symm)
        exact List.suffix_rfl
      · have hbehind : s <:+ t := ih (suffix_of_suffix_append hrest hinner)
        exact hbehind.trans (List.suffix_cons c t)
  · intro ⟨front, hfront⟩
    rw [← hfront, encode_append]
    exact List.suffix_append _ _

/-- The longer of two texts, of which one ends with the other, has more bytes. -/
theorem length_encode_lt_iff {s t : Text} (h : s <:+ t) :
    (encode s).length < (encode t).length ↔ s.length < t.length := by
  obtain ⟨front, rfl⟩ := h
  have hempty : encode front = [] ↔ front = [] := by
    constructor
    · intro hnil
      exact encode_inj hnil
    · intro hnil
      rw [hnil]
      rfl
  rw [encode_append, List.length_append, List.length_append, Nat.lt_add_left_iff_pos,
    Nat.lt_add_left_iff_pos, List.length_pos_iff, List.length_pos_iff]
  exact not_congr hempty

end Ends

end SecretScan.Text.Utf8
