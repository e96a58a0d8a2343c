import Mathlib.Data.List.Forall2
import Mathlib.Data.Nat.Bitwise
import SecretScan.Text.Basic
import SecretScan.Text.CaseMap

/-!
Texts in lower case. What a character becomes in lower case stays as it is when it is put in lower
case again, and it is white space only if the character was. Both pass from characters to texts: a
capital sigma is the only letter that is read in its context, and nothing becomes one. The tables
are compared as sets of code points, each written as the bits of one number.
-/

namespace SecretScan.Text

section Tables

def bitSet (codes : List Nat) : Nat :=
  codes.foldr (fun code set => 1 <<< code ||| set) 0

theorem testBit_bitSet {codes : List Nat} {code : Nat} (h : code ∈ codes) :
    (bitSet codes).testBit code = true := by
  induction codes with
  | nil => cases h
  | cons first codes ih =>
    rw [bitSet, List.foldr_cons, ← bitSet, Nat.testBit_or, Bool.or_eq_true]
    rcases List.mem_cons.1 h with rfl | h
    · exact .inl (by simp)
    · exact .inr (ih h)

theorem not_mem_of_land_bitSet {codes others : List Nat} (h : bitSet codes &&& bitSet others = 0)
    {code : Nat} (hcode : code ∈ codes) : code ∉ others := by
  intro hother
  have hbit := congrArg (Nat.testBit · code) h
  simp only [Nat.testBit_and, testBit_bitSet hcode, testBit_bitSet hother, Nat.zero_testBit,
    Bool.and_self, Bool.true_eq_false] at hbit

namespace CaseRun

def members (run : CaseRun) : List Nat :=
  (List.range ((run.last - run.first) / run.stride + 1)).map fun i => run.first + run.stride * i

def images (run : CaseRun) : List Nat :=
  run.members.map fun code => (Int.ofNat code + run.shift).toNat

theorem mem_members {run : CaseRun} {code : Nat} (h : run.covers code = true) :
    code ∈ run.members := by
  simp only [covers, Bool.and_eq_true, decide_eq_true_eq, beq_iff_eq] at h
  obtain ⟨⟨hfirst, hlast⟩, hstride⟩ := h
  refine List.mem_map.2 ⟨(code - run.first) / run.stride, ?_, ?_⟩
  · have hle : (code - run.first) / run.stride ≤ (run.last - run.first) / run.stride :=
      Nat.div_le_div_right (by omega)
    exact List.mem_range.2 (by omega)
  · rw [Nat.mul_div_cancel' (Nat.dvd_of_mod_eq_zero hstride)]
    omega

theorem mem_images_of_image? {runs : List CaseRun} {code image : Nat}
    (h : image? runs code = some image) : image ∈ runs.flatMap images := by
  obtain ⟨run, hrun, rfl⟩ := Option.map_eq_some_iff.1 h
  refine List.mem_flatMap.2 ⟨run, List.mem_of_find?_eq_some hrun, ?_⟩
  have hcovers := List.find?_some hrun
  exact List.mem_map_of_mem (mem_members hcovers)

theorem image?_eq_none {runs : List CaseRun} {code : Nat} (h : code ∉ runs.flatMap members) :
    image? runs code = none := by
  rw [image?, Option.map_eq_none_iff, List.find?_eq_none]
  intro run hrun hcovers
  exact h (List.mem_flatMap.2 ⟨run, hrun, mem_members hcovers⟩)

end CaseRun

def capitals : List Nat :=
  List.range' 0x41 26 ++ 0x130 :: lowerRuns.flatMap (·.members)

def spaces : List Nat :=
  List.range' 9 5 ++ [0x20, 0x85, 0xA0, 0x1680] ++ List.range' 0x2000 11 ++
    [0x2028, 0x2029, 0x202F, 0x205F, 0x3000]

theorem mem_spaces {c : Char} (h : isWhitespace c = true) : c.toNat ∈ spaces := by
  simp only [isWhitespace, Bool.or_eq_true, Bool.and_eq_true, decide_eq_true_eq, beq_iff_eq] at h
  simp only [spaces, List.mem_append, List.mem_range'_1, List.mem_cons, List.not_mem_nil]
  omega

/-- Letters in lower case are no capitals, and no white space either. -/
theorem land_images : bitSet (lowerRuns.flatMap (·.images)) &&& bitSet (capitals ++ spaces) = 0 := by
  decide +kernel

end Tables

section Characters

def IsLower (c : Char) : Prop :=
  c.toNat ≠ 0x3A3 ∧ lowerChar c = [c]

structure IsImage (c : Char) (image : List Char) : Prop where
  ne_nil : image ≠ []
  isLower : ∀ x ∈ image, IsLower x
  visible : isWhitespace c = false → ∀ x ∈ image, isWhitespace x = false

theorem isImage_singleton {c x : Char} (hlower : IsLower x)
    (hvisible : isWhitespace c = false → isWhitespace x = false) : IsImage c [x] where
  ne_nil := List.cons_ne_nil _ _
  isLower _ hy := List.mem_singleton.1 hy ▸ hlower
  visible hc _ hy := List.mem_singleton.1 hy ▸ hvisible hc

/-- The first characters are few enough to be looked at one by one. -/
theorem toLower_of_isAscii {c : Char} (hc : isAscii c = true)
    (h : c.toNat ∉ List.range' 0x41 26) : c.toLower = c := by
  have hall : ∀ n < 128, n ∉ List.range' 0x41 26 → (Char.ofNat n).toLower = Char.ofNat n := by
    decide
  have hlower := hall c.toNat (of_decide_eq_true hc) h
  rwa [Char.ofNat_toNat] at hlower

theorem isLower_of_not_mem {c : Char} (h : c.toNat ∉ capitals) : IsLower c := by
  simp only [capitals, List.mem_append, List.mem_cons, not_or] at h
  obtain ⟨hascii, hdotted, hruns⟩ := h
  refine ⟨fun hsigma => hruns ?_, ?_⟩
  · rw [hsigma]
    exact List.mem_flatMap.2 ⟨⟨0x3A3, 0x3AB, 1, 32⟩, by decide, by decide⟩
  · have hdotted : ¬ (c.toNat == 0x130) = true := mt eq_of_beq hdotted
    by_cases hc : isAscii c = true
    · rw [lowerChar, if_pos hc, toLower_of_isAscii hc hascii]
    · rw [lowerChar, if_neg hc, if_neg hdotted, CaseRun.image?_eq_none hruns]
      rfl

/-- The code point of an image; what is no code point of a character counts as zero. -/
theorem toNat_ofNat_eq (n : Nat) : (Char.ofNat n).toNat = n ∨ (Char.ofNat n).toNat = 0 := by
  rw [Char.ofNat]
  by_cases hvalid : n.isValidChar
  · rw [dif_pos hvalid]
    exact .inl rfl
  · rw [dif_neg hvalid]
    exact .inr rfl

theorem not_mem_of_image? {code image : Nat} (h : CaseRun.image? lowerRuns code = some image) :
    (Char.ofNat image).toNat ∉ capitals ++ spaces := by
  rcases toNat_ofNat_eq image with hcode | hcode
  · rw [hcode]
    exact not_mem_of_land_bitSet land_images (CaseRun.mem_images_of_image? h)
  · rw [hcode]
    decide +kernel

theorem isImage_toLower {c : Char} (hc : isAscii c = true) : IsImage c [c.toLower] := by
  have hall : ∀ n < 128, isAscii (Char.ofNat n).toLower = true ∧
      (Char.ofNat n).toLower.toNat ∉ List.range' 0x41 26 ∧
      isWhitespace (Char.ofNat n).toLower = isWhitespace (Char.ofNat n) := by decide
  have hall := hall c.toNat (of_decide_eq_true hc)
  rw [Char.ofNat_toNat] at hall
  obtain ⟨hascii, hcapital, hspace⟩ := hall
  refine isImage_singleton ⟨?_, ?_⟩ fun hc => hspace.trans hc
  · have hlt : c.toLower.toNat < 128 := of_decide_eq_true hascii
    omega
  · rw [lowerChar, if_pos hascii, toLower_of_isAscii hascii hcapital]

/-- The capital I with a dot becomes two characters. -/
theorem isImage_dotted (c : Char) : IsImage c [Char.ofNat 0x69, Char.ofNat 0x307] where
  ne_nil := List.cons_ne_nil _ _
  isLower := List.forall_mem_cons.2 ⟨⟨by decide, by decide +kernel⟩,
    List.forall_mem_singleton.2 ⟨by decide, by decide +kernel⟩⟩
  visible _ := List.forall_mem_cons.2 ⟨by decide,
    List.forall_mem_singleton.2 (by decide)⟩

theorem isImage_lowerChar {c : Char} (hsigma : c.toNat ≠ 0x3A3) : IsImage c (lowerChar c) := by
  by_cases hascii : isAscii c = true
  · rw [lowerChar, if_pos hascii]
    exact isImage_toLower hascii
  by_cases hdotted : (c.toNat == 0x130) = true
  · rw [lowerChar, if_neg hascii, if_pos hdotted]
    exact isImage_dotted c
  cases himage : CaseRun.image? lowerRuns c.toNat with
  | none =>
    have hlower : lowerChar c = [c] := by
      rw [lowerChar, if_neg hascii, if_neg hdotted, himage]
      rfl
    rw [hlower]
    exact isImage_singleton ⟨hsigma, hlower⟩ id
  | some image =>
    have hlower : lowerChar c = [Char.ofNat image] := by
      rw [lowerChar, if_neg hascii, if_neg hdotted, himage]
      rfl
    have hnot := not_mem_of_image? himage
    rw [List.mem_append, not_or] at hnot
    rw [hlower]
    exact isImage_singleton (isLower_of_not_mem hnot.1) fun _ =>
      Bool.eq_false_iff.2 (mt mem_spaces hnot.2)

/-- Both forms of the letter sigma in lower case are images of the capital one. -/
theorem isImage_sigma (c : Char) (final : Bool) :
    IsImage c [Char.ofNat (if final then 0x3C2 else 0x3C3)] := by
  have hlower : ∀ final : Bool, (Char.ofNat (if final then 0x3C2 else 0x3C3)).toNat ≠ 0x3A3 ∧
      lowerChar (Char.ofNat (if final then 0x3C2 else 0x3C3)) =
        [Char.ofNat (if final then 0x3C2 else 0x3C3)] ∧
      isWhitespace (Char.ofNat (if final then 0x3C2 else 0x3C3)) = false := by decide
  obtain ⟨hsigma, hfixed, hspace⟩ := hlower final
  exact isImage_singleton ⟨hsigma, hfixed⟩ fun _ => hspace

end Characters

section Texts

/-- A text in lower case is made of images of its characters, one after another. -/
theorem exists_images (before s : Text) :
    ∃ images, List.Forall₂ IsImage s images ∧ lowerWalk before s = images.flatten := by
  induction s generalizing before with
  | nil => exact ⟨[], .nil, rfl⟩
  | cons c rest ih =>
    obtain ⟨images, hrest, heq⟩ := ih (c :: before)
    rw [lowerWalk, heq]
    by_cases hsigma : c.toNat = 0x3A3
    · exact ⟨_ :: images, .cons (isImage_sigma c _) hrest, by rw [if_pos (beq_iff_eq.2 hsigma)]; rfl⟩
    · exact ⟨_ :: images, .cons (isImage_lowerChar hsigma) hrest,
        by rw [if_neg (mt eq_of_beq hsigma)]; rfl⟩

theorem isLower_of_mem_toLowercase {s : Text} {x : Char} (hx : x ∈ toLowercase s) : IsLower x := by
  obtain ⟨images, himages, heq⟩ := exists_images [] s
  rw [toLowercase, heq] at hx
  obtain ⟨image, himage, hx⟩ := List.mem_flatten.1 hx
  obtain ⟨i, hi, rfl⟩ := List.getElem_of_mem himage
  exact (himages.get (himages.length_eq ▸ hi) hi).isLower x hx

theorem toLowercase_ne_nil {s : Text} (h : s ≠ []) : toLowercase s ≠ [] := by
  obtain ⟨images, himages, heq⟩ := exists_images [] s
  rw [toLowercase, heq]
  cases himages with
  | nil => exact absurd rfl h
  | cons hc hrest => exact List.append_ne_nil_of_left_ne_nil hc.ne_nil _

theorem lowerWalk_of_isLower (before : Text) {s : Text} (h : ∀ x ∈ s, IsLower x) :
    lowerWalk before s = s := by
  induction s generalizing before with
  | nil => rfl
  | cons c rest ih =>
    obtain ⟨hsigma, hlower⟩ := h c List.mem_cons_self
    rw [lowerWalk, if_neg (mt eq_of_beq hsigma), hlower,
      ih (c :: before) fun x hx => h x (List.mem_cons_of_mem c hx)]
    rfl

theorem toLowercase_toLowercase (s : Text) : toLowercase (toLowercase s) = toLowercase s :=
  lowerWalk_of_isLower [] fun _ hx => isLower_of_mem_toLowercase hx

structure IsTrimmed (s : Text) : Prop where
  head_visible : ∀ c, s.head? = some c → isWhitespace c = false
  last_visible : ∀ c, s.getLast? = some c → isWhitespace c = false

theorem IsTrimmed.trim_eq {s : Text} (h : IsTrimmed s) : trim s = s := by
  have hstart : trimStart s = s := by
    cases s with
    | nil => rfl
    | cons c rest => exact List.dropWhile_cons_of_neg (Bool.eq_false_iff.1 (h.head_visible c rfl))
  have hend : trimEnd s = s := by
    rcases List.eq_nil_or_concat' s with rfl | ⟨front, c, rfl⟩
    · rfl
    · have hc : ¬ isWhitespace c = true := Bool.eq_false_iff.1 (h.last_visible c (by simp))
      rw [trimEnd, List.reverse_concat, List.dropWhile_cons_of_neg hc,
        ← List.reverse_concat, List.reverse_reverse]
  rw [trim, hstart, hend]

theorem isTrimmed_trim (s : Text) : IsTrimmed (trim s) where
  head_visible c hc := by
    obtain ⟨behind, hprefix⟩ : trim s <+: trimStart s := by
      rw [trim, trimEnd, ← List.reverse_suffix, List.reverse_reverse]
      exact List.dropWhile_suffix isWhitespace
    have hstart := List.head?_dropWhile_not isWhitespace s
    have hhead : (trimStart s).head? = some c := by
      rw [← hprefix, List.head?_append, hc, Option.some_or]
    rw [← trimStart, hhead] at hstart
    simpa using hstart
  last_visible c hc := by
    have hend := List.head?_dropWhile_not isWhitespace (trimStart s).reverse
    rw [trim, trimEnd, List.getLast?_reverse] at hc
    rw [hc] at hend
    simpa using hend

/-- Trimmed texts stay trimmed in lower case. -/
theorem IsTrimmed.toLowercase {s : Text} (h : IsTrimmed s) : IsTrimmed (toLowercase s) := by
  obtain ⟨images, himages, heq⟩ := exists_images [] s
  rw [Text.toLowercase, heq]
  constructor
  case head_visible =>
    intro x hx
    cases himages with
    | nil => cases hx
    | cons hc hrest =>
      rw [List.flatten_cons, List.head?_append_of_ne_nil _ hc.ne_nil] at hx
      exact hc.visible (h.head_visible _ rfl) x (List.mem_of_head? hx)
  case last_visible =>
    intro x hx
    rcases List.eq_nil_or_concat' s with rfl | ⟨front, c, rfl⟩
    · obtain rfl := List.forall₂_nil_left_iff.1 himages
      cases hx
    · have himages := List.forall₂_reverse_iff.2 himages
      rw [List.reverse_concat] at himages
      obtain ⟨image, rest, hc, -, hrest⟩ := List.forall₂_cons_left_iff.1 himages
      rw [List.reverse_eq_iff, List.reverse_cons] at hrest
      rw [hrest, List.flatten_append, List.flatten_singleton,
        List.getLast?_append_of_ne_nil _ hc.ne_nil] at hx
      exact hc.visible (h.last_visible c (by simp)) x (List.mem_of_getLast? hx)

end Texts

end SecretScan.Text
