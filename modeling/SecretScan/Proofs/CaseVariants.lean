import SecretScan.Pattern.CharSet

/-!
Case variants across the border of ASCII. Two characters, one of them ASCII, are case variants of
each other or not, whichever of them is asked: among the other characters only the Kelvin sign and
the long s have ASCII variants. The set of an ASCII character with case ignored can therefore be
read off the variants of this one character.
-/

namespace SecretScan.Text

theorem mem_caseVariants_of_isAscii {w c : Char} (hw : isAscii w = true)
    (h : c ∈ caseVariants w) : w ∈ caseVariants c := by
  have hall : ∀ n < 128, (caseVariants (Char.ofNat n)).all
      (fun v => (caseVariants v).contains (Char.ofNat n)) = true := by decide
  have hw := hall w.toNat (of_decide_eq_true hw)
  rw [Char.ofNat_toNat, List.all_eq_true] at hw
  exact List.contains_iff_mem.1 (hw c h)

/-- The pairs of variants lie above ASCII, and never leave the code points of characters. -/
theorem toNat_ofNat_variantPartner {code other : Nat} (h : variantPartner? code = some other) :
    128 ≤ (Char.ofNat other).toNat := by
  have hruns : ∀ run ∈ variantPairs, 128 ≤ run.first ∧ 0 ≤ run.shift ∧
      (run.last + run.shift.toNat < 0xD800 ∨
        0xDFFF < run.first ∧ run.last + run.shift.toNat < 0x110000) := by decide +kernel
  have hwithin : ∃ run ∈ variantPairs, run.first ≤ other ∧ other ≤ run.last + run.shift.toNat := by
    unfold variantPartner? at h
    split at h
    · rename_i image himage
      obtain rfl := Option.some.inj h
      obtain ⟨run, hfound, hother⟩ := Option.map_eq_some_iff.1 himage
      have hrun := List.mem_of_find?_eq_some hfound
      have hcovers := List.find?_some hfound
      have hshift := (hruns run hrun).2.1
      simp only [CaseRun.covers, Bool.and_eq_true, decide_eq_true_eq] at hcovers
      simp only [Int.ofNat_eq_natCast] at hother
      exact ⟨run, hrun, by omega, by omega⟩
    · obtain ⟨run, hfound, rfl⟩ := Option.map_eq_some_iff.1 h
      have hcovers := List.find?_some hfound
      simp only [CaseRun.covers, Bool.and_eq_true, decide_eq_true_eq] at hcovers
      exact ⟨run, List.mem_of_find?_eq_some hfound, by omega, by omega⟩
  obtain ⟨run, hrun, hfirst, hlast⟩ := hwithin
  have hrange := hruns run hrun
  have hvalid : other.isValidChar := by
    rw [Nat.isValidChar]
    omega
  rw [Char.ofNat, dif_pos hvalid]
  exact Nat.le_trans hrange.1 hfirst

theorem mem_caseVariants_of_not_isAscii {w c : Char} (hw : isAscii w = true)
    (hc : ¬ isAscii c = true) (h : w ∈ caseVariants c) : c ∈ caseVariants w := by
  have hclasses : ∀ codes ∈ variantClasses, ∀ a ∈ codes, ¬ a < 128 → ∀ b ∈ codes,
      (Char.ofNat b).toNat < 128 → Char.ofNat a ∈ caseVariants (Char.ofNat b) := by
    decide
  have hlt : w.toNat < 128 := of_decide_eq_true hw
  rw [caseVariants, if_neg hc] at h
  split at h
  · rename_i codes hcodes
    have hcode : codes.contains c.toNat = true :=
      List.find?_some (p := fun codes : List Nat => codes.contains c.toNat) hcodes
    obtain ⟨b, hb, rfl⟩ := List.mem_map.1 h
    have hmem := hclasses codes (List.mem_of_find?_eq_some hcodes) c.toNat
      (List.contains_iff_mem.1 hcode) (fun hlt => hc (decide_eq_true hlt)) b
      (List.mem_filter.1 hb).1 hlt
    rwa [Char.ofNat_toNat] at hmem
  · obtain ⟨other, hother, rfl⟩ := Option.map_eq_some_iff.1 (Option.mem_toList.1 h)
    have hle := toNat_ofNat_variantPartner hother
    omega

theorem mem_caseVariants_comm {w c : Char} (hw : isAscii w = true) :
    w ∈ caseVariants c ↔ c ∈ caseVariants w := by
  refine ⟨fun h => ?_, mem_caseVariants_of_isAscii hw⟩
  by_cases hc : isAscii c = true
  · exact mem_caseVariants_of_isAscii hc h
  · exact mem_caseVariants_of_not_isAscii hw hc h

end Text

namespace CharSet

variable {w c : Char}

theorem contains_single : (single w).contains c = true ↔ c = w := by
  rw [single, contains, Bool.and_eq_true, decide_eq_true_eq, decide_eq_true_eq]
  exact ⟨fun ⟨hle, hge⟩ => Char.le_antisymm hge hle, fun h => h ▸ ⟨Char.le_refl _, Char.le_refl _⟩⟩

theorem contains_foldCase_single (hw : Text.isAscii w = true) :
    (foldCase (single w)).contains c = true ↔ c = w ∨ c ∈ Text.caseVariants w := by
  rw [contains, Bool.or_eq_true, contains_single, List.any_eq_true,
    ← Text.mem_caseVariants_comm hw]
  simp only [contains_single, exists_eq_right]

theorem contains_anyCase (hw : Text.isAscii w = true) :
    (anyCase w).contains c = true ↔ c = w ∨ c ∈ Text.caseVariants w := by
  unfold anyCase
  split
  · rename_i hempty
    rw [contains_single, List.isEmpty_iff.1 hempty]
    simp only [List.not_mem_nil, or_false]
  · exact contains_foldCase_single hw

end CharSet

end SecretScan
