import SecretScan.Project
import SecretScan.Proofs.LowercaseText

/-!
Sanitizing makes settings sensible, and sensible settings stay as they are. So it makes no difference
how often settings are sanitized on their way to a detector, and whoever asks for a scan need not do
it at all. The least token length is repaired before the greatest one is raised to it, and allowed
texts are trimmed before they are put in lower case; neither step undoes the one before it.
-/

namespace SecretScan

namespace ScanOptions

structure IsSensible (o : ScanOptions) : Prop where
  limit_pos : 1 ≤ o.maxIterations
  limit_le : o.maxIterations ≤ 10000
  shortest_pos : 1 ≤ o.minTokenLength
  shortest_le : o.minTokenLength ≤ o.maxTokenLength
  threshold : o.entropyThreshold.isFinite = true ∧ o.entropyThreshold > 0.0 ∨
    o.entropyThreshold = defaultThreshold
  allowed : ∀ s ∈ o.allowed, s ≠ [] ∧ Text.trim s = s ∧ Text.toLowercase s = s

theorem thresholdOf_eq (x : Float) :
    (x.isFinite = true ∧ x > 0.0) ∧ thresholdOf (some x) = x ∨
      ¬ (x.isFinite = true ∧ x > 0.0) ∧ thresholdOf (some x) = defaultThreshold := by
  unfold thresholdOf
  by_cases hx : x.isFinite = true ∧ x > 0.0
  · exact .inl ⟨hx, if_pos (by simpa using hx)⟩
  · exact .inr ⟨hx, if_neg (by simpa using hx)⟩

theorem mem_cleanAllowed {s : Text} {allowed : List Text} (h : s ∈ cleanAllowed allowed) :
    s ≠ [] ∧ Text.trim s = s ∧ Text.toLowercase s = s := by
  obtain ⟨hmem, hne⟩ := List.mem_filter.1 h
  obtain ⟨raw, -, rfl⟩ := List.mem_map.1 hmem
  refine ⟨fun hnil => ?_, ?_, Text.toLowercase_toLowercase _⟩
  · rw [hnil] at hne
    cases hne
  · exact (Text.isTrimmed_trim raw).toLowercase.trim_eq

theorem cleanAllowed_eq_self {allowed : List Text}
    (h : ∀ s ∈ allowed, s ≠ [] ∧ Text.trim s = s ∧ Text.toLowercase s = s) :
    cleanAllowed allowed = allowed := by
  have hmap : (allowed.map fun s => Text.toLowercase (Text.trim s)) = allowed := by
    conv => rhs; rw [← List.map_id allowed]
    refine List.map_congr_left fun s hs => ?_
    obtain ⟨-, htrim, hlower⟩ := h s hs
    rw [htrim, hlower, id]
  unfold cleanAllowed
  rw [hmap, List.filter_eq_self]
  intro s hs
  simpa using (h s hs).1

theorem isSensible_sanitized (o : ScanOptions) : o.sanitized.IsSensible where
  limit_pos := by
    simp only [sanitized, leastIterations]
    omega
  limit_le := by
    simp only [sanitized, leastIterations, mostIterations]
    omega
  shortest_pos := by
    simp only [sanitized, defaultMinLength, beq_iff_eq]
    split <;> omega
  shortest_le := by
    simp only [sanitized]
    omega
  threshold := by
    rcases thresholdOf_eq o.entropyThreshold with ⟨hx, heq⟩ | ⟨-, heq⟩
    · simp only [sanitized, heq]
      exact .inl hx
    · exact .inr heq
  allowed _ hs := mem_cleanAllowed hs

theorem thresholdOf_eq_self {x : Float}
    (h : x.isFinite = true ∧ x > 0.0 ∨ x = defaultThreshold) : thresholdOf (some x) = x := by
  rcases thresholdOf_eq x with ⟨-, heq⟩ | ⟨hx, heq⟩
  · exact heq
  · rw [heq, h.resolve_left hx]

/-- Sensible settings are left alone. -/
theorem IsSensible.sanitized_eq {o : ScanOptions} (h : o.IsSensible) : o.sanitized = o := by
  have hlimit : max leastIterations (min mostIterations o.maxIterations) = o.maxIterations := by
    have := h.limit_pos
    have := h.limit_le
    unfold leastIterations mostIterations
    omega
  have hshortest : (if o.minTokenLength == 0 then defaultMinLength else o.minTokenLength) =
      o.minTokenLength := by
    have := h.shortest_pos
    rw [if_neg (by simp; omega)]
  simp only [sanitized, hlimit, hshortest, thresholdOf_eq_self h.threshold,
    cleanAllowed_eq_self h.allowed, Nat.max_eq_left h.shortest_le]

theorem sanitized_sanitized (o : ScanOptions) : o.sanitized.sanitized = o.sanitized :=
  o.isSensible_sanitized.sanitized_eq

/-- Sanitizing once is enough, and nobody who scans has to do it: the settings become sensible, the
threshold is kept where it makes sense and is the default one elsewhere, and scans of texts and
projects come to the same whether the settings were sanitized before or not. -/
theorem sanitized_invisible (o : ScanOptions) :
    o.sanitized.sanitized = o.sanitized ∧
      o.sanitized.IsSensible ∧
      ((o.entropyThreshold.isFinite = true ∧ o.entropyThreshold > 0.0) ∧
          o.sanitized.entropyThreshold = o.entropyThreshold ∨
        ¬ (o.entropyThreshold.isFinite = true ∧ o.entropyThreshold > 0.0) ∧
          o.sanitized.entropyThreshold = defaultThreshold) ∧
      (∀ content, scanText content o.sanitized = scanText content o) ∧
      (∀ bytes, scanBytes bytes o.sanitized = scanBytes bytes o) ∧
      (∀ content, scanBuiltin content o.sanitized = scanBuiltin content o) ∧
      (∀ line number, scanHighEntropy line number o.sanitized = scanHighEntropy line number o) ∧
      ∀ rules projectRoot allKinds w roots,
        ProjectScanner.scan
            { ProjectScanner.new o.sanitized rules with projectRoot, allKinds } w roots =
          ProjectScanner.scan { ProjectScanner.new o rules with projectRoot, allKinds } w roots := by
  have hscanner : Scanner.ofOptions o.sanitized = Scanner.ofOptions o := by
    unfold Scanner.ofOptions
    rw [sanitized_sanitized]
  have hentropy : Detector.highEntropy o.sanitized = Detector.highEntropy o := by
    unfold Detector.highEntropy
    rw [sanitized_sanitized]
  have hproject (rules : SelectionRules) :
      ProjectScanner.new o.sanitized rules = ProjectScanner.new o rules := by
    unfold ProjectScanner.new
    rw [sanitized_sanitized]
  refine ⟨o.sanitized_sanitized, o.isSensible_sanitized, thresholdOf_eq o.entropyThreshold,
    ?_, ?_, ?_, ?_, ?_⟩
  · intro content
    unfold scanText
    rw [hscanner]
  · intro bytes
    unfold scanBytes
    rw [hscanner]
  · intro content
    unfold scanBuiltin
    rw [sanitized_sanitized]
  · intro line number
    unfold scanHighEntropy
    rw [hentropy]
  · intro rules projectRoot allKinds w roots
    rw [hproject]

end ScanOptions

end SecretScan
