import SecretScan.CommandLine.Overrides

/-!
How far arguments take the place of a configuration. Two configurations that agree on all that the
arguments leave to them give the same settings of a scan but for the longest token. The
configuration is sanitized before the arguments are applied, and by then its longest token is no
shorter than its shortest one. So an overridden shortest length can still show in the longest one,
unless that is overridden as well.
-/

namespace SecretScan

def ScanOptions.shortestOf (length : Nat) : Nat :=
  if length == 0 then defaultMinLength else length

def ScanOptions.withLongest (o : ScanOptions) (length : Nat) : ScanOptions :=
  { o with maxTokenLength := length }

namespace Config

def shortest (c : Config) : Nat :=
  ScanOptions.shortestOf
    (ScanOptions.tokenLengthOf c.minTokenLength.toFloat? ScanOptions.defaultMinLength)

def longest (c : Config) : Nat :=
  ScanOptions.tokenLengthOf c.maxTokenLength.toFloat? ScanOptions.defaultMaxLength

end Config

namespace Arguments

/-- The configurations agree on all settings of a scan that the arguments leave to them. -/
structure LeavesEqual (a : Arguments) (c c' : Config) : Prop where
  disabled : c.disabled = c'.disabled
  enableEntropy : c.enableEntropy = c'.enableEntropy
  patterns : c.patterns = c'.patterns
  maxIterations : a.maxIterations = none → c.maxIterations = c'.maxIterations
  entropyThreshold : a.entropyThreshold = none → c.entropyThreshold = c'.entropyThreshold
  minTokenLength : a.minTokenLength = none → c.minTokenLength = c'.minTokenLength
  maxTokenLength : a.maxTokenLength = none → c.maxTokenLength = c'.maxTokenLength
  allowed : a.allowed = [] → c.allowed? = c'.allowed?

variable {a : Arguments} {c c' : Config}

theorem scanOptions_maxTokenLength (a : Arguments) (c : Config) :
    (a.scanOptions c).maxTokenLength =
      max (a.maxTokenLength.getD (max c.longest c.shortest)) (a.scanOptions c).minTokenLength := rfl

theorem scanOptions_minTokenLength (a : Arguments) (c : Config) :
    (a.scanOptions c).minTokenLength =
      ScanOptions.shortestOf (a.minTokenLength.getD c.scanOptions.minTokenLength) := rfl

namespace LeavesEqual

theorem minTokenLength_eq (h : a.LeavesEqual c c') :
    (a.scanOptions c).minTokenLength = (a.scanOptions c').minTokenLength := by
  rw [scanOptions_minTokenLength, scanOptions_minTokenLength]
  cases hflag : a.minTokenLength with
  | some length => rfl
  | none => simp only [Option.getD_none, Config.scanOptions, h.minTokenLength hflag,
      ScanOptions.sanitized]

theorem maxIterations_eq (h : a.LeavesEqual c c') :
    (a.scanOptions c).maxIterations = (a.scanOptions c').maxIterations := by
  unfold scanOptions ScanOptions.sanitized
  cases hflag : a.maxIterations with
  | some x => rfl
  | none => simp only [Config.scanOptions, h.maxIterations hflag, ScanOptions.sanitized]

theorem entropyThreshold_eq (h : a.LeavesEqual c c') :
    (a.scanOptions c).entropyThreshold = (a.scanOptions c').entropyThreshold := by
  unfold scanOptions ScanOptions.sanitized
  cases hflag : a.entropyThreshold with
  | some x => rfl
  | none => simp only [Config.scanOptions, h.entropyThreshold hflag, ScanOptions.sanitized]

theorem allowed_eq (h : a.LeavesEqual c c') :
    (a.scanOptions c).allowed = (a.scanOptions c').allowed := by
  unfold scanOptions ScanOptions.sanitized
  by_cases hflag : a.allowed = []
  · simp only [Config.scanOptions, h.allowed hflag, ScanOptions.sanitized]
  · simp only [List.isEmpty_iff, if_neg hflag]

/-- All settings are the same but for the longest token. -/
theorem withLongest_eq (h : a.LeavesEqual c c') (length : Nat) :
    (a.scanOptions c).withLongest length = (a.scanOptions c').withLongest length := by
  have hdisabled : (a.scanOptions c).disabled = (a.scanOptions c').disabled := by
    change c.disabled ++ a.disabled = c'.disabled ++ a.disabled
    rw [h.disabled]
  have hentropy : (a.scanOptions c).enableEntropy = (a.scanOptions c').enableEntropy := by
    change (c.enableEntropy && !a.noEntropy) = (c'.enableEntropy && !a.noEntropy)
    rw [h.enableEntropy]
  have hpatterns : (a.scanOptions c).customPatterns = (a.scanOptions c').customPatterns :=
    h.patterns
  unfold ScanOptions.withLongest
  rw [ScanOptions.mk.injEq]
  exact ⟨rfl, hdisabled, h.maxIterations_eq, h.entropyThreshold_eq, h.minTokenLength_eq, rfl,
    h.allowed_eq, hentropy, hpatterns⟩

/-- So the settings are the same as soon as the longest token is. -/
theorem scanOptions_eq_iff_maxTokenLength (h : a.LeavesEqual c c') :
    a.scanOptions c = a.scanOptions c' ↔
      (a.scanOptions c).maxTokenLength = (a.scanOptions c').maxTokenLength := by
  constructor
  · intro heq
    rw [heq]
  · intro hlongest
    calc a.scanOptions c
        = (a.scanOptions c).withLongest (a.scanOptions c).maxTokenLength := rfl
      _ = (a.scanOptions c').withLongest (a.scanOptions c).maxTokenLength := h.withLongest_eq _
      _ = (a.scanOptions c').withLongest (a.scanOptions c').maxTokenLength := by rw [hlongest]
      _ = a.scanOptions c' := rfl

theorem longest_eq (h : a.LeavesEqual c c') (hmax : a.maxTokenLength = none) :
    c.longest = c'.longest := by
  rw [Config.longest, h.maxTokenLength hmax, Config.longest]

theorem shortest_eq (h : a.LeavesEqual c c') (hmin : a.minTokenLength = none) :
    c.shortest = c'.shortest := by
  rw [Config.shortest, h.minTokenLength hmin, Config.shortest]

end LeavesEqual

/-- Settings that the arguments override leave no trace, with one exception: where the shortest
token is overridden and the longest one is not, the settings are the same exactly when the
configurations' own shortest tokens make no difference to the longest one. -/
theorem scanOptions_eq_iff (h : a.LeavesEqual c c') :
    (∀ length, (a.scanOptions c).withLongest length = (a.scanOptions c').withLongest length) ∧
      (a.minTokenLength = none ∨ a.maxTokenLength ≠ none →
        a.scanOptions c = a.scanOptions c') ∧
      ∀ length, a.minTokenLength = some length → a.maxTokenLength = none →
        (a.scanOptions c = a.scanOptions c' ↔
          max c.shortest (max c.longest (ScanOptions.shortestOf length)) =
            max c'.shortest (max c'.longest (ScanOptions.shortestOf length))) := by
  refine ⟨h.withLongest_eq, fun hflags => ?_, fun length hmin hmax => ?_⟩
  · rw [h.scanOptions_eq_iff_maxTokenLength, scanOptions_maxTokenLength,
      scanOptions_maxTokenLength, h.minTokenLength_eq]
    cases hmax : a.maxTokenLength with
    | some length => rfl
    | none =>
      have hmin : a.minTokenLength = none := hflags.resolve_right (not_not_intro hmax)
      rw [h.longest_eq hmax, h.shortest_eq hmin]
  · rw [h.scanOptions_eq_iff_maxTokenLength, scanOptions_maxTokenLength,
      scanOptions_maxTokenLength, scanOptions_minTokenLength, scanOptions_minTokenLength, hmin, hmax]
    simp only [Option.getD_none, Option.getD_some]
    omega

def shortestConfig (length : Float) : Config where
  minTokenLength := .value length

def lengthArguments (shortest : Nat) (longest : Option Nat) : Arguments where
  minTokenLength := some shortest
  maxTokenLength := longest

theorem leavesEqual_shortestConfig (shortest : Nat) (longest : Option Nat) (x y : Float) :
    (lengthArguments shortest longest).LeavesEqual (shortestConfig x) (shortestConfig y) where
  disabled := rfl
  enableEntropy := rfl
  patterns := rfl
  maxIterations _ := rfl
  entropyThreshold _ := rfl
  minTokenLength hflag := by cases hflag
  maxTokenLength _ := rfl
  allowed _ := rfl

/-- Overridden shortest tokens of 30 and of 90 characters make no difference; nor do 30 and 150
when the longest token is overridden as well, but they do when it is not. -/
theorem scanOptions_eq_iff_shortest :
    (lengthArguments 20 none).LeavesEqual (shortestConfig 30.0) (shortestConfig 90.0) ∧
      (lengthArguments 20 none).scanOptions (shortestConfig 30.0) =
        (lengthArguments 20 none).scanOptions (shortestConfig 90.0) ∧
      (lengthArguments 20 (some 100)).scanOptions (shortestConfig 30.0) =
        (lengthArguments 20 (some 100)).scanOptions (shortestConfig 150.0) ∧
      (lengthArguments 20 none).scanOptions (shortestConfig 30.0) ≠
        (lengthArguments 20 none).scanOptions (shortestConfig 150.0) := by
  have heq := scanOptions_eq_iff (leavesEqual_shortestConfig 20 none 30.0 90.0)
  have hboth := scanOptions_eq_iff (leavesEqual_shortestConfig 20 (some 100) 30.0 150.0)
  have hne := scanOptions_eq_iff (leavesEqual_shortestConfig 20 none 30.0 150.0)
  refine ⟨leavesEqual_shortestConfig 20 none 30.0 90.0, ?_, ?_, ?_⟩
  · exact (heq.2.2 20 rfl rfl).2 (by decide)
  · exact hboth.2.1 (.inr (by decide))
  · exact mt (hne.2.2 20 rfl rfl).1 (by decide)

/-- So it is not true that a value leaves no trace when it is overridden: a shortest token of 30 in
place of one of 150 shortens the longest token, which nothing else speaks of. -/
theorem not_all_overridden :
    ¬ ∀ (a : Arguments) (c : Config) (length : Nat) (x : NumberSetting),
      a.minTokenLength = some length →
        a.scanOptions { c with minTokenLength := x } = a.scanOptions c := by
  intro hoverridden
  have heq := hoverridden (lengthArguments 20 none) (shortestConfig 150.0) 20 (.value 30.0) rfl
  have hlongest := congrArg ScanOptions.maxTokenLength heq
  revert hlongest
  decide

end Arguments

end SecretScan
