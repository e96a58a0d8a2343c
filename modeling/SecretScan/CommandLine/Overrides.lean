import SecretScan.CommandLine.Arguments
import SecretScan.Config

/-!
What holds when both a configuration and arguments speak: the arguments win where they hold one
value, and add to lists, except that allowed texts are replaced.
-/

namespace SecretScan.Arguments

def scanOptions (a : Arguments) (c : Config) : ScanOptions :=
  let base := c.scanOptions
  ScanOptions.sanitized
    { base with
      disabled := base.disabled ++ a.disabled
      maxIterations := match a.maxIterations with
        | some x => ScanOptions.iterationsOf (some x)
        | none => base.maxIterations
      entropyThreshold := match a.entropyThreshold with
        | some x => ScanOptions.thresholdOf (some x)
        | none => base.entropyThreshold
      minTokenLength := a.minTokenLength.getD base.minTokenLength
      maxTokenLength := a.maxTokenLength.getD base.maxTokenLength
      allowed := if a.allowed.isEmpty then base.allowed else a.allowed
      enableEntropy := base.enableEntropy && !a.noEntropy }

/-- The selection rules. There is a list of includes as soon as one side gives one. -/
def selectionRules (a : Arguments) (c : Config) : SelectionRules :=
  let rules : SelectionRules :=
    { include? :=
        if c.include?.isNone && a.includes.isEmpty then none
        else some (c.include?.getD [] ++ a.includes)
      exclude := c.exclude ++ a.excludes }
  if c.useDefaultExcludes && !a.noDefaultExcludes then rules.withDefaultExcludes else rules

end SecretScan.Arguments
