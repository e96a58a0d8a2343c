import SecretScan.Proofs.FinalSigma
import SecretScan.Proofs.SensibleSettings
import SecretScan.Proofs.TokenRuns

/-!
What the allow list keeps out of a report. An allowed text and a token are put in lower case one by
one and then compared, so that a token is exempt where the allowed text has the same form in lower
case within the token as on its own. Only capital sigmas can be written differently; an allowed text
whose sigmas are settled exempts every token that contains it, and no other text can be relied on.
-/

namespace SecretScan

namespace Detector

variable {o : ScanOptions} {allowed line : Text} {number : Nat} {f : Finding}

theorem toLowercase_mem_allowed (hallowed : allowed ∈ o.allowed) (hne : Text.trim allowed ≠ []) :
    Text.toLowercase (Text.trim allowed) ∈ o.sanitized.allowed := by
  refine List.mem_filter.2 ⟨List.mem_map_of_mem hallowed, ?_⟩
  rw [Bool.not_eq_true', List.isEmpty_eq_false_iff]
  exact Text.toLowercase_ne_nil hne

/-- What is found by entropy contains no allowed text once both are in lower case. -/
theorem not_infix_of_mem_scanHighEntropy (hf : f ∈ scanHighEntropy line number o)
    (hallowed : allowed ∈ o.allowed) (hne : Text.trim allowed ≠ []) :
    ¬ Text.toLowercase (Text.trim allowed) <:+: Text.toLowercase f.matched := by
  obtain ⟨found, htokens, -, hfound⟩ := randomTokens_eq o.sanitized line
  rw [scanHighEntropy, highEntropy_scanLine, htokens, List.map_map] at hf
  obtain ⟨x, hx, rfl⟩ := List.mem_map.1 hf
  exact ((hfound x).1 hx).2.2.not_allowed _ (toLowercase_mem_allowed hallowed hne)

/-- No token is reported in which an allowed text keeps its capital sigmas. So an allowed text whose
sigmas are settled exempts every token that contains it; and these are the only texts that are found
in lower case whatever stands around them. -/
theorem allowed_exempts (hallowed : allowed ∈ o.allowed) (hne : Text.trim allowed ≠ [])
    (line : Text) (number : Nat) :
    (∀ f ∈ scanHighEntropy line number o, ∀ before after,
        f.matched = before ++ Text.trim allowed ++ after →
          ¬ Text.KeepsSigmas before (Text.trim allowed) after) ∧
      (Text.IsSettled (Text.trim allowed) →
        ∀ f ∈ scanHighEntropy line number o, ¬ Text.trim allowed <:+: f.matched) ∧
      (Text.IsSettled (Text.trim allowed) ↔ ∀ before after,
        Text.toLowercase (Text.trim allowed) <:+:
          Text.toLowercase (before ++ Text.trim allowed ++ after)) := by
  have hkeeps : ∀ f ∈ scanHighEntropy line number o, ∀ before after,
      f.matched = before ++ Text.trim allowed ++ after →
        ¬ Text.KeepsSigmas before (Text.trim allowed) after := by
    intro f hf before after hmatched hkeeps
    refine not_infix_of_mem_scanHighEntropy hf hallowed hne ?_
    rw [hmatched]
    exact hkeeps.infix_toLowercase
  refine ⟨hkeeps, fun hsettled f hf hoccurs => ?_, Text.isSettled_iff⟩
  obtain ⟨before, after, hmatched⟩ := hoccurs
  exact hkeeps f hf before after hmatched.symm (hsettled.keepsSigmas before after)

def allowing (allowed : Text) : ScanOptions where
  entropyThreshold := 2.0
  minTokenLength := 8
  allowed := [allowed]

/-- A word whose only sigma stands between two letters exempts the token that starts with it, which
is reported when another text is allowed. -/
theorem allowed_exempts_settled :
    " ΠΑΣΟΚ ".toList ∈ (allowing " ΠΑΣΟΚ ".toList).allowed ∧
      Text.trim " ΠΑΣΟΚ ".toList ≠ [] ∧ Text.IsSettled (Text.trim " ΠΑΣΟΚ ".toList) ∧
      (∀ f ∈ scanHighEntropy "ΠΑΣΟΚ123".toList 1 (allowing " ΠΑΣΟΚ ".toList),
        ¬ Text.trim " ΠΑΣΟΚ ".toList <:+: f.matched) ∧
      (scanHighEntropy "ΠΑΣΟΚ123".toList 1 (allowing "ΠΑΣΟΣ".toList)).map (·.matched) =
        ["ΠΑΣΟΚ123".toList] := by
  have hmem : " ΠΑΣΟΚ ".toList ∈ (allowing " ΠΑΣΟΚ ".toList).allowed := List.mem_singleton_self _
  have hne : Text.trim " ΠΑΣΟΚ ".toList ≠ [] := by decide
  have hends : (Text.trim " ΠΑΣΟΚ ".toList).head? = some 'Π' ∧
      (Text.trim " ΠΑΣΟΚ ".toList).getLast? = some 'Κ' := by decide +kernel
  have hsettled : Text.IsSettled (Text.trim " ΠΑΣΟΚ ".toList) := by
    refine Text.isSettled_of_ends (fun c hc => ?_) (fun c hc => ?_)
    · obtain rfl := Option.some.inj (hends.1.symm.trans hc)
      decide +kernel
    · obtain rfl := Option.some.inj (hends.2.symm.trans hc)
      decide +kernel
  exact ⟨hmem, hne, hsettled, (allowed_exempts hmem hne "ΠΑΣΟΚ123".toList 1).2.1 hsettled,
    by decide +kernel⟩

/-- So it is not true that an allowed text exempts every token that contains it: the sigma at the end
of a word is written in another way where the token goes on with a letter. -/
theorem not_all_allowed_exempt :
    ¬ ∀ (o : ScanOptions) (allowed line : Text) (number : Nat), allowed ∈ o.allowed →
      Text.trim allowed ≠ [] →
      ∀ f ∈ scanHighEntropy line number o, ¬ Text.trim allowed <:+: f.matched := by
  intro h
  have hfound : ∃ f ∈ scanHighEntropy "ΦΑΚΕΛΟΣA".toList 1 (allowing "ΦΑΚΕΛΟΣ".toList),
      Text.occursIn (Text.trim "ΦΑΚΕΛΟΣ".toList) f.matched = true := by decide +kernel
  obtain ⟨f, hf, hoccurs⟩ := hfound
  exact h _ _ _ 1 (List.mem_singleton_self _) (by decide) f hf ((Text.occursIn_iff _ _).1 hoccurs)

end Detector

end SecretScan
