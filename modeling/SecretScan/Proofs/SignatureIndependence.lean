import SecretScan.Proofs.IterationCap
import SecretScan.Proofs.WordTokens

/-!
Signatures do not interact. What a signature reports on a line depends on the signature, the line
and the limit alone. A report of some signatures is therefore the part of a report of more of them
that has their keys, line by line and in the same order: no search goes on where the one of another
signature, or of another line, has ended, and no limit is shared. Disabling keys takes their
findings and advisories out of the report of the built-in signatures and changes nothing else.
-/

namespace SecretScan

namespace ScanReport

def about (keep : Text → Bool) (r : ScanReport) : ScanReport :=
  r.select fun _ key => keep key

theorem about_concat (keep : Text → Bool) (rs : List ScanReport) :
    (concat rs).about keep = concat (rs.map (·.about keep)) :=
  select_concat _ rs

theorem about_about (keep more : Text → Bool) (r : ScanReport) :
    (r.about more).about keep = r.about fun key => keep key && more key := by
  unfold about select
  rw [List.filter_filter, List.filter_filter]

end ScanReport

namespace Signature

variable (keep : Text → Bool) (limit : Nat)

/-- The step: a choice of keys takes all that a signature reports on a line or nothing. -/
theorem about_scanLine (s : Signature) (line : Text) (number : Nat) :
    (s.scanLine limit line number).about keep =
      if keep s.key then s.scanLine limit line number else .empty := by
  by_cases hkey : keep s.key = true
  · obtain ⟨hfindings, hadvisories⟩ := s.of_mem_scanLine limit line number
    have hall : (s.scanLine limit line number).findings.filter (fun f => keep f.ruleId) =
        (s.scanLine limit line number).findings := by
      apply List.filter_eq_self.2
      intro f hf
      rw [(hfindings f hf).1, hkey]
    have hall' : (s.scanLine limit line number).advisories.filter (fun a => keep a.ruleId) =
        (s.scanLine limit line number).advisories := by
      apply List.filter_eq_self.2
      intro a ha
      rw [hadvisories a ha, hkey]
    rw [if_pos hkey]
    unfold ScanReport.about ScanReport.select
    rw [hall, hall']
  · rw [if_neg hkey]
    exact s.select_scanLine (Bool.eq_false_iff.2 hkey) limit line

/-- The signatures of a choice report on a line what all of them report about these keys. The
induction is on the signatures, and each of them makes one step. -/
theorem scanLineAll_filter (signatures : List Signature) (line : Text) (number : Nat) :
    scanLineAll (signatures.filter fun s => keep s.key) limit line number =
      (scanLineAll signatures limit line number).about keep := by
  unfold scanLineAll
  rw [ScanReport.about_concat, List.map_map]
  induction signatures with
  | nil => rfl
  | cons s signatures ih =>
    rw [List.map_cons, ScanReport.concat_cons, ← ih, Function.comp_apply, about_scanLine]
    by_cases hkey : keep s.key = true
    · rw [List.filter_cons, if_pos hkey, if_pos hkey, List.map_cons, ScanReport.concat_cons]
    · rw [List.filter_cons, if_neg hkey, if_neg hkey]
      rfl

/-- The run: what holds on every line holds of the text. -/
theorem scanText_filter (name : Text) (signatures : List Signature) (content : Text) :
    (Detector.mk name
        (scanLineAll (signatures.filter fun s => keep s.key) limit)).scanText content =
      ((Detector.mk name (scanLineAll signatures limit)).scanText content).about keep := by
  unfold Detector.scanText
  rw [ScanReport.about_concat, List.map_map]
  congr 1
  apply List.map_congr_left
  intro x _
  exact scanLineAll_filter keep limit signatures x.1 x.2

/-- The keys of the built-in signatures are told apart. -/
theorem nodup_builtin_keys : (builtin.map (·.key)).Nodup := by
  have hdefinitions : definitions.Pairwise fun d e => d.key ≠ e.key :=
    List.pairwise_map.1 nodup_definition_keys
  apply List.pairwise_map.2
  apply hdefinitions.filterMap
  intro d e hne s hs t ht heq
  apply hne
  rw [← (Definition.of_compile (toOption_eq_some_iff.1 hs)).1, heq,
    (Definition.of_compile (toOption_eq_some_iff.1 ht)).1]

end Signature

/-- With all but the first signatures disabled, the first ones are left. -/
theorem ScanOptions.builtinSignatures_of_disabled {o : ScanOptions} {n : Nat}
    (h : o.disabled = (Signature.builtin.drop n).map (·.key)) :
    o.builtinSignatures = Signature.builtin.take n := by
  have hnodup := Signature.nodup_builtin_keys
  rw [← List.take_append_drop n Signature.builtin, List.map_append] at hnodup
  obtain ⟨-, -, hdisjoint⟩ := List.nodup_append.1 hnodup
  have hfirst : (Signature.builtin.take n).filter (fun s => o.isEnabled s.key) =
      Signature.builtin.take n := by
    apply List.filter_eq_self.2
    intro s hs
    rw [isEnabled, h, Bool.not_eq_true', ← Bool.not_eq_true, List.contains_iff_mem]
    exact fun hmem => hdisjoint _ (List.mem_map_of_mem hs) _ hmem rfl
  have hothers : (Signature.builtin.drop n).filter (fun s => o.isEnabled s.key) = [] := by
    apply List.filter_eq_nil_iff.2
    intro s hs
    rw [isEnabled, h, Bool.not_eq_true', Bool.not_eq_false, List.contains_iff_mem]
    exact List.mem_map_of_mem hs
  rw [builtinSignatures, ← List.take_append_drop n Signature.builtin, List.filter_append, hfirst,
    hothers, List.append_nil, List.take_append_drop]

def ScanOptions.withDisabled (o : ScanOptions) (keys : List Text) : ScanOptions :=
  { o with disabled := keys }

section Builtin

variable (content : Text) (o : ScanOptions)

/-- Any report of the built-in signatures is a part of the one with no key disabled. -/
theorem scanBuiltin_eq_about :
    scanBuiltin content o = (scanBuiltin content (o.withDisabled [])).about o.isEnabled := by
  have hall : (o.withDisabled []).sanitized.builtinSignatures = Signature.builtin := by
    apply List.filter_eq_self.2
    intro s _
    rfl
  have hsome : o.sanitized.builtinSignatures =
      Signature.builtin.filter fun s => o.isEnabled s.key := rfl
  unfold scanBuiltin Detector.builtin
  rw [hall, hsome]
  exact Signature.scanText_filter o.isEnabled o.sanitized.maxIterations _ Signature.builtin content

/-- What a report has about an active signature is what the signature reports by itself, with a
limit of its own for every line. -/
theorem about_key_scanBuiltin {s : Signature} (hs : s ∈ o.builtinSignatures) :
    (scanBuiltin content o).about (· == s.key) =
      .concat ((Detector.numbered content).map fun x =>
        s.scanLine o.sanitized.maxIterations x.1 x.2) := by
  obtain ⟨hbuiltin, henabled⟩ := List.mem_filter.1 hs
  have hone : o.builtinSignatures.filter (fun t => t.key == s.key) = [s] := by
    have hmem : s ∈ o.builtinSignatures.filter fun t => t.key == s.key :=
      List.mem_filter.2 ⟨hs, beq_self_eq_true _⟩
    have hnodup : (o.builtinSignatures.map (·.key)).Nodup :=
      Signature.nodup_builtin_keys.sublist (List.filter_sublist.map _)
    rcases filter_key_of_nodup hnodup s.key with hnone | ⟨t, ht⟩
    · rw [hnone] at hmem
      cases hmem
    · rw [ht] at hmem ⊢
      rw [List.mem_singleton.1 hmem]
  have hsame : o.sanitized.builtinSignatures = o.builtinSignatures := rfl
  unfold scanBuiltin Detector.builtin
  rw [hsame, ← Signature.scanText_filter, hone]
  unfold Detector.scanText
  congr 1
  apply List.map_congr_left
  intro x _
  exact ScanReport.append_empty _

/-- Disabling more keys takes their findings and advisories out of the report, and all others stay
as they are, in their order: both reports are parts of the one for which no key is disabled. What is
left about a signature is what it reports by itself on one line after another, whatever other
signatures are active. -/
theorem scanBuiltin_withDisabled {keys : List Text} (h : o.disabled ⊆ keys) :
    (scanBuiltin content (o.withDisabled keys)).findings =
        (scanBuiltin content o).findings.filter (fun f => f.ruleId ∉ keys) ∧
      (scanBuiltin content (o.withDisabled keys)).advisories =
        (scanBuiltin content o).advisories.filter (fun a => a.ruleId ∉ keys) ∧
      ∀ s ∈ Signature.builtin, s.key ∉ keys →
        (scanBuiltin content (o.withDisabled keys)).about (· == s.key) =
          .concat ((Detector.numbered content).map fun x =>
            s.scanLine o.sanitized.maxIterations x.1 x.2) := by
  have henabled (key : Text) : (o.withDisabled keys).isEnabled key = decide (key ∉ keys) := by
    simp [ScanOptions.isEnabled, ScanOptions.withDisabled]
  have hpart : scanBuiltin content (o.withDisabled keys) =
      (scanBuiltin content o).about fun key => decide (key ∉ keys) := by
    have hkeys : (o.withDisabled keys).isEnabled =
        fun key => decide (key ∉ keys) && o.isEnabled key := by
      funext key
      rw [henabled, Bool.eq_iff_iff, Bool.and_eq_true, decide_eq_true_iff]
      constructor
      · intro hkey
        have hold : key ∉ o.disabled := fun hmem => hkey (h hmem)
        exact ⟨hkey, by simpa [ScanOptions.isEnabled] using hold⟩
      · exact And.left
    rw [scanBuiltin_eq_about content (o.withDisabled keys), scanBuiltin_eq_about content o,
      ScanReport.about_about, hkeys]
    rfl
  refine ⟨congrArg ScanReport.findings hpart, congrArg ScanReport.advisories hpart, ?_⟩
  intro s hs hkey
  apply about_key_scanBuiltin content (o.withDisabled keys)
  apply List.mem_filter.2
  exact ⟨hs, by simp [henabled, hkey]⟩

end Builtin

def adjacentKeys : Text :=
  "AKIA0123456789ABCDEF,ASIA0123456789ABCDEF"

def singleMatch : ScanOptions where
  disabled := ["jwt".toList]
  maxIterations := 1

/-- With one more signature disabled, the first of the keys is found all the same, and the advisory
about the second one is given. -/
theorem scanBuiltin_withDisabled_adjacentKeys :
    singleMatch.disabled ⊆ ["jwt".toList, "npm_token".toList] ∧
      (scanBuiltin adjacentKeys
          (singleMatch.withDisabled ["jwt".toList, "npm_token".toList])).findings =
        (scanBuiltin adjacentKeys singleMatch).findings.filter
          (fun f => f.ruleId ∉ ["jwt".toList, "npm_token".toList]) ∧
      ((scanBuiltin adjacentKeys
          (singleMatch.withDisabled ["jwt".toList, "npm_token".toList])).about
        (· == "aws_access_key".toList)).findings.map (fun f => (f.line, f.column, f.matched)) =
          [(1, some 1, "AKIA0123456789ABCDEF".toList)] ∧
      ((scanBuiltin adjacentKeys
          (singleMatch.withDisabled ["jwt".toList, "npm_token".toList])).about
        (· == "aws_access_key".toList)).advisories = [⟨"aws_access_key".toList, 1, 1, none⟩] := by
  have hdisabled : singleMatch.disabled ⊆ ["jwt".toList, "npm_token".toList] := by decide
  obtain ⟨hfindings, -, halone⟩ := scanBuiltin_withDisabled adjacentKeys singleMatch hdisabled
  obtain ⟨s, hfound, hkey, hreported, hadvised⟩ : ∃ s,
      Signature.find? "aws_access_key" = some s ∧ s.key = "aws_access_key" ∧
      (s.scanLine 1 adjacentKeys 1).findings.map (fun f => (f.line, f.column, f.matched)) =
        [(1, some 1, "AKIA0123456789ABCDEF".toList)] ∧
      (s.scanLine 1 adjacentKeys 1).advisories = [⟨"aws_access_key", 1, 1, none⟩] := by
    decide +kernel
  have hline : Detector.numbered adjacentKeys = [(adjacentKeys, 1)] := by decide
  have hlimit : singleMatch.sanitized.maxIterations = 1 := rfl
  have hreport := halone s (List.mem_of_find?_eq_some hfound) (by rw [hkey]; decide)
  rw [hkey, hline, hlimit, List.map_singleton, ScanReport.concat_cons] at hreport
  rw [hreport]
  refine ⟨hdisabled, hfindings, ?_, ?_⟩
  · rw [← hreported]
    exact congrArg _ (List.append_nil _)
  · rw [← hadvised]
    exact List.append_nil _

end SecretScan
