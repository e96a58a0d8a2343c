import SecretScan.Proofs.LocalDetection
import SecretScan.Proofs.MatchSequence

/-!
Where findings and advisories come from. Every finding of a scan was made on a line of the text,
from a match of an active signature or from a token that looks random; every advisory is about an
active signature. A signature is active only when its key is not disabled. The detector of tokens
that look random has a key as well, but looks at no list of keys, so that disabling this key
silences custom patterns that share it and nothing else.
-/

namespace SecretScan

/-- What a finding of a scan can be made from: a match of an active signature on a line of the text,
or a token on such a line, provided that entropy is not switched off. -/
inductive Finding.Origin (o : ScanOptions) (content : Text) : Finding → Prop
  | ofMatch {line : Text} {number : Nat} {s : Signature} {m : Match}
      (hline : (line, number) ∈ Detector.numbered content)
      (hs : s ∈ o.builtinSignatures ++ o.customSignatures) (hm : m ∈ s.allMatches line) :
      Origin o content (s.finding line (Text.trim line) number m)
  | ofToken {line : Text} {number : Nat} {f : Finding} (hon : o.enableEntropy = true)
      (hline : (line, number) ∈ Detector.numbered content)
      (hf : f ∈ ((Detector.highEntropy o.sanitized).scanLine line number).findings) :
      Origin o content f

/-- The detector of tokens that look random has one key and one kind for all that it finds. -/
theorem Detector.highEntropy_finding {o : ScanOptions} {line : Text} {number : Nat} {f : Finding}
    (hf : f ∈ ((highEntropy o).scanLine line number).findings) :
    f.ruleId = highEntropyKey ∧ f.kind = "High Entropy String" ∧ f.line = number := by
  simp only [highEntropy_scanLine, List.mem_map] at hf
  obtain ⟨⟨t, entropy⟩, -, rfl⟩ := hf
  exact ⟨rfl, rfl, rfl⟩

/-- Whatever a signature reports has its key, and the findings have its name. -/
theorem Signature.of_mem_scanLine (s : Signature) (limit : Nat) (line : Text) (number : Nat) :
    (∀ f ∈ (s.scanLine limit line number).findings, f.ruleId = s.key ∧ f.kind = s.name) ∧
      ∀ a ∈ (s.scanLine limit line number).advisories, a.ruleId = s.key := by
  rw [scanLine_eq]
  constructor
  · intro f hf
    obtain ⟨m, -, rfl⟩ := List.mem_map.1 hf
    exact ⟨rfl, rfl⟩
  · intro a ha
    split at ha
    · obtain rfl := List.mem_singleton.1 ha
      rfl
    · cases ha

section Reports

variable {α : Type} {part : ScanReport → List α}
variable (hpart : ∀ rs, part (.concat rs) = rs.flatMap part) {x : α}
include hpart

/-- What a detector reports on a text, findings or advisories, it reports on its lines. -/
theorem Detector.mem_scanText {d : Detector} {content : Text} :
    x ∈ part (d.scanText content) ↔ ∃ line number, (line, number) ∈ numbered content ∧
      x ∈ part (d.scanLine line number) := by
  simp only [scanText, hpart, List.mem_flatMap, List.mem_map]
  constructor
  · rintro ⟨_, ⟨⟨line, number⟩, hline, rfl⟩, hx⟩
    exact ⟨line, number, hline, hx⟩
  · rintro ⟨line, number, hline, hx⟩
    exact ⟨_, ⟨(line, number), hline, rfl⟩, hx⟩

theorem Signature.mem_scanLineAll {signatures : List Signature} {limit number : Nat}
    {line : Text} : x ∈ part (scanLineAll signatures limit line number) ↔
      ∃ s ∈ signatures, x ∈ part (s.scanLine limit line number) := by
  simp only [scanLineAll, hpart, List.mem_flatMap, List.mem_map, exists_exists_and_eq_and]

end Reports

namespace Scanner

variable {o : ScanOptions} {content : Text} {file : Option Text}

section Raw

variable {α : Type} {part : ScanReport → List α} {x : α}

/-- What detectors report on a text, findings or advisories, they report on its lines. -/
theorem mem_raw (hpart : ∀ rs, part (.concat rs) = rs.flatMap part) {s : Scanner} :
    x ∈ part (s.raw content) ↔ ∃ d ∈ s.detectors, ∃ line number,
      (line, number) ∈ Detector.numbered content ∧ x ∈ part (d.scanLine line number) := by
  simp only [raw, hpart, List.mem_flatMap, List.mem_map, exists_exists_and_eq_and,
    Detector.mem_scanText hpart]

/-- Whatever is reported comes from an active signature or, unless entropy is switched off, from the
detector of tokens that look random. -/
theorem exists_scanLine_of_mem_raw (hpart : ∀ rs, part (.concat rs) = rs.flatMap part)
    (hx : x ∈ part ((ofOptions o).raw content)) :
    ∃ line number, (line, number) ∈ Detector.numbered content ∧
      ((∃ s ∈ o.builtinSignatures ++ o.customSignatures,
          x ∈ part (s.scanLine o.sanitized.maxIterations line number)) ∨
        (o.enableEntropy = true ∧
          x ∈ part ((Detector.highEntropy o.sanitized).scanLine line number))) := by
  obtain ⟨d, hd, line, number, hline, hx⟩ := (mem_raw hpart).1 hx
  refine ⟨line, number, hline, ?_⟩
  have hsignatures {signatures : List Signature}
      (hsub : signatures ⊆ o.builtinSignatures ++ o.customSignatures)
      (hx : x ∈ part (Signature.scanLineAll signatures o.sanitized.maxIterations line number)) :
      ∃ s ∈ o.builtinSignatures ++ o.customSignatures,
        x ∈ part (s.scanLine o.sanitized.maxIterations line number) := by
    obtain ⟨s, hs, hx⟩ := (Signature.mem_scanLineAll hpart).1 hx
    exact ⟨s, hsub hs, hx⟩
  simp only [ofOptions, List.mem_cons, List.mem_append] at hd
  rcases hd with rfl | hd | hd
  · exact .inl (hsignatures (List.subset_append_left _ _) hx)
  · split at hd
    · cases hd
    · obtain rfl := List.mem_singleton.1 hd
      exact .inl (hsignatures (List.subset_append_right _ _) hx)
  · split at hd
    · rename_i hon
      obtain rfl := List.mem_singleton.1 hd
      exact .inr ⟨hon, hx⟩
    · cases hd

end Raw

/-- Everything that the detectors find has an origin. -/
theorem origin_of_mem_raw {f : Finding} (hf : f ∈ ((ofOptions o).raw content).findings) :
    f.Origin o content := by
  obtain ⟨line, number, hline, ⟨s, hs, hf⟩ | ⟨hon, hf⟩⟩ :=
    exists_scanLine_of_mem_raw (fun _ => rfl) hf
  · rw [Signature.scanLine_eq] at hf
    obtain ⟨m, hm, rfl⟩ := List.mem_map.1 hf
    exact .ofMatch hline hs (List.mem_of_mem_take hm)
  · exact .ofToken hon hline hf

/-- Everything that the detectors advise is about an active signature. -/
theorem exists_signature_of_advisory {a : Advisory}
    (ha : a ∈ ((ofOptions o).raw content).advisories) :
    ∃ s ∈ o.builtinSignatures ++ o.customSignatures, a.ruleId = s.key := by
  obtain ⟨line, number, -, ⟨s, hs, ha⟩ | ⟨-, ha⟩⟩ := exists_scanLine_of_mem_raw (fun _ => rfl) ha
  · exact ⟨s, hs, (s.of_mem_scanLine _ line number).2 a ha⟩
  · rw [Detector.highEntropy_scanLine] at ha
    cases ha

/-- The tokens that look random are found unless entropy is switched off. -/
theorem highEntropy_subset_raw (hon : o.enableEntropy = true) {line : Text} {number : Nat}
    (hline : (line, number) ∈ Detector.numbered content) :
    ((Detector.highEntropy o.sanitized).scanLine line number).findings ⊆
      ((ofOptions o).raw content).findings := by
  intro f hf
  have hon : o.sanitized.enableEntropy = true := hon
  have hdetector : Detector.highEntropy o.sanitized ∈ (ofOptions o).detectors := by
    simp only [ofOptions, if_pos hon]
    exact List.mem_cons_of_mem _ (List.mem_append_right _ List.mem_cons_self)
  exact (mem_raw fun _ => rfl).2 ⟨_, hdetector, line, number, hline, hf⟩

/-- A match within the limit is reported unless a remark silences it; the finding that stands for it
agrees with it on name, line and matched text. -/
theorem exists_mem_scan_of_match (file : Option Text) {line : Text} {number : Nat} {s : Signature}
    {m : Match} (hline : (line, number) ∈ Detector.numbered content)
    (hs : s ∈ o.builtinSignatures ++ o.customSignatures)
    (hm : m ∈ (s.allMatches line).take o.sanitized.maxIterations)
    (haudible : audible content number s.key = true) :
    ∃ f ∈ ((ofOptions o).scan content file).findings,
      f.key = (s.name, number, Signature.captured line m) := by
  have hfound : s.finding line (Text.trim line) number m ∈
      (s.scanLine o.sanitized.maxIterations line number).findings := by
    rw [Signature.scanLine_eq]
    exact List.mem_map_of_mem hm
  exact exists_mem_scan_of_raw file ((scanLine_subset_raw hline hs).1 hfound) haudible

/-- The same where a built-in signature is told by its key. -/
theorem exists_mem_scan_of_builtin (file : Option Text) {line key secret : Text} {number : Nat}
    (hline : (line, number) ∈ Detector.numbered content)
    (hmatch : ∃ s ∈ o.builtinSignatures, s.key = key ∧
      ∃ m ∈ (s.allMatches line).take o.sanitized.maxIterations, Signature.captured line m = secret)
    (haudible : audible content number key = true) :
    ∃ f ∈ ((ofOptions o).scan content file).findings, f.line = number ∧ f.matched = secret := by
  obtain ⟨s, hs, rfl, m, hm, rfl⟩ := hmatch
  obtain ⟨f, hf, hkey⟩ :=
    exists_mem_scan_of_match file hline (List.mem_append_left _ hs) hm haudible
  obtain ⟨-, hplace⟩ := Prod.mk.inj hkey
  exact ⟨f, hf, Prod.mk.inj hplace⟩

/-- Every finding of a report has an origin, which the label does not change. -/
theorem origin_of_mem_scan {f : Finding} (hf : f ∈ ((ofOptions o).scan content file).findings) :
    ∃ g : Finding, g.Origin o content ∧ f = g.labelled (file.or o.filename) := by
  obtain ⟨g, hg, rfl⟩ := exists_raw_of_mem_scan hf
  exact ⟨g, origin_of_mem_raw hg, rfl⟩

end Scanner

section Disabled

variable {o : ScanOptions}

theorem ScanOptions.key_not_mem_disabled {s : Signature}
    (hs : s ∈ o.builtinSignatures ++ o.customSignatures) : s.key ∉ o.disabled := by
  have henabled : o.isEnabled s.key = true := by
    rcases List.mem_append.1 hs with hs | hs
    · exact (List.mem_filter.1 hs).2
    · exact (List.mem_filter.1 hs).2
  simpa [isEnabled] using henabled

/-- Compiling a definition changes nothing but its pattern. -/
theorem Signature.Definition.of_compile {d : Definition} {s : Signature} (h : d.compile = .ok s) :
    s.key = d.key ∧ s.name = d.name := by
  unfold compile at h
  cases hpattern : Pattern.compile d.pattern with
  | error e =>
    rw [hpattern] at h
    cases h
  | ok p =>
    rw [hpattern] at h
    obtain rfl := Except.ok.inj h
    exact ⟨rfl, rfl⟩

/-- What is left of a result when its error is forgotten. -/
theorem toOption_eq_some_iff {ε α : Type} {e : Except ε α} {x : α} :
    e.toOption = some x ↔ e = .ok x := by
  cases e with
  | error fault => exact ⟨nofun, nofun⟩
  | ok y => exact ⟨fun h => congrArg Except.ok (Option.some.inj h),
      fun h => congrArg some (Except.ok.inj h)⟩

theorem Signature.exists_definition_of_mem_builtin {s : Signature} (hs : s ∈ builtin) :
    ∃ d ∈ definitions, s.key = d.key ∧ s.name = d.name := by
  obtain ⟨d, hd, hcompile⟩ := List.mem_filterMap.1 hs
  exact ⟨d, hd, Definition.of_compile (toOption_eq_some_iff.1 hcompile)⟩

/-- A custom signature is a pattern that compiles and is not switched off. -/
theorem ScanOptions.mem_customSignatures {s : Signature} :
    s ∈ o.customSignatures ↔ ∃ p index, (p, index) ∈ o.customPatterns.zipIdx ∧
      p.compile index = .ok s ∧ o.isEnabled s.key = true := by
  unfold customSignatures
  rw [List.mem_filter, List.mem_filterMap]
  constructor
  · rintro ⟨⟨⟨p, index⟩, hp, hcompile⟩, henabled⟩
    exact ⟨p, index, hp, toOption_eq_some_iff.1 hcompile, henabled⟩
  · rintro ⟨p, index, hp, hcompile, henabled⟩
    exact ⟨⟨⟨p, index⟩, hp, toOption_eq_some_iff.2 hcompile⟩, henabled⟩

/-- No built-in signature has the name that findings by entropy have. -/
theorem Signature.name_ne_of_mem_builtin {s : Signature} (hs : s ∈ builtin) :
    s.name ≠ "High Entropy String" := by
  have hdefinitions : ∀ d ∈ definitions, d.name ≠ "High Entropy String" := by decide +kernel
  obtain ⟨d, hd, -, hname⟩ := exists_definition_of_mem_builtin hs
  rw [hname]
  exact hdefinitions d hd

namespace Scanner

/-- What holds of the names and keys of all signatures, and of those that tokens which look random
have, holds of every finding. -/
theorem of_mem_scan {P : Text → Text → Prop} {content : Text} {file : Option Text} {f : Finding}
    (hdefinitions : ∀ d ∈ Signature.definitions, P d.name d.key)
    (hcustom : ∀ p index s, (p, index) ∈ o.customPatterns.zipIdx → p.compile index = .ok s →
      P p.name (p.key index))
    (htoken : P "High Entropy String" Detector.highEntropyKey)
    (hf : f ∈ ((ofOptions o).scan content file).findings) : P f.kind f.ruleId := by
  obtain ⟨g, horigin, rfl⟩ := origin_of_mem_scan hf
  have hkind : (g.labelled (file.or o.filename)).kind = g.kind :=
    congrArg Prod.fst (g.labelled_key _)
  rw [hkind, Finding.labelled_ruleId]
  cases horigin with
  | @ofMatch line number s m hline hs hm =>
    change P s.name s.key
    rcases List.mem_append.1 hs with hs | hs
    · obtain ⟨d, hd, hkey, hname⟩ :=
        Signature.exists_definition_of_mem_builtin (List.mem_filter.1 hs).1
      rw [hname, hkey]
      exact hdefinitions d hd
    · obtain ⟨p, index, hp, hcompile, -⟩ := ScanOptions.mem_customSignatures.1 hs
      obtain ⟨hkey, hname⟩ := Signature.Definition.of_compile hcompile
      rw [hname, hkey]
      exact hcustom p index s hp hcompile
  | ofToken hon hline hg =>
    obtain ⟨hruleId, hkind, -⟩ := Detector.highEntropy_finding hg
    rw [hkind, hruleId]
    exact htoken

/-- A token that looks random is reported whatever keys are disabled, as long as entropy is switched
on and no remark silences it. A custom pattern of the same name can take the place of its finding,
but no built-in signature can. -/
theorem exists_mem_scan_of_token (file : Option Text) {content line : Text} {number : Nat}
    {g : Finding} (hon : o.enableEntropy = true) (hline : (line, number) ∈ Detector.numbered content)
    (hg : g ∈ ((Detector.highEntropy o.sanitized).scanLine line number).findings)
    (hsilent : ¬ Silenced content number Detector.highEntropyKey) :
    ∃ f ∈ ((ofOptions o).scan content file).findings, f.key = g.key ∧
      (f.ruleId = Detector.highEntropyKey ∨
        ∃ s ∈ o.customSignatures, s.name = "High Entropy String" ∧ f.ruleId = s.key) := by
  obtain ⟨hruleId, hkind, hnumber⟩ := Detector.highEntropy_finding hg
  have haudible : audible content g.line g.ruleId = true := by
    rw [audible_iff, hruleId, hnumber]
    exact hsilent
  obtain ⟨f, hf, hkey⟩ := exists_mem_scan_of_raw file (highEntropy_subset_raw hon hline hg) haudible
  refine ⟨f, hf, hkey, ?_⟩
  obtain ⟨e, horigin, heq⟩ := origin_of_mem_scan hf
  have hekey : e.key = g.key := by
    rw [← Finding.labelled_key (file.or o.filename) e, ← heq, hkey]
  have hekind : e.kind = "High Entropy String" := (congrArg Prod.fst hekey).trans hkind
  rw [heq, Finding.labelled_ruleId]
  cases horigin with
  | @ofMatch _ _ s _ _ hs _ =>
    rcases List.mem_append.1 hs with hs | hs
    · exact absurd hekind (Signature.name_ne_of_mem_builtin (List.mem_filter.1 hs).1)
    · exact .inr ⟨s, hs, hekind, rfl⟩
  | ofToken _ _ he => exact .inl (Detector.highEntropy_finding he).1

/-- Disabled keys stay out of a report with one exception: no advisory has one, and a finding that
has one was made from a token that looks random. Disabling a key does not keep such tokens out. -/
theorem scan_of_disabled (o : ScanOptions) (content : Text) (file : Option Text) :
    (∀ a ∈ ((ofOptions o).scan content file).advisories, a.ruleId ∉ o.disabled) ∧
      (∀ f ∈ ((ofOptions o).scan content file).findings, f.ruleId ∈ o.disabled →
        f.ruleId = Detector.highEntropyKey ∧ o.enableEntropy = true ∧
        ∃ line g, (line, f.line) ∈ Detector.numbered content ∧
          g ∈ ((Detector.highEntropy o.sanitized).scanLine line f.line).findings ∧
          f = g.labelled (file.or o.filename)) ∧
      (o.enableEntropy = true → ∀ line number g, (line, number) ∈ Detector.numbered content →
        g ∈ ((Detector.highEntropy o.sanitized).scanLine line number).findings →
        ¬ Silenced content number Detector.highEntropyKey →
        ∃ f ∈ ((ofOptions o).scan content file).findings, f.key = g.key ∧
          (f.ruleId = Detector.highEntropyKey ∨
            ∃ s ∈ o.customSignatures, s.name = "High Entropy String" ∧ f.ruleId = s.key)) := by
  refine ⟨?_, ?_, ?_⟩
  · intro a ha
    rw [scan_eq_publish] at ha
    obtain ⟨b, hb, rfl⟩ := List.mem_map.1 ha
    obtain ⟨s, hs, hkey⟩ := exists_signature_of_advisory (List.mem_filter.1 hb).1
    have hruleId : b.ruleId ∉ o.disabled := hkey ▸ ScanOptions.key_not_mem_disabled hs
    exact hruleId
  · intro f hf hdisabled
    obtain ⟨g, horigin, rfl⟩ := origin_of_mem_scan hf
    rw [Finding.labelled_ruleId] at hdisabled ⊢
    rw [Finding.labelled_line]
    cases horigin with
    | ofMatch hline hs hm => exact absurd hdisabled (ScanOptions.key_not_mem_disabled hs)
    | @ofToken line number _ hon hline hg =>
      obtain ⟨hruleId, -, hnumber⟩ := Detector.highEntropy_finding hg
      rw [hnumber]
      exact ⟨hruleId, hon, line, g, hline, hg, rfl⟩
  · intro hon line number g hline hg hsilent
    exact exists_mem_scan_of_token file hon hline hg hsilent

def tokenKeyDisabled : ScanOptions where
  disabled := ["high_entropy_string".toList]
  entropyThreshold := 2.0
  minTokenLength := 8

def tokenLine : Text := "value: AB12AB12"

/-- The token looks random, and no remark silences it. -/
theorem exists_random_token :
    (∃ g ∈ ((Detector.highEntropy tokenKeyDisabled.sanitized).scanLine tokenLine 1).findings,
      g.key = ("High Entropy String".toList, 1, "AB12AB12".toList)) ∧
      (tokenLine, 1) ∈ Detector.numbered tokenLine ∧
      ¬ Silenced tokenLine 1 Detector.highEntropyKey := by
  refine ⟨by decide +kernel, by decide +kernel, ?_⟩
  rw [← audible_iff]
  decide +kernel

/-- The token is reported, and its finding has a disabled key. -/
theorem scan_of_disabled_token :
    ∃ f ∈ ((ofOptions tokenKeyDisabled).scan tokenLine none).findings,
      f.key = ("High Entropy String".toList, 1, "AB12AB12".toList) ∧
        f.ruleId ∈ tokenKeyDisabled.disabled ∧ f.ruleId = Detector.highEntropyKey := by
  obtain ⟨⟨g, hg, hkey⟩, hline, hsilent⟩ := exists_random_token
  obtain ⟨-, hexception, hreported⟩ := scan_of_disabled tokenKeyDisabled tokenLine none
  obtain ⟨f, hf, hfkey, hruleId | ⟨s, hs, -⟩⟩ := hreported rfl tokenLine 1 g hline hg hsilent
  · have hdisabled : f.ruleId ∈ tokenKeyDisabled.disabled := by
      rw [hruleId]
      decide
    exact ⟨f, hf, hfkey.trans hkey, hdisabled, (hexception f hf hdisabled).1⟩
  · cases hs

/-- So it is not true that disabled keys never stand in a report. -/
theorem not_all_disabled_silent :
    ¬ ∀ (o : ScanOptions) (content : Text) (file : Option Text),
      (∀ f ∈ ((ofOptions o).scan content file).findings, f.ruleId ∉ o.disabled) ∧
        ∀ a ∈ ((ofOptions o).scan content file).advisories, a.ruleId ∉ o.disabled := by
  intro hall
  obtain ⟨⟨g, hg, -⟩, hline, hsilent⟩ := exists_random_token
  obtain ⟨f, hf, -, hruleId | ⟨s, hs, -⟩⟩ := exists_mem_scan_of_token none rfl hline hg hsilent
  · refine (hall tokenKeyDisabled tokenLine none).1 f hf ?_
    rw [hruleId]
    decide
  · cases hs

end Scanner

end Disabled

end SecretScan
