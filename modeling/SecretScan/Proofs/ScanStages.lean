import SecretScan.Proofs.Consolidation
import SecretScan.Scanner

/-!
A scan in three stages: what the detectors find, what no remark silences of it, and what is
reported under the label. The last two are functions on reports, so that laws on reports pass from
the detectors to the scanner. Remarks are read off the lines themselves and not off the table in
which the scanner keeps them.
-/

namespace SecretScan

def Finding.labelled (label : Option Text) (f : Finding) : Finding :=
  match label with
  | some label => f.withFile label
  | none => f

theorem Finding.labelled_key (label : Option Text) (f : Finding) :
    (f.labelled label).key = f.key := by
  cases label <;> rfl

theorem Finding.labelled_line (label : Option Text) (f : Finding) :
    (f.labelled label).line = f.line := by
  cases label <;> rfl

theorem Finding.labelled_ruleId (label : Option Text) (f : Finding) :
    (f.labelled label).ruleId = f.ruleId := by
  cases label <;> rfl

/-- Findings without a file take the label as their file, whether there is one or not. -/
theorem Finding.labelled_file (label : Option Text) {f : Finding} (hf : f.file = none) :
    (f.labelled label).file = label := by
  cases label with
  | none => exact hf
  | some label => rfl

namespace ScanReport

def select (keep : Nat → Text → Bool) (r : ScanReport) : ScanReport :=
  ⟨r.findings.filter fun f => keep f.line f.ruleId,
    r.advisories.filter fun a => keep a.line a.ruleId⟩

def publish (label : Option Text) (r : ScanReport) : ScanReport :=
  ⟨Finding.consolidate (r.findings.map (·.labelled label)),
    r.advisories.map fun a => { a with file := label }⟩

theorem select_append (keep : Nat → Text → Bool) (a b : ScanReport) :
    (a ++ b).select keep = a.select keep ++ b.select keep := by
  simp only [select, HAppend.hAppend, Append.append, append]
  congr 1
  · exact List.filter_append ..
  · exact List.filter_append ..

theorem select_concat (keep : Nat → Text → Bool) (rs : List ScanReport) :
    (concat rs).select keep = concat (rs.map (·.select keep)) := by
  simp only [concat, select, List.filter_flatMap, List.flatMap_map]

theorem concat_cons (r : ScanReport) (rs : List ScanReport) : concat (r :: rs) = r ++ concat rs :=
  rfl

theorem concat_append (rs ss : List ScanReport) :
    concat (rs ++ ss) = concat rs ++ concat ss := by
  simp only [concat, List.flatMap_append]
  rfl

theorem append_empty (r : ScanReport) : r ++ empty = r := by
  simp only [HAppend.hAppend, Append.append, append, empty]
  congr 1
  · exact List.append_nil _
  · exact List.append_nil _

theorem concat_eq_empty {rs : List ScanReport} (h : ∀ r ∈ rs, r = empty) : concat rs = empty := by
  induction rs with
  | nil => rfl
  | cons r rs ih =>
    rw [concat_cons, h r List.mem_cons_self, ih fun r hr => h r (List.mem_cons_of_mem _ hr)]
    rfl

end ScanReport

def ScanOptions.detections (o : ScanOptions) (content : Text) : ScanReport :=
  (Detector.builtin o).scanText content ++ ((Detector.custom o).scanText content ++
    if o.enableEntropy then (Detector.highEntropy o).scanText content else .empty)

theorem Detector.scanText_custom {o : ScanOptions} (h : o.customSignatures = []) (content : Text) :
    (Detector.custom o).scanText content = .empty := by
  have hscan (line : Text) (number : Nat) : (custom o).scanLine line number =
      Signature.scanLineAll o.customSignatures o.maxIterations line number := rfl
  have hline (line : Text) (number : Nat) : (custom o).scanLine line number = .empty := by
    rw [hscan, h]
    rfl
  rw [scanText]
  refine ScanReport.concat_eq_empty fun r hr => ?_
  simp only [hline, List.mem_map] at hr
  obtain ⟨-, -, rfl⟩ := hr
  rfl

namespace Scanner

/-- Leaving the custom detector out when it has no signatures makes no difference. -/
theorem raw_ofOptions (o : ScanOptions) (content : Text) :
    (ofOptions o).raw content = o.sanitized.detections content := by
  have hcustom : ScanReport.concat
      ((if o.sanitized.customSignatures.isEmpty then [] else [Detector.custom o.sanitized]).map
        fun d => d.scanText content) = (Detector.custom o.sanitized).scanText content := by
    split
    · rename_i h
      rw [Detector.scanText_custom (List.isEmpty_iff.1 h)]
      rfl
    · exact ScanReport.append_empty _
  have hentropy : ScanReport.concat
      ((if o.sanitized.enableEntropy then [Detector.highEntropy o.sanitized] else []).map
        fun d => d.scanText content) =
      if o.sanitized.enableEntropy then (Detector.highEntropy o.sanitized).scanText content
        else .empty := by
    split
    · exact ScanReport.append_empty _
    · rfl
  rw [raw, ofOptions, ScanOptions.detections, ← hcustom, ← hentropy, ← ScanReport.concat_append,
    ← ScanReport.concat_cons, ← List.map_append]
  rfl

/-- What a signature of the scanner reports on a line is in the raw report. -/
theorem scanLine_subset_raw {o : ScanOptions} {content line : Text} {number : Nat} {s : Signature}
    (hline : (line, number) ∈ Detector.numbered content)
    (hs : s ∈ o.builtinSignatures ++ o.customSignatures) :
    (s.scanLine o.sanitized.maxIterations line number).findings ⊆
        ((ofOptions o).raw content).findings ∧
      (s.scanLine o.sanitized.maxIterations line number).advisories ⊆
        ((ofOptions o).raw content).advisories := by
  have hall {α : Type} (part : ScanReport → List α)
      (hpart : ∀ rs, part (.concat rs) = rs.flatMap part) (name : Text)
      {signatures : List Signature} (hs : s ∈ signatures) :
      part (s.scanLine o.sanitized.maxIterations line number) ⊆
        part ((Detector.mk name (Signature.scanLineAll signatures
          o.sanitized.maxIterations)).scanText content) := by
    intro x hx
    rw [Detector.scanText, hpart]
    refine List.mem_flatMap.2 ⟨_, List.mem_map.2 ⟨_, hline, rfl⟩, ?_⟩
    simp only [Signature.scanLineAll, hpart]
    exact List.mem_flatMap.2 ⟨_, List.mem_map.2 ⟨s, hs, rfl⟩, hx⟩
  have hfindings := @hall _ (·.findings) fun _ => rfl
  have hadvisories := @hall _ (·.advisories) fun _ => rfl
  rw [raw_ofOptions]
  rcases List.mem_append.1 hs with hs | hs
  · exact ⟨fun f hf => List.mem_append_left _ (hfindings _ hs hf),
      fun a ha => List.mem_append_left _ (hadvisories _ hs ha)⟩
  · exact ⟨fun f hf => List.mem_append_right _ (List.mem_append_left _ (hfindings _ hs hf)),
      fun a ha => List.mem_append_right _ (List.mem_append_left _ (hadvisories _ hs ha))⟩

def Silenced (content : Text) (number : Nat) (ruleId : Text) : Prop :=
  ∃ line remark, (line, number) ∈ Detector.numbered content ∧
    Suppression.ofLine? line = some remark ∧ remark.suppresses ruleId = true

/-- A table made from the numbered elements of a list tells of each number what its element
says. Numbers do not repeat, so the first entry of a number is the only one. -/
theorem lookup_filterMap_zipIdx {α β : Type} (g : α → Option β) (l : List α) (first n : Nat)
    (y : β) :
    ((l.zipIdx first).filterMap fun (x, i) => (g x).map fun y => (i, y)).lookup n = some y ↔
      ∃ x, (x, n) ∈ l.zipIdx first ∧ g x = some y := by
  induction l generalizing first with
  | nil => simp
  | cons x l ih =>
    have hbehind (z : α) (h : (z, n) ∈ l.zipIdx (first + 1)) : n ≠ first := by
      have := (List.mk_mem_zipIdx_iff_le_and_getElem?_sub.1 h).1
      omega
    rw [List.zipIdx_cons]
    cases hx : g x with
    | none =>
      simp only [List.filterMap_cons, hx, Option.map_none, ih, List.mem_cons, Prod.mk.injEq]
      constructor
      · rintro ⟨z, hz, hy⟩
        exact ⟨z, .inr hz, hy⟩
      · rintro ⟨z, ⟨rfl, -⟩ | hz, hy⟩
        · rw [hx] at hy
          cases hy
        · exact ⟨z, hz, hy⟩
    | some w =>
      by_cases hn : n = first
      · subst hn
        simp only [List.filterMap_cons, hx, Option.map_some, List.lookup_cons_self,
          Option.some.injEq, List.mem_cons, Prod.mk.injEq, and_true]
        constructor
        · rintro rfl
          exact ⟨x, .inl rfl, hx⟩
        · rintro ⟨z, rfl | hz, hy⟩
          · exact Option.some.inj (hx.symm.trans hy)
          · exact absurd rfl (hbehind z hz)
      · simp only [List.filterMap_cons, hx, Option.map_some, List.lookup_cons,
          beq_false_of_ne hn, ih, List.mem_cons, Prod.mk.injEq, hn, and_false, false_or]

/-- The scanner's table of remarks says of every line what its text says. -/
theorem isSuppressed_iff (content : Text) (number : Nat) (ruleId : Text) :
    isSuppressed (suppressions content) number ruleId = true ↔ Silenced content number ruleId := by
  simp only [isSuppressed, Option.any_eq_true, suppressions, lookup_filterMap_zipIdx,
    Detector.numbered, Silenced]
  constructor
  · rintro ⟨remark, ⟨line, hline, hremark⟩, hs⟩
    exact ⟨line, remark, hline, hremark, hs⟩
  · rintro ⟨line, remark, hline, hremark, hs⟩
    exact ⟨remark, ⟨line, hline, hremark⟩, hs⟩

def audible (content : Text) (number : Nat) (ruleId : Text) : Bool :=
  !isSuppressed (suppressions content) number ruleId

theorem audible_iff (content : Text) (number : Nat) (ruleId : Text) :
    audible content number ruleId = true ↔ ¬ Silenced content number ruleId := by
  rw [← isSuppressed_iff]
  simp [audible]

theorem scan_eq_publish (s : Scanner) (content : Text) (file : Option Text) :
    s.scan content file =
      ((s.raw content).select (audible content)).publish (file.or s.filename) := by
  simp only [scan, ScanReport.publish, ScanReport.select, audible]
  cases file.or s.filename with
  | none => simp [Finding.labelled]
  | some label => simp [Finding.labelled]

/-- Every finding of a report was made by a detector and got its label afterwards. -/
theorem exists_raw_of_mem_scan {s : Scanner} {content : Text} {file : Option Text} {f : Finding}
    (hf : f ∈ (s.scan content file).findings) :
    ∃ g ∈ (s.raw content).findings, f = g.labelled (file.or s.filename) := by
  rw [scan_eq_publish] at hf
  have hf := (Finding.dedup_sublist _).mem (Finding.mem_consolidate.1 hf)
  obtain ⟨g, hg, rfl⟩ := List.mem_map.1 hf
  exact ⟨g, (List.mem_filter.1 hg).1, rfl⟩

/-- Every finding that no remark silences is reported, or another one with its key. -/
theorem exists_mem_scan_of_raw {s : Scanner} {content : Text} (file : Option Text) {g : Finding}
    (hg : g ∈ (s.raw content).findings) (hgs : audible content g.line g.ruleId = true) :
    ∃ f ∈ (s.scan content file).findings, f.key = g.key := by
  have hmem : g.labelled (file.or s.filename) ∈
      ((s.raw content).select (audible content)).findings.map
        (·.labelled (file.or s.filename)) :=
    List.mem_map_of_mem (List.mem_filter.2 ⟨hg, hgs⟩)
  obtain ⟨f, hf, hrepeats⟩ := Finding.exists_mem_consolidate hmem
  rw [scan_eq_publish]
  exact ⟨f, hf, ((Finding.repeats_iff _ f).1 hrepeats).2.symm.trans (g.labelled_key _)⟩

end Scanner

end SecretScan
