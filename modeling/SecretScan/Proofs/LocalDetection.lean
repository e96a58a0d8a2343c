import SecretScan.Proofs.ScanStages

/-!
Detectors work line by line. What a detector reports on a line names that line and no file, and
does not depend on the number of the line otherwise, so a detector reports on a text in two parts
what it reports on each of them. The lines of the second part count on from those of the first.
-/

namespace SecretScan

def Finding.moveDown (n : Nat) (f : Finding) : Finding :=
  { f with line := f.line + n }

def Advisory.moveDown (n : Nat) (a : Advisory) : Advisory :=
  { a with line := a.line + n }

namespace ScanReport

def moveDown (n : Nat) (r : ScanReport) : ScanReport :=
  ⟨r.findings.map (·.moveDown n), r.advisories.map (·.moveDown n)⟩

structure IsAt (number : Nat) (r : ScanReport) : Prop where
  finding_line : ∀ f ∈ r.findings, f.line = number
  finding_file : ∀ f ∈ r.findings, f.file = none
  advisory_line : ∀ a ∈ r.advisories, a.line = number

theorem moveDown_concat (n : Nat) (rs : List ScanReport) :
    (concat rs).moveDown n = concat (rs.map (·.moveDown n)) := by
  simp only [concat, moveDown, List.map_flatMap, List.flatMap_map]

theorem isAt_concat {number : Nat} {rs : List ScanReport} (h : ∀ r ∈ rs, r.IsAt number) :
    (concat rs).IsAt number where
  finding_line f hf := by
    obtain ⟨r, hr, hf⟩ := List.mem_flatMap.1 hf
    exact (h r hr).finding_line f hf
  finding_file f hf := by
    obtain ⟨r, hr, hf⟩ := List.mem_flatMap.1 hf
    exact (h r hr).finding_file f hf
  advisory_line a ha := by
    obtain ⟨r, hr, ha⟩ := List.mem_flatMap.1 ha
    exact (h r hr).advisory_line a ha

end ScanReport

namespace Text

/-- A text that is empty or ends with a newline has only complete lines, which any text behind it
leaves as they are. -/
theorem lines_append_of_complete {a : Text} (h : a = [] ∨ a.getLast? = some '\n') (b : Text) :
    lines (a ++ b) = lines a ++ lines b := by
  rcases h with rfl | h
  · rfl
  · obtain ⟨body, rfl⟩ := List.getLast?_eq_some_iff.1 h
    rw [List.append_assoc, List.singleton_append, lines_append_newline]

end Text

namespace Detector

/-- A detector that reports on each line by itself. -/
structure IsLocal (d : Detector) : Prop where
  isAt : ∀ line number, (d.scanLine line number).IsAt number
  moveDown : ∀ line number n, d.scanLine line (number + n) = (d.scanLine line number).moveDown n

theorem numbered_append {a : Text} (h : a = [] ∨ a.getLast? = some '\n') (b : Text) :
    numbered (a ++ b) = numbered a ++
      (numbered b).map fun (line, number) => (line, number + (Text.lines a).length) := by
  rw [numbered, Text.lines_append_of_complete h, List.zipIdx_append]
  refine congrArg (numbered a ++ ·) ?_
  rw [List.zipIdx_eq_map_add, numbered, @List.zipIdx_eq_map_add _ (Text.lines b) 1, List.map_map]
  refine List.map_congr_left fun p _ => ?_
  simp only [Function.comp_apply, Prod.mk.injEq, true_and]
  omega

theorem number_bounds {content line : Text} {number : Nat} (h : (line, number) ∈ numbered content) :
    1 ≤ number ∧ number ≤ (Text.lines content).length := by
  have := List.mem_zipIdx h
  omega

namespace IsLocal

variable {d : Detector}

theorem scanText_append (hd : d.IsLocal) {a : Text} (h : a = [] ∨ a.getLast? = some '\n')
    (b : Text) :
    d.scanText (a ++ b) = d.scanText a ++ (d.scanText b).moveDown (Text.lines a).length := by
  rw [scanText, numbered_append h, List.map_append, ScanReport.concat_append, scanText, scanText,
    ScanReport.moveDown_concat, List.map_map, List.map_map]
  congr 2
  exact List.map_congr_left fun p _ => hd.moveDown p.1 p.2 _

theorem scanText_finding (hd : d.IsLocal) {content : Text} {f : Finding}
    (hf : f ∈ (d.scanText content).findings) :
    f.file = none ∧ 1 ≤ f.line ∧ f.line ≤ (Text.lines content).length := by
  obtain ⟨r, hr, hf⟩ := List.mem_flatMap.1 hf
  obtain ⟨⟨line, number⟩, hline, rfl⟩ := List.mem_map.1 hr
  have hat := hd.isAt line number
  rw [hat.finding_line f hf]
  exact ⟨hat.finding_file f hf, number_bounds hline⟩

theorem scanText_advisory (hd : d.IsLocal) {content : Text} {a : Advisory}
    (ha : a ∈ (d.scanText content).advisories) :
    1 ≤ a.line ∧ a.line ≤ (Text.lines content).length := by
  obtain ⟨r, hr, ha⟩ := List.mem_flatMap.1 ha
  obtain ⟨⟨line, number⟩, hline, rfl⟩ := List.mem_map.1 hr
  rw [(hd.isAt line number).advisory_line a ha]
  exact number_bounds hline

end IsLocal

end Detector

section Detectors

theorem Signature.isAt_scanLine (s : Signature) (limit : Nat) (line : Text) (number : Nat) :
    (s.scanLine limit line number).IsAt number where
  finding_line f hf := by
    obtain ⟨m, -, rfl⟩ := List.mem_map.1 hf
    rfl
  finding_file f hf := by
    obtain ⟨m, -, rfl⟩ := List.mem_map.1 hf
    rfl
  advisory_line a ha := by
    simp only [scanLine, report] at ha
    split at ha
    · obtain rfl := List.mem_singleton.1 ha
      rfl
    · cases ha

theorem Signature.scanLine_moveDown (s : Signature) (limit : Nat) (line : Text) (number n : Nat) :
    s.scanLine limit line (number + n) = (s.scanLine limit line number).moveDown n := by
  simp only [scanLine, report, ScanReport.moveDown, List.map_map]
  congr 1
  split <;> rfl

theorem Signature.isLocal_scanLineAll (name : Text) (signatures : List Signature) (limit : Nat) :
    (Detector.mk name (scanLineAll signatures limit)).IsLocal where
  isAt line number := by
    refine ScanReport.isAt_concat fun r hr => ?_
    obtain ⟨s, -, rfl⟩ := List.mem_map.1 hr
    exact s.isAt_scanLine limit line number
  moveDown line number n := by
    simp only [scanLineAll, ScanReport.moveDown_concat, List.map_map]
    congr 1
    exact List.map_congr_left fun s _ => s.scanLine_moveDown limit line number n

theorem Detector.highEntropy_scanLine (o : ScanOptions) (line : Text) (number : Nat) :
    (Detector.highEntropy o).scanLine line number =
      ⟨(randomTokens o.sanitized line).map fun (t, entropy) =>
        tokenFinding (Text.trim line) number t entropy, []⟩ := rfl

theorem Detector.isLocal_highEntropy (o : ScanOptions) : (Detector.highEntropy o).IsLocal where
  isAt line number := by
    rw [highEntropy_scanLine]
    refine ⟨fun f hf => ?_, fun f hf => ?_, fun a ha => absurd ha List.not_mem_nil⟩
    · simp only [List.mem_map] at hf
      obtain ⟨t, -, rfl⟩ := hf
      rfl
    · simp only [List.mem_map] at hf
      obtain ⟨t, -, rfl⟩ := hf
      rfl
  moveDown line number n := by
    simp only [highEntropy_scanLine, ScanReport.moveDown, List.map_map, List.map_nil]
    rfl

/-- The detectors of a scanner that options set up. -/
theorem Scanner.eq_of_mem_ofOptions {o : ScanOptions} {d : Detector}
    (hd : d ∈ (Scanner.ofOptions o).detectors) :
    d = Detector.builtin o.sanitized ∨ d = Detector.custom o.sanitized ∨
      d = Detector.highEntropy o.sanitized := by
  simp only [ofOptions, List.mem_cons, List.mem_append] at hd
  rcases hd with rfl | hd | hd
  · exact .inl rfl
  · split at hd
    · cases hd
    · exact .inr (.inl (List.mem_singleton.1 hd))
  · split at hd
    · exact .inr (.inr (List.mem_singleton.1 hd))
    · cases hd

/-- All detectors of a scanner that options set up are local. -/
theorem Scanner.isLocal_of_mem_ofOptions {o : ScanOptions} {d : Detector}
    (hd : d ∈ (Scanner.ofOptions o).detectors) : d.IsLocal := by
  rcases eq_of_mem_ofOptions hd with rfl | rfl | rfl
  · exact Signature.isLocal_scanLineAll _ _ _
  · exact Signature.isLocal_scanLineAll _ _ _
  · exact Detector.isLocal_highEntropy _

end Detectors

end SecretScan
