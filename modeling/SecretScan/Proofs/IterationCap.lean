import SecretScan.Proofs.MatchSequence
import SecretScan.Proofs.ScanStages

/-!
Raising the limit on matches. A signature that reaches its limit on a line reports less than it
could, and says so; one that does not would report the same under any higher limit. So the report
under the lower limit is cut from the other one, and is all of it where no advisory is left. That
much passes from signatures to detectors and through the remarks, which silence a finding only
together with the advisory about it.
-/

namespace SecretScan

namespace ScanReport

/-- The first report has less than the second one, in the same order, and it has as much on every
choice of lines and signatures for which it has no advisory. -/
structure CutFrom (few many : ScanReport) : Prop where
  sublist : few.findings.Sublist many.findings
  settled : ∀ keep, (few.select keep).advisories = [] → few.select keep = many.select keep

theorem CutFrom.refl (r : ScanReport) : r.CutFrom r :=
  ⟨.refl _, fun _ _ => rfl⟩

theorem CutFrom.append {few many few' many' : ScanReport} (h : few.CutFrom many)
    (h' : few'.CutFrom many') : (few ++ few').CutFrom (many ++ many') where
  sublist := h.sublist.append h'.sublist
  settled keep hnone := by
    rw [select_append] at hnone
    obtain ⟨hfew, hfew'⟩ := List.append_eq_nil_iff.1 hnone
    rw [select_append, select_append, h.settled keep hfew, h'.settled keep hfew']

/-- Consolidating may keep another finding than before, but one with the same key. -/
theorem CutFrom.keys_subset {few many : ScanReport} (h : few.CutFrom many)
    (keep : Nat → Text → Bool) (label : Option Text) :
    ((few.select keep).publish label).findings.map Finding.key ⊆
      ((many.select keep).publish label).findings.map Finding.key := by
  intro k hk
  obtain ⟨f, hf, rfl⟩ := List.mem_map.1 hk
  have hsub : ((few.select keep).findings.map (·.labelled label)).Sublist
      ((many.select keep).findings.map (·.labelled label)) :=
    (h.sublist.filter _).map _
  have hfew : f ∈ (few.select keep).findings.map (·.labelled label) :=
    (Finding.dedup_sublist _).mem (Finding.mem_consolidate.1 hf)
  obtain ⟨g, hg, hfg⟩ := Finding.exists_mem_consolidate (hsub.mem hfew)
  exact List.mem_map.2 ⟨g, hg, ((f.repeats_iff g).1 hfg).2.symm⟩

theorem cutFrom_concat_map {α : Type} {few many : α → ScanReport} (xs : List α)
    (h : ∀ x ∈ xs, (few x).CutFrom (many x)) :
    (concat (xs.map few)).CutFrom (concat (xs.map many)) := by
  induction xs with
  | nil => exact .refl _
  | cons x xs ih =>
    rw [List.map_cons, List.map_cons, concat_cons, concat_cons]
    exact (h x List.mem_cons_self).append (ih fun y hy => h y (List.mem_cons_of_mem x hy))

end ScanReport

namespace Signature

/-- All that a signature reports on a line has the same line and key, so a choice without them
leaves nothing. -/
theorem select_scanLine (s : Signature) {keep : Nat → Text → Bool} {number : Nat}
    (hkeep : keep number s.key = false) (limit : Nat) (line : Text) :
    (s.scanLine limit line number).select keep = .empty := by
  simp only [scanLine_eq, ScanReport.select, ScanReport.empty, ScanReport.mk.injEq,
    List.filter_eq_nil_iff, List.mem_map]
  constructor
  · rintro f ⟨m, -, rfl⟩
    simp [finding, hkeep]
  · intro a ha
    split at ha
    · obtain rfl := List.mem_singleton.1 ha
      simp [hkeep]
    · cases ha

variable {m n : Nat} (h : m ≤ n)
include h

/-- Reaching the limit is the only thing that makes a difference, and it leaves an advisory with
the line and the key of all findings that are lost. -/
theorem cutFrom_scanLine (s : Signature) (line : Text) (number : Nat) :
    (s.scanLine m line number).CutFrom (s.scanLine n line number) where
  sublist := by
    rw [scanLine_eq, scanLine_eq]
    exact (List.take_sublist_take_left h).map _
  settled keep hnone := by
    by_cases hcut : m < (s.allMatches line).length
    · have hsilent : keep number s.key = false := by
        simpa [scanLine_eq, ScanReport.select, if_pos hcut] using hnone
      rw [s.select_scanLine hsilent, s.select_scanLine hsilent]
    · have hm : (s.allMatches line).length ≤ m := Nat.not_lt.1 hcut
      have hn : (s.allMatches line).length ≤ n := Nat.le_trans hm h
      rw [scanLine_eq, scanLine_eq, List.take_of_length_le hm, List.take_of_length_le hn,
        if_neg hcut, if_neg (Nat.not_lt.2 hn)]

theorem cutFrom_scanText (name : Text) (signatures : List Signature) (content : Text) :
    ((Detector.mk name (scanLineAll signatures m)).scanText content).CutFrom
      ((Detector.mk name (scanLineAll signatures n)).scanText content) := by
  refine ScanReport.cutFrom_concat_map _ fun (line, number) _ => ?_
  exact ScanReport.cutFrom_concat_map signatures fun s _ => s.cutFrom_scanLine h line number

end Signature

def ScanOptions.withLimit (o : ScanOptions) (limit : Nat) : ScanOptions :=
  { o with maxIterations := limit }

theorem ScanOptions.sanitized_maxIterations_le {o : ScanOptions} {n : Nat}
    (h : o.maxIterations ≤ n) :
    o.sanitized.maxIterations ≤ (o.withLimit n).sanitized.maxIterations := by
  simp only [sanitized, withLimit]
  omega

namespace Scanner

variable {o : ScanOptions} {n : Nat}

theorem cutFrom_raw (h : o.maxIterations ≤ n) (content : Text) :
    ((ofOptions o).raw content).CutFrom ((ofOptions (o.withLimit n)).raw content) := by
  have hsignatures (name : Text) (signatures : List Signature) :=
    Signature.cutFrom_scanText (ScanOptions.sanitized_maxIterations_le h) name signatures content
  have henable : (o.withLimit n).sanitized.enableEntropy = o.sanitized.enableEntropy := rfl
  have hentropy : Detector.highEntropy (o.withLimit n).sanitized =
      Detector.highEntropy o.sanitized := rfl
  rw [raw_ofOptions, raw_ofOptions, ScanOptions.detections, ScanOptions.detections, henable,
    hentropy]
  exact (hsignatures _ _).append ((hsignatures _ _).append (.refl _))

/-- A higher limit loses no key, and changes nothing where the report has no advisory. Whatever
signature has more matches on a line than the limit is named by an advisory, unless the line
silences it. -/
theorem scan_withLimit (o : ScanOptions) (content : Text) (file : Option Text) {n : Nat}
    (h : o.maxIterations ≤ n) :
    ((ofOptions o).scan content file).findings.map Finding.key ⊆
        ((ofOptions (o.withLimit n)).scan content file).findings.map Finding.key ∧
      (((ofOptions o).scan content file).advisories = [] →
        (ofOptions (o.withLimit n)).scan content file = (ofOptions o).scan content file) ∧
      ∀ line number s, (line, number) ∈ Detector.numbered content →
        s ∈ o.builtinSignatures ++ o.customSignatures →
        o.sanitized.maxIterations < (s.allMatches line).length →
        ¬ Silenced content number s.key →
        ⟨s.key, number, o.sanitized.maxIterations, file.or o.filename⟩ ∈
          ((ofOptions o).scan content file).advisories := by
  have hcut := cutFrom_raw h content
  have hfilename : (ofOptions (o.withLimit n)).filename = (ofOptions o).filename := rfl
  rw [scan_eq_publish, scan_eq_publish, hfilename]
  refine ⟨hcut.keys_subset _ _, fun hnone => ?_, fun line number s hline hs hmore hsilent => ?_⟩
  · rw [hcut.settled _ (List.map_eq_nil_iff.1 hnone)]
  · refine List.mem_map.2 ⟨⟨s.key, number, o.sanitized.maxIterations, none⟩, ?_, rfl⟩
    refine List.mem_filter.2 ⟨(scanLine_subset_raw hline hs).2 ?_, (audible_iff _ _ _).2 hsilent⟩
    rw [Signature.scanLine_eq, if_pos hmore]
    exact List.mem_singleton_self _

def oneRun : ScanOptions where
  maxIterations := 1
  customPatterns := [⟨"Runs", "a*", .low, none, none⟩]

/-- There are four runs of `a` in `baac`, so that one match leaves something out. -/
theorem scan_withLimit_oneRun :
    oneRun.maxIterations ≤ 2 ∧
      ((ofOptions oneRun).scan "baac".toList none).findings.map Finding.key ⊆
        ((ofOptions (oneRun.withLimit 2)).scan "baac".toList none).findings.map Finding.key ∧
      ⟨"custom_1", 1, 1, none⟩ ∈ ((ofOptions oneRun).scan "baac".toList none).advisories := by
  have hle : oneRun.maxIterations ≤ 2 := by decide
  obtain ⟨hkeys, -, hnamed⟩ := scan_withLimit oneRun "baac".toList none hle
  have hmore : ∃ s ∈ oneRun.customSignatures, s.key = "custom_1" ∧
      1 < (s.allMatches "baac".toList).length := by decide +kernel
  have hline : ("baac".toList, 1) ∈ Detector.numbered "baac".toList := by decide +kernel
  have haudible : audible "baac".toList 1 "custom_1" = true := by decide +kernel
  obtain ⟨s, hs, hkey, hmore⟩ := hmore
  have hsilent : ¬ Silenced "baac".toList 1 s.key := by
    rw [hkey]
    exact (audible_iff _ _ _).1 haudible
  refine ⟨hle, hkeys, ?_⟩
  rw [← hkey]
  exact hnamed _ 1 s hline (List.mem_append_right _ hs) hmore hsilent

end Scanner

end SecretScan
