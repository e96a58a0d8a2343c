import Mathlib.Data.Nat.Find
import SecretScan.Proofs.LocalDetection

/-!
What a scan reports of what its detectors find. A finding leads when no remark silences it and no
audible finding before it has its key. The report has the leading findings under the label and
nothing else, line by line and in the order of detection on each line. Silenced findings do not
count as having been there before: they keep no later finding out of the report.
-/

namespace SecretScan

open Scanner

/-- The finding with this index is the first one with its key that no remark silences. -/
structure Finding.Leads (content : Text) (raw : List Finding) (i : Nat) (f : Finding) : Prop where
  at_index : raw[i]? = some f
  not_silenced : ¬ Silenced content f.line f.ruleId
  first : ∀ j g, j < i → raw[j]? = some g → ¬ Silenced content g.line g.ruleId → g.key ≠ f.key

/-- The report under a label tells of the raw findings all that is to be told, once, in order, and
nothing that is silenced. -/
structure ScanReport.Renders (content : Text) (label : Option Text) (raw report : ScanReport) :
    Prop where
  not_silenced : ∀ f ∈ report.findings, ¬ Silenced content f.line f.ruleId
  file_eq : ∀ f ∈ report.findings, f.file = label
  key_ne : report.findings.Pairwise fun f g => f.key ≠ g.key
  line_le : report.findings.Pairwise fun f g => f.line ≤ g.line
  in_order : report.findings.Pairwise fun f g => f.line = g.line → ∃ i j f' g', i < j ∧
    Finding.Leads content raw.findings i f' ∧ f = f'.labelled label ∧
    Finding.Leads content raw.findings j g' ∧ g = g'.labelled label
  complete : ∀ f ∈ raw.findings, ¬ Silenced content f.line f.ruleId →
    ∃ i g, Finding.Leads content raw.findings i g ∧ g.key = f.key ∧
      g.labelled label ∈ report.findings
  sound : ∀ f ∈ report.findings, ∃ i f', Finding.Leads content raw.findings i f' ∧
    f = f'.labelled label
  advisory_not_silenced : ∀ a ∈ report.advisories, ¬ Silenced content a.line a.ruleId

namespace Finding

variable {content : Text} {raw : List Finding}

theorem repeats_iff_key_eq {f g : Finding} (h : f.file = g.file) :
    f.repeats g = true ↔ f.key = g.key := by
  rw [repeats_iff, fileKey, h, ← fileKey]
  exact and_iff_right rfl

theorem repeats_labelled (label : Option Text) {f g : Finding} (hf : f.file = none)
    (hg : g.file = none) : (f.labelled label).repeats (g.labelled label) = f.repeats g := by
  have hfile : (f.labelled label).file = (g.labelled label).file := by
    rw [f.labelled_file label hf, g.labelled_file label hg]
  rw [Bool.eq_iff_iff, repeats_iff_key_eq hfile, repeats_iff_key_eq (hf.trans hg.symm),
    f.labelled_key, g.labelled_key]

/-- Every audible finding has the key of one that leads. -/
theorem exists_leads {f : Finding} (hf : f ∈ raw) (hs : ¬ Silenced content f.line f.ruleId) :
    ∃ i g, Leads content raw i g ∧ g.key = f.key := by
  classical
  obtain ⟨i, hi⟩ := List.mem_iff_getElem?.1 hf
  have hex : ∃ i, ∃ g : Finding, raw[i]? = some g ∧ ¬ Silenced content g.line g.ruleId ∧
      g.key = f.key :=
    ⟨i, f, hi, hs, rfl⟩
  obtain ⟨g, hg, hgs, hkey⟩ := Nat.find_spec hex
  refine ⟨Nat.find hex, g, ⟨hg, hgs, fun j h hj hh hhs heq => ?_⟩, hkey⟩
  exact Nat.find_min hex hj ⟨h, hh, hhs, heq.trans hkey⟩

/-- Dropping repetitions among the audible findings leaves those that lead. -/
theorem dedup_eq_leading (content : Text) {raw : List Finding} (hfile : ∀ f ∈ raw, f.file = none) :
    ∃ leading : List (Finding × Nat),
      dedup (raw.filter fun f => audible content f.line f.ruleId) = leading.map Prod.fst ∧
      (∀ f i, (f, i) ∈ leading ↔ Leads content raw i f) ∧
      leading.Pairwise fun x y => x.2 < y.2 := by
  refine ⟨_, dedup_filter_eq_zipIdx _ raw, fun f i => ?_, ?_⟩
  · simp only [List.mem_filter, List.mk_mem_zipIdx_iff_getElem?, Bool.and_eq_true,
      Bool.not_eq_true', List.any_eq_false, audible_iff]
    constructor
    · rintro ⟨hi, hs, hfirst⟩
      refine ⟨hi, hs, fun j g hj hg hgs hkey => ?_⟩
      refine hfirst g (mem_take_iff.2 ⟨j, hj, hg⟩) ⟨hgs, (repeats_iff_key_eq ?_).2 hkey.symm⟩
      rw [hfile f (List.mem_of_getElem? hi), hfile g (List.mem_of_getElem? hg)]
    · rintro ⟨hi, hs, hfirst⟩
      refine ⟨hi, hs, fun g hg ⟨hgs, hrepeats⟩ => ?_⟩
      obtain ⟨j, hj, hg⟩ := mem_take_iff.1 hg
      exact hfirst j g hj hg hgs (((repeats_iff f g).1 hrepeats).2).symm
  · exact pairwise_filter_zipIdx _ raw

section Leading

variable (label : Option Text) {leading : List (Finding × Nat)}
variable (hleads : ∀ f i, (f, i) ∈ leading ↔ Leads content raw i f)
include hleads

theorem mem_sort_leading {f : Finding} : f ∈ sort (leading.map fun x => x.1.labelled label) ↔
    ∃ i f', Leads content raw i f' ∧ f = f'.labelled label := by
  rw [(sort_perm _).mem_iff, List.mem_map]
  constructor
  · rintro ⟨⟨f', i⟩, hf', rfl⟩
    exact ⟨i, f', (hleads f' i).1 hf', rfl⟩
  · rintro ⟨i, f', hf', rfl⟩
    exact ⟨(f', i), (hleads f' i).2 hf', rfl⟩

theorem file_eq_of_mem_sort_leading (hfile : ∀ f ∈ raw, f.file = none) {f : Finding}
    (hf : f ∈ sort (leading.map fun x => x.1.labelled label)) : f.file = label := by
  obtain ⟨i, f', hf', rfl⟩ := (mem_sort_leading label hleads).1 hf
  exact f'.labelled_file label (hfile f' (List.mem_of_getElem? hf'.at_index))

theorem line_le_sort_leading (hfile : ∀ f ∈ raw, f.file = none) :
    (sort (leading.map fun x => x.1.labelled label)).Pairwise fun f g => f.line ≤ g.line := by
  have hfile_eq {f : Finding} := file_eq_of_mem_sort_leading (f := f) label hleads hfile
  refine (pairwise_sort _).imp_of_mem fun {f g} hf hg hle => ?_
  rcases (f.le_iff g).1 hle with ⟨-, hline⟩ | ⟨hne, -⟩
  · exact hline
  · exact absurd (by rw [fileKey, hfile_eq hf, fileKey, hfile_eq hg]) hne

variable (hindex : leading.Pairwise fun x y => x.2 < y.2)
include hindex

theorem key_ne_sort_leading :
    (sort (leading.map fun x => x.1.labelled label)).Pairwise fun f g => f.key ≠ g.key := by
  rw [(sort_perm _).pairwise_iff Ne.symm, List.pairwise_map]
  refine hindex.imp_of_mem fun {x y} hx hy hlt => ?_
  rw [x.1.labelled_key, y.1.labelled_key]
  have hx := (hleads x.1 x.2).1 hx
  exact ((hleads y.1 y.2).1 hy).first x.2 x.1 hlt hx.at_index hx.not_silenced

/-- Sorting keeps the indices in order wherever lines are equal. -/
theorem in_order_sort_leading (hfile : ∀ f ∈ raw, f.file = none) :
    (sort (leading.map fun x => x.1.labelled label)).Pairwise fun f g => f.line = g.line →
      ∃ i j f' g', i < j ∧ Leads content raw i f' ∧ f = f'.labelled label ∧
        Leads content raw j g' ∧ g = g'.labelled label := by
  have hfile_eq {f : Finding} := file_eq_of_mem_sort_leading (f := f) label hleads hfile
  have hplace : (leading.map fun x => x.1.labelled label).Pairwise fun f g =>
      ∃ i j f' g', i < j ∧ Leads content raw i f' ∧ f = f'.labelled label ∧
        Leads content raw j g' ∧ g = g'.labelled label := by
    refine List.pairwise_map.2 (hindex.imp_of_mem fun {x y} hx hy hlt => ?_)
    exact ⟨x.2, y.2, x.1, y.1, hlt, (hleads x.1 x.2).1 hx, rfl, (hleads y.1 y.2).1 hy, rfl⟩
  refine (pairwise_sort_of_place hplace).imp_of_mem fun {f g} hf hg h hline => h ?_
  rw [place, fileKey, hfile_eq hf, hline, place, fileKey, hfile_eq hg]

end Leading

end Finding

namespace Scanner

theorem raw_file_eq_none {o : ScanOptions} {content : Text} {f : Finding}
    (hf : f ∈ ((ofOptions o).raw content).findings) : f.file = none := by
  obtain ⟨r, hr, hf⟩ := List.mem_flatMap.1 hf
  obtain ⟨d, hd, rfl⟩ := List.mem_map.1 hr
  exact ((isLocal_of_mem_ofOptions hd).scanText_finding hf).1

/-- The findings of a report are the leading ones, labelled and sorted. -/
theorem scan_findings (o : ScanOptions) (content : Text) (file : Option Text) :
    ∃ leading : List (Finding × Nat),
      ((ofOptions o).scan content file).findings =
        Finding.sort (leading.map fun x => x.1.labelled (file.or o.filename)) ∧
      (∀ f i, (f, i) ∈ leading ↔ Finding.Leads content ((ofOptions o).raw content).findings i f) ∧
      leading.Pairwise fun x y => x.2 < y.2 := by
  let label := file.or o.filename
  let raw := ((ofOptions o).raw content).findings
  let kept := raw.filter fun f => audible content f.line f.ruleId
  have hfile : ∀ f ∈ raw, f.file = none := fun f hf => raw_file_eq_none hf
  obtain ⟨leading, hleading, hleads, hindex⟩ := Finding.dedup_eq_leading content hfile
  refine ⟨leading, ?_, hleads, hindex⟩
  have hdedup : Finding.dedup (kept.map (·.labelled label)) =
      (Finding.dedup kept).map (·.labelled label) :=
    Finding.dedup_map _ _ fun f hf g hg => Finding.repeats_labelled label
      (hfile f (List.mem_filter.1 hf).1) (hfile g (List.mem_filter.1 hg).1)
  have hscan : ((ofOptions o).scan content file).findings =
      Finding.sort (Finding.dedup (kept.map (·.labelled label))) := by
    rw [scan_eq_publish]
    rfl
  rw [hscan, hdedup, hleading, List.map_map]
  rfl

/-- No loss, no duplication and no change: the report of a scan renders what the detectors find, the
label being the one that is given or else the file name in the options. -/
theorem scan_renders (o : ScanOptions) (content : Text) (file : Option Text) :
    ScanReport.Renders content (file.or o.filename) (o.sanitized.detections content)
      ((ofOptions o).scan content file) := by
  rw [← raw_ofOptions]
  obtain ⟨leading, hfindings, hleads, hindex⟩ := scan_findings o content file
  have hfile : ∀ f ∈ ((ofOptions o).raw content).findings, f.file = none :=
    fun f hf => raw_file_eq_none hf
  have hmem {f : Finding} : f ∈ ((ofOptions o).scan content file).findings ↔
      ∃ i f', Finding.Leads content ((ofOptions o).raw content).findings i f' ∧
        f = f'.labelled (file.or o.filename) := by
    rw [hfindings]
    exact Finding.mem_sort_leading _ hleads
  constructor
  case not_silenced =>
    intro f hf
    obtain ⟨i, f', hf', rfl⟩ := hmem.1 hf
    rw [f'.labelled_line, f'.labelled_ruleId]
    exact hf'.not_silenced
  case file_eq =>
    intro f hf
    exact Finding.file_eq_of_mem_sort_leading _ hleads hfile (hfindings ▸ hf)
  case key_ne =>
    rw [hfindings]
    exact Finding.key_ne_sort_leading _ hleads hindex
  case line_le =>
    rw [hfindings]
    exact Finding.line_le_sort_leading _ hleads hfile
  case in_order =>
    rw [hfindings]
    exact Finding.in_order_sort_leading _ hleads hindex hfile
  case complete =>
    intro f hf hs
    obtain ⟨i, g, hg, hkey⟩ := Finding.exists_leads hf hs
    exact ⟨i, g, hg, hkey, hmem.2 ⟨i, g, hg, rfl⟩⟩
  case sound =>
    intro f hf
    exact hmem.1 hf
  case advisory_not_silenced =>
    intro a ha
    rw [scan_eq_publish] at ha
    obtain ⟨b, hb, rfl⟩ := List.mem_map.1 ha
    exact (audible_iff content b.line b.ruleId).1 (List.mem_filter.1 hb).2

end Scanner

end SecretScan
