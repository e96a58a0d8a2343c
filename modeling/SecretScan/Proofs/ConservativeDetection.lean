import Mathlib.Data.List.Nodup
import SecretScan.Proofs.CanonicalConsolidation
import SecretScan.Proofs.FindingOrigins

/-!
A scan with one more detector has all the findings and advisories of the scan without it, in their
order, and the others that it has are about the new detector. New findings can displace others only
when they stand before them and share their name, line and text. Those of a pattern at the end of
the list stand behind all findings of signatures, and those of tokens that look random behind
everything, so a pattern whose name is not the one of such tokens displaces nothing.
-/

namespace SecretScan

namespace Finding

/-- Findings that are put between others displace none of them, if none behind them repeats one
of them. -/
theorem extendedBy_dedup {p : Finding → Prop} {a n b : List Finding} (hn : ∀ f ∈ n, p f)
    (hb : ∀ g ∈ b, ∀ f ∈ n, g.repeats f = false) :
    ExtendedBy p (dedup (a ++ b)) (dedup (a ++ (n ++ b))) := by
  have hkept : ((dedup b).filter fun g => !n.any g.repeats) = dedup b := by
    rw [List.filter_eq_self]
    intro g hg
    have hnone : n.any g.repeats = false := by
      rw [List.any_eq_false]
      intro f hf
      rw [hb g ((dedup_sublist b).mem hg) f hf]
      exact Bool.false_ne_true
    rw [hnone]
    rfl
  have hnew : ∀ f ∈ (dedup n).filter fun g => !a.any g.repeats, p f := by
    intro f hf
    exact hn f ((dedup_sublist n).mem (List.mem_filter.1 hf).1)
  rw [dedup_append a b, dedup_append a (n ++ b), dedup_append n b, hkept, List.filter_append]
  exact (ExtendedBy.refl (dedup a)).append ((ExtendedBy.of_forall hnew).append (.refl _))

end Finding

namespace ScanReport

/-- The second report has the findings and the advisories of the first one in their order. All the
others that it has are about the signature with the key. -/
structure GrowsBy (key : Text) (r s : ScanReport) : Prop where
  findings : ExtendedBy (fun f => f.ruleId = key) r.findings s.findings
  advisories : ExtendedBy (fun a => a.ruleId = key) r.advisories s.advisories

def shown (keep : Nat → Text → Bool) (label : Option Text) (r : ScanReport) : List Finding :=
  (r.select keep).findings.map (·.labelled label)

variable {keep : Nat → Text → Bool} {label : Option Text}

theorem shown_append (a b : ScanReport) :
    (a ++ b).shown keep label = a.shown keep label ++ b.shown keep label := by
  unfold shown
  rw [select_append]
  exact List.map_append

theorem shown_concat (rs : List ScanReport) :
    (concat rs).shown keep label = rs.flatMap (·.shown keep label) := by
  unfold shown
  rw [select_concat]
  simp only [concat, List.flatMap_map, List.map_flatMap]

/-- What is shown of a finding, apart from its file. -/
theorem exists_of_mem_shown {r : ScanReport} {f : Finding} (hf : f ∈ r.shown keep label) :
    ∃ g ∈ r.findings, f = g.labelled label := by
  obtain ⟨g, hg, rfl⟩ := List.mem_map.1 hf
  exact ⟨g, (List.mem_filter.1 hg).1, rfl⟩

theorem place_of_mem_shown {r : ScanReport} {number : Nat} (hr : r.IsAt number) {f : Finding}
    (hf : f ∈ r.shown keep label) : f.place = (label.getD [], number) := by
  obtain ⟨g, hg, rfl⟩ := exists_of_mem_shown hf
  have hfile : (g.labelled label).file = label := g.labelled_file label (hr.finding_file g hg)
  unfold Finding.place Finding.fileKey
  rw [hfile, g.labelled_line, hr.finding_line g hg]

theorem append_assoc (a b c : ScanReport) : a ++ b ++ c = a ++ (b ++ c) :=
  congrArg₂ mk (List.append_assoc ..) (List.append_assoc ..)

end ScanReport

section Lines

variable (keep : Nat → Text → Bool) (label : Option Text) (content : Text)

def ScanOptions.detectionsOn (o : ScanOptions) (line : Text) (number : Nat) : ScanReport :=
  (Detector.builtin o).scanLine line number ++ ((Detector.custom o).scanLine line number ++
    if o.enableEntropy then (Detector.highEntropy o).scanLine line number else .empty)

def linesAt (c : Text × Nat) : List (Text × Nat) :=
  (Detector.numbered content).filter fun x => (label.getD [], x.2) == c

theorem linesAt_eq (c : Text × Nat) :
    linesAt label content c = [] ∨ ∃ x, linesAt label content c = [x] := by
  have hnodup : ((Detector.numbered content).map fun x => (label.getD [], x.2)).Nodup := by
    have hnumbers : ((Detector.numbered content).map Prod.snd).Nodup := by
      rw [Detector.numbered, List.zipIdx_map_snd]
      exact List.nodup_range'
    have hplaces := List.Nodup.map (f := fun n : Nat => (label.getD ([] : Text), n))
      (fun _ _ h => (Prod.mk.inj h).2) hnumbers
    rw [List.map_map] at hplaces
    exact hplaces
  exact filter_key_of_nodup hnodup c

theorem Detector.IsLocal.filter_shown_scanText {d : Detector} (hd : d.IsLocal) (c : Text × Nat) :
    ((d.scanText content).shown keep label).filter (·.place == c) =
      (linesAt label content c).flatMap fun x => (d.scanLine x.1 x.2).shown keep label := by
  have hplace : ∀ x ∈ numbered content, ∀ f ∈ (d.scanLine x.1 x.2).shown keep label,
      f.place = (label.getD [], x.2) := by
    intro x _ f hf
    exact ScanReport.place_of_mem_shown (hd.isAt x.1 x.2) hf
  rw [scanText, ScanReport.shown_concat, List.flatMap_map]
  exact filter_key_flatMap hplace c

/-- What is shown at a place was found on one line at most, by one detector after another. -/
theorem ScanOptions.filter_shown_detections (o : ScanOptions) (c : Text × Nat) :
    ((o.detections content).shown keep label).filter (·.place == c) =
      (linesAt label content c).flatMap fun x =>
        (o.detectionsOn x.1 x.2).shown keep label := by
  have hbuiltin : (Detector.builtin o).IsLocal := Signature.isLocal_scanLineAll _ _ _
  have hcustom : (Detector.custom o).IsLocal := Signature.isLocal_scanLineAll _ _ _
  have hentropy := Detector.isLocal_highEntropy o
  have hsplit : ((o.detections content).shown keep label).filter (·.place == c) =
      ((linesAt label content c).flatMap fun x =>
        ((Detector.builtin o).scanLine x.1 x.2).shown keep label) ++
      (((linesAt label content c).flatMap fun x =>
        ((Detector.custom o).scanLine x.1 x.2).shown keep label) ++
      ((linesAt label content c).flatMap fun x =>
        (if o.enableEntropy then (Detector.highEntropy o).scanLine x.1 x.2
          else ScanReport.empty).shown keep label)) := by
    unfold detections
    rw [ScanReport.shown_append, ScanReport.shown_append, List.filter_append, List.filter_append,
      hbuiltin.filter_shown_scanText, hcustom.filter_shown_scanText]
    congr 2
    by_cases hon : o.enableEntropy = true
    · simp only [hon, if_true]
      exact hentropy.filter_shown_scanText keep label content c
    · simp only [hon, if_false, Bool.false_eq_true]
      exact (List.flatMap_eq_nil_iff.2 fun _ _ => rfl).symm
  rw [hsplit]
  rcases linesAt_eq label content c with hnone | ⟨x, hone⟩
  · rw [hnone]
    rfl
  · rw [hone]
    simp only [List.flatMap_singleton, detectionsOn, ScanReport.shown_append]

end Lines

namespace Scanner

/-- A report grows with the settings if on every line there are new findings between those that
were there before, and none behind them has the name of one of them. -/
theorem scan_growsBy_of_lines {o o' : ScanOptions} {key : Text} (content : Text)
    (file : Option Text) (hfilename : o'.filename = o.filename)
    (hlines : ∀ line number, ∃ a n b : ScanReport,
      o.sanitized.detectionsOn line number = a ++ b ∧
        o'.sanitized.detectionsOn line number = a ++ (n ++ b) ∧
        (∀ f ∈ n.findings, f.ruleId = key) ∧ ∀ g ∈ b.findings, ∀ f ∈ n.findings, g.kind ≠ f.kind)
    (hadvisories : ExtendedBy (fun a => a.ruleId = key)
      (o.sanitized.detections content).advisories (o'.sanitized.detections content).advisories) :
    ((ofOptions o).scan content file).GrowsBy key ((ofOptions o').scan content file) := by
  have hlabel : file.or (ofOptions o').filename = file.or (ofOptions o).filename :=
    congrArg file.or hfilename
  rw [scan_eq_publish, scan_eq_publish, hlabel, raw_ofOptions, raw_ofOptions]
  generalize file.or (ofOptions o).filename = label
  refine ⟨?_, (hadvisories.filter _).map fun _ h => h⟩
  refine Finding.extendedBy_of_filter_place (Finding.pairwise_consolidate _)
    (Finding.pairwise_consolidate _) fun c => ?_
  show ExtendedBy _ ((Finding.consolidate (ScanReport.shown _ label _)).filter _)
    ((Finding.consolidate (ScanReport.shown _ label _)).filter _)
  rw [Finding.filter_place_consolidate, Finding.filter_place_consolidate,
    ScanOptions.filter_shown_detections, ScanOptions.filter_shown_detections]
  rcases linesAt_eq label content c with hnone | ⟨x, hone⟩
  · rw [hnone]
    exact .nil
  · obtain ⟨a, n, b, hold, hnew, hkey, hkind⟩ := hlines x.1 x.2
    rw [hone, List.flatMap_singleton, List.flatMap_singleton, hold, hnew,
      ScanReport.shown_append, ScanReport.shown_append, ScanReport.shown_append]
    apply Finding.extendedBy_dedup
    · intro f hf
      obtain ⟨f, hfound, rfl⟩ := ScanReport.exists_of_mem_shown hf
      rw [f.labelled_ruleId]
      exact hkey f hfound
    · intro g hg f hf
      obtain ⟨g, hgfound, rfl⟩ := ScanReport.exists_of_mem_shown hg
      obtain ⟨f, hffound, rfl⟩ := ScanReport.exists_of_mem_shown hf
      rw [Bool.eq_false_iff]
      intro hrepeats
      have hsame := ((Finding.repeats_iff _ _).1 hrepeats).2
      rw [g.labelled_key, f.labelled_key] at hsame
      exact hkind g hgfound f hffound (congrArg Prod.fst hsame)

end Scanner

section Entropy

def ScanOptions.withEntropy (o : ScanOptions) (on : Bool) : ScanOptions :=
  { o with enableEntropy := on }

variable (o : ScanOptions) (content : Text) (file : Option Text)

theorem Detector.advisories_highEntropy :
    ((highEntropy o).scanText content).advisories = [] := by
  unfold scanText ScanReport.concat
  rw [List.flatMap_eq_nil_iff]
  intro r hr
  obtain ⟨⟨line, number⟩, -, rfl⟩ := List.mem_map.1 hr
  rfl

theorem ScanOptions.advisories_withEntropy (on : Bool) :
    ((o.withEntropy on).detections content).advisories =
      ((Detector.builtin o).scanText content).advisories ++
        ((Detector.custom o).scanText content).advisories := by
  have hentropy : (if on then (Detector.highEntropy (o.withEntropy on)).scanText content
      else ScanReport.empty).advisories = [] := by
    cases on with
    | false => rfl
    | true => exact Detector.advisories_highEntropy _ content
  show _ ++ (_ ++ (if on then (Detector.highEntropy (o.withEntropy on)).scanText content
      else ScanReport.empty).advisories) = _
  rw [hentropy, List.append_nil]
  rfl

namespace Scanner

/-- Tokens that look random are found behind everything else on their line. -/
theorem scan_withEntropy_growsBy :
    ((ofOptions (o.withEntropy false)).scan content file).GrowsBy Detector.highEntropyKey
      ((ofOptions (o.withEntropy true)).scan content file) := by
  refine scan_growsBy_of_lines content file rfl (fun line number => ?_) ?_
  · let signatures : ScanReport := (Detector.builtin o.sanitized).scanLine line number ++
      (Detector.custom o.sanitized).scanLine line number
    let tokens : ScanReport := (Detector.highEntropy o.sanitized).scanLine line number
    refine ⟨signatures, tokens, .empty, ?_, ?_, ?_, ?_⟩
    · exact (ScanReport.append_assoc _ _ _).symm
    · rw [ScanReport.append_empty, ScanReport.append_assoc]
      rfl
    · intro f hf
      exact (Detector.highEntropy_finding hf).1
    · intro g hg
      cases hg
  · show ExtendedBy _ ((o.sanitized.withEntropy false).detections content).advisories
      ((o.sanitized.withEntropy true).detections content).advisories
    rw [ScanOptions.advisories_withEntropy, ScanOptions.advisories_withEntropy]
    exact .refl _

theorem advisories_scan_withEntropy :
    ((ofOptions (o.withEntropy true)).scan content file).advisories =
      ((ofOptions (o.withEntropy false)).scan content file).advisories := by
  have hsame : ((o.withEntropy true).sanitized.detections content).advisories =
      ((o.withEntropy false).sanitized.detections content).advisories :=
    (ScanOptions.advisories_withEntropy o.sanitized content true).trans
      (ScanOptions.advisories_withEntropy o.sanitized content false).symm
  rw [scan_eq_publish, scan_eq_publish, raw_ofOptions, raw_ofOptions]
  unfold ScanReport.publish ScanReport.select
  rw [hsame]
  rfl

end Scanner

end Entropy

section Patterns

namespace ScanOptions

def withPattern (o : ScanOptions) (p : CustomPattern) : ScanOptions :=
  { o with customPatterns := o.customPatterns ++ [p] }

def newSignatures (o : ScanOptions) (p : CustomPattern) : List Signature :=
  (p.compile o.customPatterns.length).toOption.toList.filter fun s => o.isEnabled s.key

variable (o : ScanOptions) (p : CustomPattern)

theorem customSignatures_withPattern :
    (o.withPattern p).customSignatures = o.customSignatures ++ o.newSignatures p := by
  have hlast : ((o.customPatterns ++ [p]).zipIdx.filterMap fun x => (x.1.compile x.2).toOption) =
      (o.customPatterns.zipIdx.filterMap fun x => (x.1.compile x.2).toOption) ++
        (p.compile o.customPatterns.length).toOption.toList := by
    rw [List.zipIdx_append, List.filterMap_append]
    congr 1
    rw [List.zipIdx_singleton, Nat.zero_add]
    cases hcompile : (p.compile o.customPatterns.length).toOption with
    | none => simp [hcompile]
    | some s => simp [hcompile]
  unfold customSignatures newSignatures withPattern
  rw [hlast, List.filter_append]
  rfl

theorem mem_newSignatures {s : Signature} : s ∈ o.newSignatures p ↔
    p.compile o.customPatterns.length = .ok s ∧ o.isEnabled s.key = true := by
  unfold newSignatures
  rw [List.mem_filter, Option.mem_toList, toOption_eq_some_iff]

theorem newSignature_of_mem {s : Signature} (hs : s ∈ o.newSignatures p) :
    s.key = p.key o.customPatterns.length ∧ s.name = p.name :=
  Signature.Definition.of_compile ((mem_newSignatures o p).1 hs).1

/-- A pattern that does not compile adds no signature, and neither does one whose key is
disabled. -/
theorem newSignatures_eq_nil (h : (∀ s, p.compile o.customPatterns.length ≠ .ok s) ∨
    p.key o.customPatterns.length ∈ o.disabled) : o.newSignatures p = [] := by
  rw [List.eq_nil_iff_forall_not_mem]
  intro s hs
  obtain ⟨hcompile, henabled⟩ := (mem_newSignatures o p).1 hs
  rcases h with hfault | hdisabled
  · exact hfault s hcompile
  · rw [(newSignature_of_mem o p hs).1] at henabled
    simp [isEnabled, hdisabled] at henabled

end ScanOptions

namespace Signature

theorem scanLineAll_append (a b : List Signature) (limit : Nat) (line : Text) (number : Nat) :
    scanLineAll (a ++ b) limit line number =
      scanLineAll a limit line number ++ scanLineAll b limit line number := by
  unfold scanLineAll
  rw [List.map_append, ScanReport.concat_append]

end Signature

/-- A pattern behind the others reports behind them on every line. -/
theorem Detector.custom_withPattern (o : ScanOptions) (p : CustomPattern) (line : Text)
    (number : Nat) : (custom (o.withPattern p)).scanLine line number =
      (custom o).scanLine line number ++
        Signature.scanLineAll (o.newSignatures p) o.maxIterations line number := by
  show Signature.scanLineAll (o.withPattern p).customSignatures o.maxIterations line number = _
  rw [o.customSignatures_withPattern p, Signature.scanLineAll_append]
  rfl

namespace Scanner

variable (o : ScanOptions) (p : CustomPattern) (content : Text) (file : Option Text)

theorem newSignatures_report (limit : Nat) (line : Text) (number : Nat) :
    (∀ f ∈ (Signature.scanLineAll (o.newSignatures p) limit line number).findings,
        f.ruleId = p.key o.customPatterns.length ∧ f.kind = p.name) ∧
      ∀ a ∈ (Signature.scanLineAll (o.newSignatures p) limit line number).advisories,
        a.ruleId = p.key o.customPatterns.length := by
  constructor
  · intro f hf
    obtain ⟨r, hr, hf⟩ := List.mem_flatMap.1 hf
    obtain ⟨s, hs, rfl⟩ := List.mem_map.1 hr
    obtain ⟨hkey, hname⟩ := o.newSignature_of_mem p hs
    rw [← hkey, ← hname]
    exact (s.of_mem_scanLine limit line number).1 f hf
  · intro a ha
    obtain ⟨r, hr, ha⟩ := List.mem_flatMap.1 ha
    obtain ⟨s, hs, rfl⟩ := List.mem_map.1 hr
    rw [← (o.newSignature_of_mem p hs).1]
    exact (s.of_mem_scanLine limit line number).2 a ha

theorem advisories_withPattern :
    ExtendedBy (fun a => a.ruleId = p.key o.customPatterns.length)
      (o.detections content).advisories ((o.withPattern p).detections content).advisories := by
  have hcustom : ExtendedBy (fun a => a.ruleId = p.key o.customPatterns.length)
      ((Detector.custom o).scanText content).advisories
      ((Detector.custom (o.withPattern p)).scanText content).advisories := by
    simp only [Detector.scanText, ScanReport.concat, List.flatMap_map]
    refine .flatMap fun x _ => ?_
    rw [Detector.custom_withPattern]
    exact .append_right _ (newSignatures_report o p o.maxIterations x.1 x.2).2
  exact (ExtendedBy.refl _).append (hcustom.append (.refl _))

/-- A new pattern finds its matches between those of the other signatures and the tokens that look
random, and only the latter could repeat what it finds. -/
theorem scan_withPattern_growsBy (hname : p.name ≠ "High Entropy String") :
    ((ofOptions o).scan content file).GrowsBy (p.key o.customPatterns.length)
      ((ofOptions (o.withPattern p)).scan content file) := by
  refine scan_growsBy_of_lines content file rfl (fun line number => ?_)
    (advisories_withPattern o.sanitized p content)
  let signatures : ScanReport := (Detector.builtin o.sanitized).scanLine line number ++
    (Detector.custom o.sanitized).scanLine line number
  let added : ScanReport :=
    Signature.scanLineAll (o.newSignatures p) o.sanitized.maxIterations line number
  let tokens : ScanReport := if o.enableEntropy then
    (Detector.highEntropy o.sanitized).scanLine line number else .empty
  have hnew := (newSignatures_report o p o.sanitized.maxIterations line number).1
  refine ⟨signatures, added, tokens, ?_, ?_, fun f hf => (hnew f hf).1, ?_⟩
  · exact (ScanReport.append_assoc _ _ _).symm
  · have hcustom := Detector.custom_withPattern o.sanitized p line number
    show _ ++ ((Detector.custom (o.sanitized.withPattern p)).scanLine line number ++ tokens) = _
    rw [hcustom, ScanReport.append_assoc, ScanReport.append_assoc]
    rfl
  · intro g hg f hf hkind
    rw [(hnew f hf).2] at hkind
    by_cases hon : o.enableEntropy = true
    · have hg : g ∈ ((Detector.highEntropy o.sanitized).scanLine line number).findings := by
        simpa only [tokens, hon, if_true] using hg
      exact hname (hkind.symm.trans (Detector.highEntropy_finding hg).2.1)
    · have hg : g ∈ ScanReport.empty.findings := by
        simpa only [tokens, hon, if_false, Bool.false_eq_true] using hg
      cases hg

theorem scan_withPattern_of_nil (h : o.newSignatures p = []) :
    (ofOptions (o.withPattern p)).scan content file = (ofOptions o).scan content file := by
  have hsame : (o.withPattern p).sanitized.customSignatures = o.sanitized.customSignatures := by
    show (o.withPattern p).customSignatures = o.customSignatures
    rw [o.customSignatures_withPattern p, h, List.append_nil]
  have hcustom : Detector.custom (o.withPattern p).sanitized = Detector.custom o.sanitized := by
    unfold Detector.custom
    rw [hsame]
    rfl
  have hdetections : (o.withPattern p).sanitized.detections content =
      o.sanitized.detections content := by
    unfold ScanOptions.detections
    rw [hcustom]
    rfl
  rw [scan_eq_publish, scan_eq_publish, raw_ofOptions, raw_ofOptions, hdetections]
  rfl

/-- Detectors extend each other conservatively. Switching entropy on keeps all that was reported
and adds findings of its one key, and a pattern at the end of the list does so with its own key,
unless its name is the one of findings by entropy. A pattern that does not compile or whose key is
disabled adds nothing. -/
theorem scan_conservative :
    ((ofOptions (o.withEntropy false)).scan content file).GrowsBy Detector.highEntropyKey
        ((ofOptions (o.withEntropy true)).scan content file) ∧
      ((ofOptions (o.withEntropy true)).scan content file).advisories =
        ((ofOptions (o.withEntropy false)).scan content file).advisories ∧
      (p.name ≠ "High Entropy String" →
        ((ofOptions o).scan content file).GrowsBy (p.key o.customPatterns.length)
          ((ofOptions (o.withPattern p)).scan content file)) ∧
      ((∀ s, p.compile o.customPatterns.length ≠ .ok s) ∨
          p.key o.customPatterns.length ∈ o.disabled →
        (ofOptions (o.withPattern p)).scan content file = (ofOptions o).scan content file) := by
  refine ⟨scan_withEntropy_growsBy o content file, advisories_scan_withEntropy o content file,
    scan_withPattern_growsBy o p content file, fun h => ?_⟩
  exact scan_withPattern_of_nil o p content file (o.newSignatures_eq_nil p h)

def ticketPattern : CustomPattern :=
  ⟨"Ticket", "T-[0-9]+", .low, none, none⟩

def openPattern : CustomPattern :=
  { ticketPattern with regex := "(T-[0-9]+" }

/-- The pattern of tickets adds a finding to the others, and the faulty one adds nothing. -/
theorem scan_conservative_ticket :
    ticketPattern.name ≠ "High Entropy String" ∧ (∀ s, openPattern.compile 0 ≠ .ok s) ∧
      ((ofOptions {}).scan "T-17" none).GrowsBy "custom_1"
        ((ofOptions (({} : ScanOptions).withPattern ticketPattern)).scan "T-17" none) ∧
      (∃ f ∈ ((ofOptions (({} : ScanOptions).withPattern ticketPattern)).scan "T-17" none).findings,
        f.key = ("Ticket".toList, 1, "T-17".toList)) ∧
      (ofOptions (({} : ScanOptions).withPattern openPattern)).scan "T-17" none =
        (ofOptions {}).scan "T-17" none := by
  have hname : ticketPattern.name ≠ "High Entropy String" := by decide +kernel
  have hfault : ∀ s, openPattern.compile 0 ≠ .ok s := by
    have hnone : (openPattern.compile 0).toOption.isNone = true := by decide +kernel
    intro s hs
    rw [hs] at hnone
    cases hnone
  have hticket : ∃ s ∈ (({} : ScanOptions).withPattern ticketPattern).customSignatures,
      s.name = "Ticket" ∧ ∃ m ∈ (s.allMatches "T-17").take 1000,
        Signature.captured "T-17" m = "T-17" := by decide +kernel
  obtain ⟨s, hs, hsname, m, hm, hcaptured⟩ := hticket
  have hline : (("T-17" : Text), 1) ∈ Detector.numbered "T-17" := by decide +kernel
  have hsilent : suppressions "T-17" = [] := by decide +kernel
  have haudible : audible "T-17" 1 s.key = true := by
    rw [audible, hsilent]
    rfl
  obtain ⟨f, hf, hkey⟩ := exists_mem_scan_of_match none hline
    (List.mem_append_right _ hs) hm haudible
  rw [hsname, hcaptured] at hkey
  obtain ⟨-, -, hgrows, -⟩ := scan_conservative {} ticketPattern "T-17" none
  obtain ⟨-, -, -, hsame⟩ := scan_conservative {} openPattern "T-17" none
  exact ⟨hname, hfault, hgrows hname, ⟨f, hf, hkey⟩, hsame (.inl hfault)⟩

end Scanner

end Patterns

end SecretScan
