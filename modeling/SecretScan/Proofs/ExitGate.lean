import Mathlib.Algebra.GroupWithZero.Nat
import SecretScan.CommandLine.Run
import SecretScan.Proofs.FindingOrigins
import SecretScan.Proofs.OutcomeOrder
import SecretScan.Proofs.TextEncoding

/-!
The exit code is a gate. It is settled by the errors and by the severities in the report, read
either from the findings themselves or from the table of their counts. A custom pattern that does
not compile closes the gate at every threshold: its finding is critical, and whatever it is dropped
for reports a faulty pattern too, unless some pattern that does compile has taken its name.
-/

namespace SecretScan

namespace Severity

theorem le_trans {a b c : Severity} (hab : a ≤ b) (hbc : b ≤ c) : a ≤ c :=
  Nat.le_trans hab hbc

theorem le_total (a b : Severity) : a ≤ b ∨ b ≤ a :=
  Nat.le_total a.rank b.rank

theorem le_critical (s : Severity) : s ≤ .critical := by
  cases s <;> decide

/-- The first severity that is counted at all is the greatest one that is counted. -/
theorem find?_counted {count : Severity → Nat} {s : Severity} (hs : count s ≠ 0)
    (habove : ∀ t, ¬ t ≤ s → count t = 0) :
    ((all.map fun t => (t, count t)).find? fun x => x.2 != 0) = some (s, count s) := by
  have hskip (t : Severity) (rest : List (Severity × Nat)) (ht : ¬ t ≤ s) :
      ((t, count t) :: rest).find? (fun x => x.2 != 0) = rest.find? fun x => x.2 != 0 := by
    rw [List.find?_cons_of_neg]
    simp [habove t ht]
  have hstop (rest : List (Severity × Nat)) :
      ((s, count s) :: rest).find? (fun x => x.2 != 0) = some (s, count s) := by
    rw [List.find?_cons_of_pos]
    simp [hs]
  unfold all
  simp only [List.map_cons]
  cases s with
  | critical => exact hstop _
  | high => rw [hskip .critical _ (by decide), hstop]
  | medium => rw [hskip .critical _ (by decide), hskip .high _ (by decide), hstop]
  | low =>
    rw [hskip .critical _ (by decide), hskip .high _ (by decide), hskip .medium _ (by decide),
      hstop]

theorem mem_all (s : Severity) : s ∈ all := by
  cases s <;> decide

end Severity

namespace ProjectReport

theorem greater_eq_or (s t : Severity) : greater s t = s ∨ greater s t = t := by
  unfold greater
  split
  · exact .inr rfl
  · exact .inl rfl

theorem le_greater (s t : Severity) : s ≤ greater s t ∧ t ≤ greater s t := by
  unfold greater
  split
  · exact ⟨‹_›, Nat.le_refl _⟩
  · exact ⟨Nat.le_refl _, (Severity.le_total s t).resolve_left ‹_›⟩

/-- The greatest of some severities is one of them. -/
theorem foldl_greater_spec (s : Severity) (rest : List Severity) :
    rest.foldl greater s ∈ s :: rest ∧ ∀ t ∈ s :: rest, t ≤ rest.foldl greater s := by
  induction rest generalizing s with
  | nil =>
    refine ⟨List.mem_singleton_self s, ?_⟩
    intro t ht
    obtain rfl := List.mem_singleton.1 ht
    exact Nat.le_refl _
  | cons next rest ih =>
    obtain ⟨hmem, hgreatest⟩ := ih (greater s next)
    rw [List.foldl_cons]
    constructor
    · rcases List.mem_cons.1 hmem with heq | hmem
      · rw [heq, List.mem_cons, List.mem_cons]
        exact (greater_eq_or s next).imp_right .inl
      · exact List.mem_cons_of_mem s (List.mem_cons_of_mem next hmem)
    · obtain ⟨hstart, hrest⟩ := List.forall_mem_cons.1 hgreatest
      obtain ⟨hle, hle'⟩ := le_greater s next
      exact List.forall_mem_cons.2 ⟨Severity.le_trans hle hstart,
        List.forall_mem_cons.2 ⟨Severity.le_trans hle' hstart, hrest⟩⟩

variable (r : ProjectReport)

theorem maxSeverity?_eq_none : r.maxSeverity? = none ↔ r.findings = [] := by
  unfold maxSeverity?
  cases r.findings with
  | nil => exact ⟨fun _ => rfl, fun _ => rfl⟩
  | cons f rest => exact ⟨nofun, nofun⟩

theorem maxSeverity?_eq_some {s : Severity} (h : r.maxSeverity? = some s) :
    (∃ f ∈ r.findings, f.severity = s) ∧ ∀ f ∈ r.findings, f.severity ≤ s := by
  unfold maxSeverity? at h
  cases hfindings : r.findings with
  | nil =>
    rw [hfindings] at h
    cases h
  | cons g rest =>
    rw [hfindings] at h
    obtain rfl := Option.some.inj h
    obtain ⟨hmem, hgreatest⟩ := foldl_greater_spec g.severity (rest.map (·.severity))
    rw [← List.map_cons (f := fun f : Finding => f.severity)] at hmem hgreatest
    constructor
    · exact List.mem_map.1 hmem
    · intro f hf
      exact hgreatest f.severity (List.mem_map_of_mem hf)

/-- A report reaches a threshold if one of its findings does. -/
theorem reaches_iff (threshold : Severity) :
    r.reaches threshold = true ↔ ∃ f ∈ r.findings, threshold ≤ f.severity := by
  unfold reaches
  cases hmax : r.maxSeverity? with
  | none =>
    rw [(maxSeverity?_eq_none r).1 hmax]
    simp
  | some s =>
    obtain ⟨⟨f, hf, hfs⟩, hgreatest⟩ := maxSeverity?_eq_some r hmax
    rw [Option.any_some, decide_eq_true_iff]
    constructor
    · intro hs
      exact ⟨f, hf, hfs ▸ hs⟩
    · rintro ⟨g, hg, hthreshold⟩
      exact Severity.le_trans hthreshold (hgreatest g hg)

def countOf (s : Severity) : Nat :=
  r.findings.countP (·.severity == s)

theorem severityCounts_eq : r.severityCounts = Severity.all.map fun s => (s, r.countOf s) :=
  rfl

theorem countOf_ne_zero_iff (s : Severity) :
    r.countOf s ≠ 0 ↔ ∃ f ∈ r.findings, f.severity = s := by
  unfold countOf
  rw [Nat.ne_zero_iff_zero_lt, List.countP_pos_iff]
  simp only [beq_iff_eq]

/-- The table of counts reaches a threshold where the findings do. -/
theorem exists_counted_iff (threshold : Severity) :
    (∃ x ∈ r.severityCounts, x.2 ≠ 0 ∧ threshold ≤ x.1) ↔
      ∃ f ∈ r.findings, threshold ≤ f.severity := by
  rw [severityCounts_eq]
  constructor
  · rintro ⟨x, hx, hcount, hthreshold⟩
    obtain ⟨s, -, rfl⟩ := List.mem_map.1 hx
    obtain ⟨f, hf, rfl⟩ := (countOf_ne_zero_iff r s).1 hcount
    exact ⟨f, hf, hthreshold⟩
  · rintro ⟨f, hf, hthreshold⟩
    refine ⟨(f.severity, r.countOf f.severity), ?_, ?_, hthreshold⟩
    · exact List.mem_map.2 ⟨f.severity, Severity.mem_all _, rfl⟩
    · exact (countOf_ne_zero_iff r _).2 ⟨f, hf, rfl⟩

/-- Every finding is counted once. -/
theorem sum_severityCounts : (r.severityCounts.map (·.2)).sum = r.findings.length := by
  unfold severityCounts
  induction r.findings with
  | nil => rfl
  | cons f rest ih =>
    rw [List.map_map] at ih ⊢
    simp only [Severity.all, List.map_cons, List.map_nil, Function.comp_apply, List.sum_cons,
      List.sum_nil, List.countP_cons, List.length_cons] at ih ⊢
    cases f.severity <;> simp <;> omega

/-- The greatest severity is the first one in the table that is counted at all. -/
theorem maxSeverity?_eq_find? :
    r.maxSeverity? = (r.severityCounts.find? fun x => x.2 != 0).map (·.1) := by
  rw [severityCounts_eq]
  cases hmax : r.maxSeverity? with
  | none =>
    have hnone : (Severity.all.map fun s => (s, r.countOf s)).find? (fun x => x.2 != 0) =
        none := by
      rw [List.find?_eq_none]
      intro x hx
      obtain ⟨s, -, rfl⟩ := List.mem_map.1 hx
      have hempty := (maxSeverity?_eq_none r).1 hmax
      simp [countOf, hempty]
    rw [hnone]
    rfl
  | some s =>
    obtain ⟨hs, hgreatest⟩ := maxSeverity?_eq_some r hmax
    have hcount : r.countOf s ≠ 0 := (countOf_ne_zero_iff r s).2 hs
    have habove : ∀ t, ¬ t ≤ s → r.countOf t = 0 := by
      intro t ht
      by_contra hne
      obtain ⟨f, hf, rfl⟩ := (countOf_ne_zero_iff r t).1 hne
      exact ht (hgreatest f hf)
    rw [Severity.find?_counted hcount habove]
    rfl

end ProjectReport

section Faults

def CustomPattern.Compiles (p : CustomPattern) : Prop :=
  ∃ pattern, Pattern.compile p.regex = .ok pattern

theorem CustomPattern.compiles_iff (p : CustomPattern) (index : Nat) :
    p.Compiles ↔ ∃ s, p.compile index = .ok s := by
  unfold Compiles CustomPattern.compile Signature.Definition.compile
  cases Pattern.compile p.regex with
  | error fault => exact ⟨nofun, nofun⟩
  | ok pattern => exact ⟨fun _ => ⟨_, rfl⟩, fun _ => ⟨pattern, rfl⟩⟩

variable {o : ScanOptions} {configFile : Text} {f : Finding}

/-- Every pattern that does not compile has a finding. -/
theorem exists_fault_of_not_compiles (configFile : Text) {p : CustomPattern}
    (hp : p ∈ o.customPatterns) (hfault : ¬ p.Compiles) :
    ∃ f, f ∈ validateCustomPatterns o configFile := by
  obtain ⟨index, hindex⟩ := List.mem_iff_getElem?.1 hp
  have hplace : (p, index) ∈ o.customPatterns.zipIdx :=
    List.mk_mem_zipIdx_iff_getElem?.2 hindex
  cases hcompile : p.compile index with
  | ok s => exact absurd ((p.compiles_iff index).2 ⟨s, hcompile⟩) hfault
  | error fault =>
    refine ⟨p.faultFinding index fault configFile, List.mem_filterMap.2 ⟨_, hplace, ?_⟩⟩
    simp only [hcompile]

theorem fault_of_mem (hf : f ∈ validateCustomPatterns o configFile) :
    f.kind = "Invalid Custom Pattern" ∧ f.severity = .critical := by
  obtain ⟨⟨p, index⟩, -, hf⟩ := List.mem_filterMap.1 hf
  dsimp only at hf
  cases hcompile : p.compile index with
  | ok s =>
    rw [hcompile] at hf
    cases hf
  | error fault =>
    rw [hcompile] at hf
    obtain rfl := Option.some.inj hf
    exact ⟨rfl, rfl⟩

/-- No finding of a scan reads like one about a faulty pattern, unless a pattern that compiles has
taken the name. -/
theorem Scanner.kind_ne_of_mem_scan {content : Text} {file : Option Text}
    (hnames : ∀ p ∈ o.customPatterns, p.Compiles → p.name ≠ "Invalid Custom Pattern")
    (hf : f ∈ ((ofOptions o).scan content file).findings) :
    f.kind ≠ "Invalid Custom Pattern" := by
  refine of_mem_scan (P := fun kind _ => kind ≠ "Invalid Custom Pattern") (by decide +kernel) ?_
    (by decide +kernel) hf
  intro p index s hp hcompile
  exact hnames p (List.fst_mem_of_mem_zipIdx hp) ((p.compiles_iff index).2 ⟨s, hcompile⟩)

/-- What a project report tells was told by the scan of one text under a label. -/
theorem ProjectScanner.exists_scan_of_mem_report {s : ProjectScanner} {w : Workspace}
    {roots : List Text} (hf : f ∈ (s.scan w roots).report.findings) :
    ∃ content label, f ∈ ((Scanner.ofOptions s.options).scan content (some label)).findings := by
  unfold ProjectScanner.scan at hf
  rw [ProjectScan.report_eq] at hf
  have hf := (Finding.dedup_sublist _).mem (Finding.mem_consolidate.1 hf)
  obtain ⟨x, hx, hf⟩ := List.mem_flatMap.1 hf
  obtain ⟨file, -, rfl⟩ := List.mem_map.1 hx
  rcases FileOutcome.ofFile_cases (.ofOptions s.options) w file with ⟨content, h⟩ | h | ⟨_, h⟩
  · rw [h] at hf
    exact ⟨content, file.label, hf⟩
  · rw [h] at hf
    cases hf
  · rw [h] at hf
    cases hf

end Faults

namespace CommandLine

/-- Where there are findings about faulty patterns, they are consolidated with what was scanned. -/
theorem withFaults_findings {r : ProjectReport} {faults : List Finding} {f : Finding}
    (hf : f ∈ faults) :
    (withFaults r faults).findings = Finding.consolidate (r.findings ++ faults) := by
  unfold withFaults
  rw [if_neg]
  intro hempty
  rw [List.isEmpty_iff.1 hempty] at hf
  cases hf

/-- Consolidating drops findings about faulty patterns only for others of their kind. -/
theorem exists_critical_withFaults {r : ProjectReport} {faults : List Finding}
    (hr : ∀ f ∈ r.findings, f.kind ≠ "Invalid Custom Pattern")
    (hfaults : ∀ f ∈ faults, f.kind = "Invalid Custom Pattern" ∧ f.severity = .critical)
    {f : Finding} (hf : f ∈ faults) :
    ∃ g ∈ (withFaults r faults).findings, g.severity = .critical := by
  obtain ⟨g, hg, hrepeats⟩ := Finding.exists_mem_consolidate (List.mem_append_right r.findings hf)
  have hkind : f.kind = g.kind := congrArg Prod.fst ((Finding.repeats_iff f g).1 hrepeats).2
  rw [withFaults_findings hf]
  refine ⟨g, hg, ?_⟩
  have hmem := (Finding.dedup_sublist _).mem (Finding.mem_consolidate.1 hg)
  rcases List.mem_append.1 hmem with hmem | hmem
  · exact absurd (hkind ▸ (hfaults f hf).1) (hr g hmem)
  · exact (hfaults g hmem).2

/-- A report with findings about faulty patterns is critical, whatever was scanned. -/
theorem exists_critical_of_not_compiles {o : ScanOptions} {scanner : ProjectScanner}
    (hoptions : scanner.options = o.sanitized) (w : Workspace) (paths : List Text) (label : Text)
    {p : CustomPattern} (hp : p ∈ o.customPatterns) (hfault : ¬ p.Compiles)
    (hnames : ∀ q ∈ o.customPatterns, q.Compiles → q.name ≠ "Invalid Custom Pattern") :
    ∃ f ∈ (withFaults (scanner.scan w paths).report (validateCustomPatterns o label)).findings,
      f.severity = .critical := by
  obtain ⟨f, hf⟩ := exists_fault_of_not_compiles label hp hfault
  refine exists_critical_withFaults (fun g hg => ?_) (fun g hg => fault_of_mem hg) hf
  obtain ⟨content, file, hg⟩ := ProjectScanner.exists_scan_of_mem_report hg
  rw [hoptions] at hg
  exact Scanner.kind_ne_of_mem_scan (o := o.sanitized) hnames hg

section Exit

variable (r : ProjectReport) (strict : Bool) (failOn : Severity)

theorem exitCode_eq : exitCode r strict failOn =
    if strict = true ∧ r.errors ≠ [] then 2
    else if ∃ f ∈ r.findings, failOn ≤ f.severity then 1 else 0 := by
  have hincomplete : ((strict && !r.errors.isEmpty) = true) = (strict = true ∧ r.errors ≠ []) := by
    simp
  have hreaches : (r.reaches failOn = true) = ∃ f ∈ r.findings, failOn ≤ f.severity :=
    propext (r.reaches_iff failOn)
  unfold exitCode
  simp only [hincomplete, hreaches]

/-- A critical finding closes the gate at every threshold. -/
theorem exitCode_ne_zero (h : ∃ f ∈ r.findings, f.severity = .critical) :
    exitCode r strict failOn ≠ 0 := by
  obtain ⟨f, hf, hcritical⟩ := h
  have hreached : ∃ f ∈ r.findings, failOn ≤ f.severity :=
    ⟨f, hf, hcritical ▸ failOn.le_critical⟩
  rw [exitCode_eq, if_pos hreached]
  split
  · exact Nat.succ_ne_zero 1
  · exact Nat.succ_ne_zero 0

end Exit

section Run

variable {w : Workspace} {a : Arguments} {loaded : LoadedConfig} {warning : Text}

def pathsOf (a : Arguments) : List Text :=
  if a.paths.isEmpty then [['.']] else a.paths

/-- A run gets as far as the scan: its arguments ask for one, all its paths lead somewhere, and
there is a configuration that can be used. -/
structure ReachesScan (w : Workspace) (arguments : List Text) (a : Arguments)
    (loaded : LoadedConfig) : Prop where
  read : Arguments.read arguments = .ok (.run a)
  noListing : a.listSignatures = false
  pathExists : ∀ path ∈ pathsOf a, w.pathExists path = true
  configured : ∃ warning, configuration w a ((pathsOf a).headD ['.']) = .ok (loaded, warning)

/-- The exit code of a scan is the one of its report, with findings about faulty patterns. -/
theorem exit_scan {paths : List Text}
    (hconfig : configuration w a (paths.headD ['.']) = .ok (loaded, warning)) :
    ∃ (scanner : ProjectScanner) (label : Text),
      scanner.options = (a.scanOptions loaded.config).sanitized ∧
      (scan w a paths).exit = .ok (exitCode (withFaults (scanner.scan w paths).report
        (validateCustomPatterns (a.scanOptions loaded.config) label)) a.strict
        (a.failOn.getD .low)) := by
  unfold scan
  rw [hconfig]
  exact ⟨_, _, rfl, rfl⟩

theorem ReachesScan.run_eq {arguments : List Text} (h : ReachesScan w arguments a loaded) :
    run w arguments = scan w a (pathsOf a) := by
  have hnone : (pathsOf a).find? (!w.pathExists ·) = none := by
    rw [List.find?_eq_none]
    intro path hpath
    simp [h.pathExists path hpath]
  unfold run
  rw [h.read]
  show runArguments w a = _
  unfold runArguments
  rw [if_neg (by simp [h.noListing])]
  have hpaths : pathsOf a = if a.paths.isEmpty then [['.']] else a.paths := rfl
  simp only [← hpaths, hnone]

/-- A custom pattern that does not compile closes the gate. -/
theorem ReachesScan.exit_ne_zero {arguments : List Text} (h : ReachesScan w arguments a loaded)
    {p : CustomPattern} (hp : p ∈ (a.scanOptions loaded.config).customPatterns)
    (hfault : ¬ p.Compiles)
    (hnames : ∀ q ∈ (a.scanOptions loaded.config).customPatterns, q.Compiles →
      q.name ≠ "Invalid Custom Pattern") :
    ∃ n, (run w arguments).exit = .ok n ∧ n ≠ 0 := by
  obtain ⟨warning, hconfig⟩ := h.configured
  obtain ⟨scanner, label, hoptions, hexit⟩ := exit_scan hconfig
  rw [h.run_eq]
  have hcritical := exists_critical_of_not_compiles hoptions w (pathsOf a) label hp hfault hnames
  exact ⟨_, hexit, exitCode_ne_zero _ _ _ hcritical⟩

end Run

/-- The exit code is 2 if the scan has to be complete and is not, otherwise 1 if a finding is as
severe as the threshold, which the table of counts tells as well, and otherwise 0. The table counts
every finding once and starts with the greatest severity. A run with a custom pattern that does not
compile never ends with 0, whatever the threshold, if no pattern that compiles has the name of the
findings about those that do not. -/
theorem exit_gate :
    (∀ (r : ProjectReport) (strict : Bool) (failOn : Severity),
      exitCode r strict failOn =
          (if strict = true ∧ r.errors ≠ [] then 2
            else if ∃ f ∈ r.findings, failOn ≤ f.severity then 1 else 0) ∧
        ((∃ f ∈ r.findings, failOn ≤ f.severity) ↔
          ∃ x ∈ r.severityCounts, x.2 ≠ 0 ∧ failOn ≤ x.1) ∧
        (r.severityCounts.map (·.2)).sum = r.findings.length ∧
        r.maxSeverity? = (r.severityCounts.find? fun x => x.2 != 0).map (·.1)) ∧
    ∀ (w : Workspace) (arguments : List Text) (a : Arguments) (loaded : LoadedConfig),
      ReachesScan w arguments a loaded →
      (∃ p ∈ (a.scanOptions loaded.config).customPatterns, ¬ p.Compiles) →
      (∀ p ∈ (a.scanOptions loaded.config).customPatterns, p.Compiles →
        p.name ≠ "Invalid Custom Pattern") →
      ∃ n, (run w arguments).exit = .ok n ∧ n ≠ 0 := by
  constructor
  · intro r strict failOn
    exact ⟨exitCode_eq r strict failOn, (r.exists_counted_iff failOn).symm,
      r.sum_severityCounts, r.maxSeverity?_eq_find?⟩
  · rintro w arguments a loaded hreaches ⟨p, hp, hfault⟩ hnames
    exact hreaches.exit_ne_zero hp hfault hnames

def openGroup : Workspace where
  cwd := []
  tree := .directory
    [(".keyscan.toml".toList,
        .file (Text.Utf8.encode "[[keyscan.patterns]]\nname = \"Open\"\nregex = \"(\"\n")),
      ("a.txt".toList, .file (Text.Utf8.encode "hi"))]

def openGroupConfig : LoadedConfig where
  config := { patterns := [⟨"Open", "(", .high, none, none⟩] }
  file := some "/.keyscan.toml"

def criticalOnly : Arguments :=
  { paths := ["a.txt"], failOn := some .critical }

/-- The text holds nothing, and still the run fails. -/
theorem exit_gate_openGroup :
    ReachesScan openGroup ["--fail-on=CRITICAL".toList, "a.txt".toList] criticalOnly
        openGroupConfig ∧
      (∃ p ∈ (criticalOnly.scanOptions openGroupConfig.config).customPatterns, ¬ p.Compiles) ∧
      (∀ p ∈ (criticalOnly.scanOptions openGroupConfig.config).customPatterns, p.Compiles →
        p.name ≠ "Invalid Custom Pattern") ∧
      ∃ n, (run openGroup ["--fail-on=CRITICAL".toList, "a.txt".toList]).exit = .ok n ∧ n ≠ 0 := by
  have hreaches : ReachesScan openGroup ["--fail-on=CRITICAL".toList, "a.txt".toList]
      criticalOnly openGroupConfig :=
    { read := rfl
      noListing := rfl
      pathExists := List.forall_mem_singleton.2 (by decide)
      configured := ⟨[], rfl⟩ }
  have hpatterns : (criticalOnly.scanOptions openGroupConfig.config).customPatterns =
      [⟨"Open", "(", .high, none, none⟩] := rfl
  have hfault : ∃ p ∈ (criticalOnly.scanOptions openGroupConfig.config).customPatterns,
      ¬ p.Compiles := by
    rw [hpatterns]
    refine ⟨_, List.mem_singleton_self _, ?_⟩
    have hnone : (Pattern.compile "(").toOption.isNone = true := by decide +kernel
    rintro ⟨pattern, hpattern⟩
    rw [hpattern] at hnone
    cases hnone
  have hnames : ∀ p ∈ (criticalOnly.scanOptions openGroupConfig.config).customPatterns,
      p.Compiles → p.name ≠ "Invalid Custom Pattern" := by
    rw [hpatterns]
    intro p hp _
    obtain rfl := List.mem_singleton.1 hp
    decide +kernel
  exact ⟨hreaches, hfault, hnames, exit_gate.2 _ _ _ _ hreaches hfault hnames⟩

end CommandLine

end SecretScan
