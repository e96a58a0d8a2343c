import SecretScan.Proofs.CanonicalConsolidation
import SecretScan.Proofs.ExitGate

/-!
What a run reports about custom patterns that do not compile. Each of them gets a finding, and these
findings are consolidated with what was scanned, as though they were secrets: where several faulty
patterns have the same text, the findings about them repeat each other, and only the first is kept.
So every faulty pattern is reported exactly when no two of them have the same text, unless a pattern
that does compile has taken the name or the key of these findings.
-/

namespace SecretScan

structure FaultyPattern where
  pattern : CustomPattern
  index : Nat
  fault : PatternError
  fails : pattern.compile index = .error fault

namespace FaultyPattern

def text (x : FaultyPattern) : Text :=
  x.pattern.regex

def finding (label : Text) (x : FaultyPattern) : Finding :=
  x.pattern.faultFinding x.index x.fault label

theorem place_finding (label : Text) (x : FaultyPattern) : (x.finding label).place = (label, 1) :=
  rfl

theorem finding_repeats (label : Text) (x y : FaultyPattern) :
    (x.finding label).repeats (y.finding label) = (x.text == y.text) := by
  rw [Bool.eq_iff_iff, Finding.repeats_iff, beq_iff_eq]
  constructor
  · intro ⟨_, hkey⟩
    exact congrArg (·.2.2) hkey
  · intro htext
    have hkey (z : FaultyPattern) : (z.finding label).key =
        ("Invalid Custom Pattern".toList, 1, z.text) := rfl
    exact ⟨rfl, by rw [hkey, hkey, htext]⟩

theorem not_compiles (x : FaultyPattern) : ¬ x.pattern.Compiles := by
  rw [x.pattern.compiles_iff x.index, x.fails]
  exact nofun

/-- Faults are a matter of the text alone, so a pattern with the text of a faulty one is faulty. -/
theorem exists_of_regex_eq (x : FaultyPattern) {p : CustomPattern} (h : p.regex = x.text)
    (index : Nat) : ∃ y : FaultyPattern, y.pattern = p ∧ y.index = index := by
  have hfails : p.compile index = .error x.fault := by
    have hx := x.fails
    unfold CustomPattern.compile Signature.Definition.compile at hx ⊢
    dsimp only at hx ⊢
    rw [h]
    unfold text
    cases hpattern : Pattern.compile x.pattern.regex with
    | ok pattern =>
      rw [hpattern] at hx
      cases hx
    | error fault =>
      rw [hpattern] at hx
      exact congrArg Except.error (Except.error.inj hx)
  exact ⟨⟨p, index, x.fault, hfails⟩, rfl, rfl⟩

theorem key_infix_description (label : Text) (x : FaultyPattern) :
    x.pattern.key x.index <:+: (x.finding label).description := by
  refine ⟨"Invalid regex for custom pattern '".toList ++ x.pattern.name ++ "' (".toList,
    "): ".toList ++ x.fault.message.toList, ?_⟩
  unfold finding CustomPattern.faultFinding
  exact (List.append_assoc _ _ _).symm

end FaultyPattern

section Faults

instance (p : CustomPattern) : Decidable p.Compiles :=
  decidable_of_iff ((Pattern.compile p.regex).toOption.isSome = true) <| by
    unfold CustomPattern.Compiles
    simp only [Option.isSome_iff_exists, toOption_eq_some_iff]

def CustomPattern.faulty? (index : Nat) (p : CustomPattern) : Option FaultyPattern :=
  match h : p.compile index with
  | .ok _ => none
  | .error fault => some ⟨p, index, fault, h⟩

def faultyPatterns (patterns : List CustomPattern) : List FaultyPattern :=
  patterns.zipIdx.filterMap fun x => x.1.faulty? x.2

def FaultyPattern.isFirst (patterns : List CustomPattern) (x : FaultyPattern) : Bool :=
  !(patterns.take x.index).any fun p => p.regex == x.text

def firstFaults (patterns : List CustomPattern) : List FaultyPattern :=
  (faultyPatterns patterns).filter (·.isFirst patterns)

variable {o : ScanOptions} {patterns : List CustomPattern} {label : Text} {x : FaultyPattern}

theorem CustomPattern.faulty?_eq_some_iff {p : CustomPattern} {index : Nat} :
    p.faulty? index = some x ↔ x.pattern = p ∧ x.index = index := by
  unfold faulty?
  constructor
  · intro h
    split at h
    · cases h
    · rw [← Option.some.inj h]
      exact ⟨rfl, rfl⟩
  · intro ⟨hpattern, hindex⟩
    subst hpattern hindex
    have hfails := x.fails
    split
    · rename_i s hcompile
      rw [hcompile] at hfails
      cases hfails
    · rename_i fault hcompile
      rw [hcompile] at hfails
      cases hfails
      rfl

theorem CustomPattern.faulty?_eq_none_iff (p : CustomPattern) (index : Nat) :
    p.faulty? index = none ↔ p.Compiles := by
  rw [p.compiles_iff index]
  unfold faulty?
  constructor
  · intro h
    split at h
    · rename_i s hcompile
      exact ⟨s, hcompile⟩
    · cases h
  · intro ⟨s, hs⟩
    split
    · rfl
    · rename_i fault hcompile
      rw [hs] at hcompile
      cases hcompile

theorem mem_faultyPatterns : x ∈ faultyPatterns patterns ↔ patterns[x.index]? = some x.pattern := by
  unfold faultyPatterns
  rw [List.mem_filterMap, ← List.mk_mem_zipIdx_iff_getElem?]
  constructor
  · intro ⟨y, hy, hx⟩
    obtain ⟨hpattern, hindex⟩ := CustomPattern.faulty?_eq_some_iff.1 hx
    rw [hpattern, hindex]
    exact hy
  · intro hplace
    exact ⟨_, hplace, CustomPattern.faulty?_eq_some_iff.2 ⟨rfl, rfl⟩⟩

/-- The findings about faulty patterns are those of the validation. -/
theorem validateCustomPatterns_eq (o : ScanOptions) (label : Text) :
    validateCustomPatterns o label = (faultyPatterns o.customPatterns).map (·.finding label) := by
  unfold validateCustomPatterns faultyPatterns
  rw [List.map_filterMap]
  apply List.filterMap_congr
  intro y _
  dsimp only
  cases hfaulty : y.1.faulty? y.2 with
  | none =>
    obtain ⟨s, hs⟩ := (y.1.compiles_iff y.2).1 ((y.1.faulty?_eq_none_iff y.2).1 hfaulty)
    rw [hs]
    rfl
  | some x =>
    obtain ⟨hpattern, hindex⟩ := CustomPattern.faulty?_eq_some_iff.1 hfaulty
    rw [← hpattern, ← hindex, x.fails]
    rfl

/-- The findings are kept, all of them, exactly when the texts differ. -/
theorem length_dedup_faults_eq_iff (faults : List FaultyPattern) (label : Text) :
    (Finding.dedup (faults.map (·.finding label))).length = faults.length ↔
      (faults.map (·.text)).Nodup := by
  have hlength : (faults.map (·.finding label)).length = faults.length := List.length_map _
  have hsame (x y : FaultyPattern) :
      (¬ (y.finding label).repeats (x.finding label) = true) = (x.text ≠ y.text) := by
    rw [FaultyPattern.finding_repeats, beq_iff_eq, ne_comm]
  rw [← hlength, Finding.length_dedup_eq_iff, List.pairwise_map, List.nodup_iff_pairwise_ne,
    List.pairwise_map]
  simp only [hsame]

theorem index_lt_length (hx : x ∈ faultyPatterns patterns) : x.index < patterns.length :=
  (List.getElem?_eq_some_iff.1 (mem_faultyPatterns.1 hx)).1

theorem faultyPatterns_concat (patterns : List CustomPattern) (p : CustomPattern) :
    faultyPatterns (patterns ++ [p]) =
      faultyPatterns patterns ++ (p.faulty? patterns.length).toList := by
  unfold faultyPatterns
  rw [List.zipIdx_append, List.filterMap_append, Nat.zero_add]
  cases h : p.faulty? patterns.length with
  | none => simp [h]
  | some x => simp [h]

/-- The faulty patterns are those that do not compile, each of them once. -/
theorem map_pattern_faultyPatterns (patterns : List CustomPattern) :
    (faultyPatterns patterns).map (·.pattern) = patterns.filter fun p => ¬ p.Compiles := by
  induction patterns using List.reverseRecOn with
  | nil => rfl
  | append_singleton patterns p ih =>
    rw [faultyPatterns_concat, List.map_append, ih, List.filter_append]
    congr 1
    cases hfaulty : p.faulty? patterns.length with
    | none =>
      have hcompiles : p.Compiles := (p.faulty?_eq_none_iff patterns.length).1 hfaulty
      simp [hcompiles]
    | some x =>
      obtain ⟨rfl, -⟩ := CustomPattern.faulty?_eq_some_iff.1 hfaulty
      simp [x.not_compiles]

/-- The first faulty patterns with their texts stay so when another pattern follows. -/
theorem filter_isFirst_concat (patterns : List CustomPattern) (p : CustomPattern) :
    (faultyPatterns patterns).filter (·.isFirst (patterns ++ [p])) = firstFaults patterns := by
  apply List.filter_congr
  intro x hx
  unfold FaultyPattern.isFirst
  rw [List.take_append_of_le_length (Nat.le_of_lt (index_lt_length hx))]

/-- A pattern that does not compile is among the first faulty ones if its text is new. -/
theorem exists_first {p : CustomPattern} {index : Nat} (hp : patterns[index]? = some p)
    (hfaulty : ¬ p.Compiles) (hfirst : ∀ q ∈ patterns.take index, q.regex ≠ p.regex) :
    ∃ x ∈ firstFaults patterns, x.pattern = p ∧ x.index = index := by
  rw [← p.faulty?_eq_none_iff index] at hfaulty
  obtain ⟨x, hx⟩ := Option.ne_none_iff_exists'.1 hfaulty
  obtain ⟨rfl, rfl⟩ := CustomPattern.faulty?_eq_some_iff.1 hx
  refine ⟨x, List.mem_filter.2 ⟨mem_faultyPatterns.2 hp, ?_⟩, rfl, rfl⟩
  unfold FaultyPattern.isFirst
  rw [Bool.not_eq_true', List.any_eq_false]
  intro q hq htext
  exact hfirst q hq (beq_iff_eq.1 htext)

/-- The finding about a faulty pattern repeats one about patterns of a list if its text stands
there. -/
theorem any_repeats_faults (patterns : List CustomPattern) (label : Text) (x : FaultyPattern) :
    ((faultyPatterns patterns).map (·.finding label)).any (x.finding label).repeats =
      patterns.any fun p => p.regex == x.text := by
  rw [List.any_map, Bool.eq_iff_iff, List.any_eq_true, List.any_eq_true]
  constructor
  · intro ⟨y, hy, hrepeats⟩
    have htext := beq_iff_eq.1 ((x.finding_repeats label y).symm.trans hrepeats)
    exact ⟨y.pattern, List.mem_of_getElem? (mem_faultyPatterns.1 hy), beq_iff_eq.2 htext.symm⟩
  · intro ⟨p, hp, htext⟩
    obtain ⟨i, hi⟩ := List.mem_iff_getElem?.1 hp
    obtain ⟨y, rfl, rfl⟩ := x.exists_of_regex_eq (beq_iff_eq.1 htext) i
    refine ⟨y, mem_faultyPatterns.2 hi, ?_⟩
    exact (x.finding_repeats label y).trans (beq_iff_eq.2 (beq_iff_eq.1 htext).symm)

/-- Of the findings about faulty patterns, those about the first ones with their texts are kept. The
induction is on the patterns from the end: the last one is dropped if its text stands before it. -/
theorem dedup_faults (patterns : List CustomPattern) (label : Text) :
    Finding.dedup ((faultyPatterns patterns).map (·.finding label)) =
      (firstFaults patterns).map (·.finding label) := by
  induction patterns using List.reverseRecOn with
  | nil => rfl
  | append_singleton patterns p ih =>
    have hfirst : firstFaults (patterns ++ [p]) =
        (faultyPatterns (patterns ++ [p])).filter (·.isFirst (patterns ++ [p])) := rfl
    rw [hfirst, faultyPatterns_concat, List.filter_append, filter_isFirst_concat, List.map_append]
    cases hfaulty : p.faulty? patterns.length with
    | none =>
      rw [Option.toList_none, List.filter_nil, List.map_nil, List.append_nil, List.append_nil]
      exact ih
    | some x =>
      obtain ⟨-, hindex⟩ := CustomPattern.faulty?_eq_some_iff.1 hfaulty
      have hnew : x.isFirst (patterns ++ [p]) = !patterns.any fun q => q.regex == x.text := by
        unfold FaultyPattern.isFirst
        rw [hindex, List.take_left]
      rw [Option.toList_some, List.map_singleton, Finding.dedup_concat, any_repeats_faults, ih,
        List.filter_cons, hnew]
      by_cases hany : (patterns.any fun q => q.regex == x.text) = true
      · rw [if_pos hany, hany]
        simp
      · rw [if_neg hany, Bool.eq_false_iff.2 hany]
        simp

end Faults

namespace CommandLine

section Merge

def isFault (f : Finding) : Bool :=
  f.ruleId == "config_error"

/-- What a report tells about faulty patterns that are merged into what was scanned. It has a
finding, which names the key, for every pattern that does not compile and whose text stands in no
pattern before it; these findings stand in order, there are no others about faulty patterns, and
nothing that was scanned is lost. So there is one for each pattern that does not compile exactly
when the texts of these patterns all differ. -/
structure FaultsReported (patterns : List CustomPattern) (label : Text)
    (scanned report : ProjectReport) : Prop where
  own : ∀ index p, patterns[index]? = some p → ¬ p.Compiles →
    (∀ q ∈ patterns.take index, q.regex ≠ p.regex) →
    ∃ f ∈ report.findings, isFault f = true ∧ f.matched = p.regex ∧ f.file = some label ∧
      p.key index <:+: f.description
  faults : report.findings.filter isFault = (firstFaults patterns).map (·.finding label)
  others : (report.findings.filter fun f => !isFault f) = scanned.findings
  count_eq_iff : report.findings.countP isFault = (patterns.filter fun p => ¬ p.Compiles).length ↔
    ((patterns.filter fun p => ¬ p.Compiles).map (·.regex)).Nodup

variable {o : ScanOptions} {label : Text} {r : ProjectReport}

/-- Something in the report stands for every faulty pattern. -/
theorem exists_repeats_withFaults (r : ProjectReport) {x : FaultyPattern}
    (hx : x ∈ faultyPatterns o.customPatterns) (label : Text) :
    ∃ f ∈ (withFaults r (validateCustomPatterns o label)).findings,
      (x.finding label).repeats f = true := by
  have hfault : x.finding label ∈ validateCustomPatterns o label := by
    rw [validateCustomPatterns_eq]
    exact List.mem_map_of_mem hx
  rw [withFaults_findings hfault]
  exact Finding.exists_mem_consolidate (List.mem_append_right _ hfault)

/-- A consolidated report is merged with any number of findings in one way. -/
theorem withFaults_findings_of_consolidated (hr : Finding.consolidate r.findings = r.findings)
    (faults : List Finding) :
    (withFaults r faults).findings = Finding.consolidate (r.findings ++ faults) := by
  cases faults with
  | nil => rw [List.append_nil, hr]; rfl
  | cons f faults => exact withFaults_findings List.mem_cons_self

/-- The faulty patterns whose findings are kept next to what was scanned: the first ones with their
texts, unless something that was scanned has the file, name, line and text of the finding. -/
def keptFaults (patterns : List CustomPattern) (label : Text) (scanned : List Finding) :
    List FaultyPattern :=
  (firstFaults patterns).filter fun x => !scanned.any (x.finding label).repeats

theorem dedup_append_faults (scanned : List Finding) (patterns : List CustomPattern)
    (label : Text) :
    Finding.dedup (scanned ++ (faultyPatterns patterns).map (·.finding label)) =
      Finding.dedup scanned ++ (keptFaults patterns label scanned).map (·.finding label) := by
  rw [Finding.dedup_append, dedup_faults, List.filter_map]
  rfl

theorem findings_withFaults_eq (hr : Finding.consolidate r.findings = r.findings)
    (o : ScanOptions) (label : Text) :
    (withFaults r (validateCustomPatterns o label)).findings =
      Finding.sort (Finding.dedup r.findings ++
        (keptFaults o.customPatterns label r.findings).map (·.finding label)) := by
  rw [withFaults_findings_of_consolidated hr, validateCustomPatterns_eq]
  exact congrArg Finding.sort (dedup_append_faults r.findings o.customPatterns label)

/-- What is reported is what was scanned and the findings that are kept. -/
theorem perm_withFaults (hr : Finding.consolidate r.findings = r.findings) (o : ScanOptions)
    (label : Text) :
    (withFaults r (validateCustomPatterns o label)).findings.Perm
      (r.findings ++ (keptFaults o.customPatterns label r.findings).map (·.finding label)) := by
  have hscanned : (Finding.dedup r.findings).Perm r.findings := by
    have hperm := Finding.sort_perm (Finding.dedup r.findings)
    rw [show Finding.sort (Finding.dedup r.findings) = r.findings from hr] at hperm
    exact hperm.symm
  rw [findings_withFaults_eq hr]
  exact (Finding.sort_perm _).trans (hscanned.append_right _)

def NoFaults (r : ProjectReport) : Prop :=
  ∀ f ∈ r.findings, f.kind ≠ "Invalid Custom Pattern" ∧ f.ruleId ≠ "config_error"

/-- The findings about faulty patterns are dropped for none that was scanned. -/
theorem NoFaults.keptFaults_eq (hnone : NoFaults r) (patterns : List CustomPattern)
    (label : Text) : keptFaults patterns label r.findings = firstFaults patterns := by
  unfold keptFaults
  rw [List.filter_eq_self]
  intro x _
  rw [Bool.not_eq_true', List.any_eq_false]
  intro f hf hrepeats
  have hkey := ((Finding.repeats_iff _ f).1 hrepeats).2
  exact (hnone f hf).1 (congrArg Prod.fst hkey).symm

theorem isFault_finding (label : Text) (x : FaultyPattern) : isFault (x.finding label) = true :=
  beq_self_eq_true _

theorem NoFaults.isFault_eq_false (hnone : NoFaults r) {f : Finding}
    (hf : f ∈ Finding.dedup r.findings) : isFault f = false :=
  beq_false_of_ne (hnone f ((Finding.dedup_sublist _).mem hf)).2

/-- All these findings are of one place, so they stand in order. -/
theorem sort_faults (faults : List FaultyPattern) (label : Text) :
    Finding.sort (faults.map (·.finding label)) = faults.map (·.finding label) := by
  apply List.mergeSort_of_pairwise
  rw [List.pairwise_map]
  apply List.pairwise_of_forall
  intro x y
  apply Finding.le_of_place_eq
  rw [x.place_finding, y.place_finding]

section Merged

variable (hnone : NoFaults r) (hr : Finding.consolidate r.findings = r.findings)
  (o : ScanOptions) (label : Text)
include hnone hr

theorem NoFaults.findings_eq : (withFaults r (validateCustomPatterns o label)).findings =
    Finding.sort (Finding.dedup r.findings ++
      (firstFaults o.customPatterns).map (·.finding label)) := by
  rw [findings_withFaults_eq hr, hnone.keptFaults_eq]

/-- The findings about faulty patterns are those about the first ones with their texts. -/
theorem NoFaults.filter_isFault :
    (withFaults r (validateCustomPatterns o label)).findings.filter isFault =
      (firstFaults o.customPatterns).map (·.finding label) := by
  have hscanned : (Finding.dedup r.findings).filter isFault = [] := by
    rw [List.filter_eq_nil_iff]
    intro f hf
    rw [hnone.isFault_eq_false hf]
    exact Bool.false_ne_true
  have hfaults : ((firstFaults o.customPatterns).map (·.finding label)).filter isFault =
      (firstFaults o.customPatterns).map (·.finding label) := by
    rw [List.filter_eq_self]
    intro f hf
    obtain ⟨x, -, rfl⟩ := List.mem_map.1 hf
    exact isFault_finding label x
  rw [hnone.findings_eq hr, Finding.filter_sort, List.filter_append, hscanned, hfaults,
    List.nil_append, sort_faults]

/-- All other findings are those that were scanned. -/
theorem NoFaults.filter_not_isFault :
    ((withFaults r (validateCustomPatterns o label)).findings.filter fun f => !isFault f) =
      r.findings := by
  have hscanned : ((Finding.dedup r.findings).filter fun f => !isFault f) =
      Finding.dedup r.findings := by
    rw [List.filter_eq_self]
    intro f hf
    rw [hnone.isFault_eq_false hf]
    rfl
  have hfaults : (((firstFaults o.customPatterns).map (·.finding label)).filter
      fun f => !isFault f) = [] := by
    rw [List.filter_eq_nil_iff]
    intro f hf
    obtain ⟨x, -, rfl⟩ := List.mem_map.1 hf
    rw [isFault_finding]
    exact Bool.false_ne_true
  rw [hnone.findings_eq hr, Finding.filter_sort, List.filter_append, hscanned, hfaults,
    List.append_nil]
  exact hr

/-- Findings about faulty patterns are merged into a report on other things as they should be, but
for those with the same text. -/
theorem NoFaults.faultsReported :
    FaultsReported o.customPatterns label r
      (withFaults r (validateCustomPatterns o label)) := by
  have hfaults := hnone.filter_isFault hr o label
  refine ⟨?_, hfaults, hnone.filter_not_isFault hr o label, ?_⟩
  · intro index p hp hfaulty hfirst
    obtain ⟨x, hx, rfl, rfl⟩ := exists_first hp hfaulty hfirst
    have hmem : x.finding label ∈ (withFaults r (validateCustomPatterns o label)).findings :=
      List.mem_of_mem_filter (hfaults ▸ List.mem_map_of_mem hx)
    exact ⟨_, hmem, isFault_finding label x, rfl, rfl, x.key_infix_description label⟩
  · rw [← map_pattern_faultyPatterns, List.length_map, List.map_map,
      List.countP_eq_length_filter, hfaults, ← dedup_faults]
    exact length_dedup_faults_eq_iff _ label

end Merged

end Merge

section Run

variable {w : Workspace} {a : Arguments} {loaded : LoadedConfig}

def configLabel (loaded : LoadedConfig) : Text :=
  (loaded.file.map Path.label).getD "<cli>"

def scanned (w : Workspace) (a : Arguments) (loaded : LoadedConfig) : ProjectReport :=
  let scanner : ProjectScanner :=
    { ProjectScanner.new (a.scanOptions loaded.config) (a.selectionRules loaded.config) with
      allKinds := !a.noGitignore
      projectRoot := loaded.file.bind directoryOf }
  (scanner.scan w (pathsOf a)).report

def finalReport (w : Workspace) (a : Arguments) (loaded : LoadedConfig) : ProjectReport :=
  withFaults (scanned w a loaded)
    (validateCustomPatterns (a.scanOptions loaded.config) (configLabel loaded))

/-- This report is the one that a run prints. -/
theorem ReachesScan.output_eq {arguments : List Text} (h : ReachesScan w arguments a loaded) :
    (run w arguments).output = reportText (finalReport w a loaded) a.json := by
  obtain ⟨warning, hconfig⟩ := h.configured
  obtain ⟨config, file⟩ := loaded
  rw [h.run_eq]
  unfold scan
  rw [hconfig]
  cases file with
  | none => rfl
  | some file => rfl

/-- No pattern that compiles has the name or the key of the findings about faulty ones. -/
def LeavesFaults (patterns : List CustomPattern) : Prop :=
  ∀ p index, (p, index) ∈ patterns.zipIdx → p.Compiles →
    p.name ≠ "Invalid Custom Pattern" ∧ p.key index ≠ "config_error"

theorem noFaults_scanned (w : Workspace)
    (h : LeavesFaults (a.scanOptions loaded.config).customPatterns) :
    NoFaults (scanned w a loaded) := by
  intro f hf
  obtain ⟨content, label, hf⟩ := ProjectScanner.exists_scan_of_mem_report hf
  refine Scanner.of_mem_scan
    (P := fun kind ruleId => kind ≠ "Invalid Custom Pattern" ∧ ruleId ≠ "config_error")
    (by decide +kernel) ?_ (by decide +kernel) hf
  intro p index s hp hcompile
  exact h p index hp ((p.compiles_iff index).2 ⟨s, hcompile⟩)

theorem consolidate_scanned (w : Workspace) (a : Arguments) (loaded : LoadedConfig) :
    Finding.consolidate (scanned w a loaded).findings = (scanned w a loaded).findings := by
  unfold scanned ProjectScanner.scan
  rw [ProjectScan.report_eq]
  exact Finding.consolidate_consolidate _

/-- The report that a run prints has what was scanned and one finding for every custom pattern that
does not compile, unless its text stands in a pattern before it or something that was scanned reads
like the finding; in either case a finding with the same file, name, line and text stands for it.
If no pattern that compiles has the name or the key of these findings, there are as many of them as
there are patterns that do not compile exactly when the texts of those patterns all differ. -/
theorem faults_reported {arguments : List Text} (h : ReachesScan w arguments a loaded) :
    (run w arguments).output = reportText (finalReport w a loaded) a.json ∧
      (finalReport w a loaded).findings.Perm ((scanned w a loaded).findings ++
        (keptFaults (a.scanOptions loaded.config).customPatterns (configLabel loaded)
          (scanned w a loaded).findings).map (·.finding (configLabel loaded))) ∧
      (∀ x ∈ faultyPatterns (a.scanOptions loaded.config).customPatterns,
        ∃ f ∈ (finalReport w a loaded).findings,
          (x.finding (configLabel loaded)).repeats f = true) ∧
      (LeavesFaults (a.scanOptions loaded.config).customPatterns →
        FaultsReported (a.scanOptions loaded.config).customPatterns (configLabel loaded)
          (scanned w a loaded) (finalReport w a loaded)) := by
  have hscanned := consolidate_scanned w a loaded
  refine ⟨h.output_eq, ?_, ?_, ?_⟩
  · exact perm_withFaults hscanned (a.scanOptions loaded.config) (configLabel loaded)
  · intro x hx
    exact exists_repeats_withFaults (scanned w a loaded) hx (configLabel loaded)
  · intro hleaves
    exact (noFaults_scanned w hleaves).faultsReported hscanned _ _

end Run

def twoOpenGroups : Workspace where
  cwd := []
  tree := .directory
    [(".keyscan.toml".toList, .file (Text.Utf8.encode (Text.join ['\n']
        ["[[keyscan.patterns]]", "name = \"A\"", "regex = \"(\"", "",
          "[[keyscan.patterns]]", "name = \"B\"", "regex = \"[\"", "",
          "[[keyscan.patterns]]", "name = \"C\"", "regex = \"(\"", ""]))),
      ("a.txt".toList, .file (Text.Utf8.encode "hi"))]

def twoOpenGroupsConfig : LoadedConfig where
  config :=
    { patterns := [⟨"A", "(", .high, none, none⟩, ⟨"B", "[", .high, none, none⟩,
        ⟨"C", "(", .high, none, none⟩] }
  file := some "/.keyscan.toml"

def jsonOnly : Arguments :=
  { paths := ["a.txt"], json := true }

set_option maxRecDepth 2000 in
theorem reachesScan_twoOpenGroups :
    ReachesScan twoOpenGroups ["--json".toList, "a.txt".toList] jsonOnly twoOpenGroupsConfig :=
  { read := rfl
    noListing := rfl
    pathExists := List.forall_mem_singleton.2 (by decide)
    configured := ⟨[], rfl⟩ }

theorem leavesFaults_twoOpenGroups :
    LeavesFaults (jsonOnly.scanOptions twoOpenGroupsConfig.config).customPatterns := by
  have hnames : ∀ x ∈ (jsonOnly.scanOptions twoOpenGroupsConfig.config).customPatterns.zipIdx,
      x.1.name ≠ "Invalid Custom Pattern" ∧ x.1.key x.2 ≠ "config_error" := by
    decide +kernel
  intro p index hp _
  exact hnames (p, index) hp

theorem not_nodup_twoOpenGroups :
    ¬ (((jsonOnly.scanOptions twoOpenGroupsConfig.config).customPatterns.filter
      fun p => ¬ p.Compiles).map (·.regex)).Nodup := by
  decide +kernel

/-- The first two patterns are reported, and the third has no finding. -/
theorem faults_reported_twoOpenGroups :
    ReachesScan twoOpenGroups ["--json".toList, "a.txt".toList] jsonOnly twoOpenGroupsConfig ∧
      LeavesFaults (jsonOnly.scanOptions twoOpenGroupsConfig.config).customPatterns ∧
      FaultsReported (jsonOnly.scanOptions twoOpenGroupsConfig.config).customPatterns
        (configLabel twoOpenGroupsConfig) (scanned twoOpenGroups jsonOnly twoOpenGroupsConfig)
        (finalReport twoOpenGroups jsonOnly twoOpenGroupsConfig) ∧
      ((finalReport twoOpenGroups jsonOnly twoOpenGroupsConfig).findings.filter isFault).map
        (·.matched) = ["(".toList, "[".toList] := by
  obtain ⟨-, -, -, hreported⟩ := faults_reported reachesScan_twoOpenGroups
  have hreported := hreported leavesFaults_twoOpenGroups
  have htexts : (firstFaults (jsonOnly.scanOptions
      twoOpenGroupsConfig.config).customPatterns).map (·.text) = ["(".toList, "[".toList] := by
    decide +kernel
  refine ⟨reachesScan_twoOpenGroups, leavesFaults_twoOpenGroups, hreported, ?_⟩
  rw [hreported.faults, List.map_map]
  exact htexts

/-- So it is not true that every pattern that does not compile has a finding of its own. -/
theorem not_all_faults_reported :
    ¬ ∀ (w : Workspace) (arguments : List Text) (a : Arguments) (loaded : LoadedConfig),
      ReachesScan w arguments a loaded →
      (finalReport w a loaded).findings.countP isFault =
        ((a.scanOptions loaded.config).customPatterns.filter fun p => ¬ p.Compiles).length := by
  intro hall
  have hcount := hall _ _ _ _ reachesScan_twoOpenGroups
  have hreported := (noFaults_scanned twoOpenGroups leavesFaults_twoOpenGroups).faultsReported
    (consolidate_scanned twoOpenGroups jsonOnly twoOpenGroupsConfig)
    (jsonOnly.scanOptions twoOpenGroupsConfig.config) (configLabel twoOpenGroupsConfig)
  exact not_nodup_twoOpenGroups (hreported.count_eq_iff.1 hcount)

end CommandLine

end SecretScan
