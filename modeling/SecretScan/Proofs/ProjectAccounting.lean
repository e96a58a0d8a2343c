import Mathlib.Algebra.GroupWithZero.Nat
import Mathlib.Data.List.Forall2
import SecretScan.Project
import SecretScan.Proofs.ReadableFiles
import SecretScan.Proofs.TextEncoding

/-!
The report on a project, compared with scans of its files one by one. Every file that is gathered
can be read, and its bytes settle what becomes of it; the report has what the scans of single files
have, consolidated, and counts every file once.
-/

namespace SecretScan

/-- Under a label a scanner reports what a scan reports with the label as its file name: detectors do
not look at the file name. -/
theorem Scanner.scan_ofOptions (o : ScanOptions) (content label : Text) :
    (ofOptions o).scan content (some label) =
      scanText content { o with filename := some label } := rfl

namespace FileOutcome

/-- What becomes of a file with some bytes. It is passed over when a zero is among the first ones,
and it fails when the bytes encode no text; else the text is scanned by itself. -/
inductive Settles (o : ScanOptions) (label : Text) (bytes : List UInt8) : FileOutcome → Prop
  | binary (hzero : 0 ∈ bytes.take 8192) : Settles o label bytes .binary
  | failed {validUpTo : Nat} (hzero : 0 ∉ bytes.take 8192)
      (hbytes : ∀ t, bytes ≠ Text.Utf8.encode t)
      (hoffset : Text.Utf8.decode bytes = .error validUpTo) :
    Settles o label bytes (.failed (ScanError.nonText label validUpTo).toFileError)
  | scanned {t : Text} (hzero : 0 ∉ bytes.take 8192) (hbytes : bytes = Text.Utf8.encode t) :
    Settles o label bytes (.scanned (scanText t { o with filename := some label }))

variable {o : ScanOptions} {label : Text} {bytes : List UInt8}

theorem looksBinary_iff (bytes : List UInt8) :
    Text.looksBinary bytes = true ↔ 0 ∈ bytes.take 8192 := by
  simp [Text.looksBinary, Text.sniffLength]

theorem settles_ofBytes (o : ScanOptions) (label : Text) (bytes : List UInt8) :
    Settles o label bytes (ofBytes (.ofOptions o) label bytes) := by
  rw [ofBytes]
  by_cases hbinary : Text.looksBinary bytes = true
  · rw [if_pos hbinary]
    exact .binary ((looksBinary_iff bytes).1 hbinary)
  have hzero : 0 ∉ bytes.take 8192 := fun h => hbinary ((looksBinary_iff bytes).2 h)
  rw [if_neg hbinary, Scanner.scanBytes]
  cases hdecode : Text.Utf8.decode bytes with
  | ok t =>
    change Settles o label bytes (.scanned ((Scanner.ofOptions o).scan t (some label)))
    rw [Scanner.scan_ofOptions]
    exact .scanned hzero (Text.Utf8.decode_eq_ok_iff.1 hdecode)
  | error validUpTo =>
    refine .failed hzero (fun t hbytes => ?_) hdecode
    rw [Text.Utf8.decode_eq_ok_iff.2 hbytes] at hdecode
    cases hdecode

/-- The bytes leave no choice. -/
theorem Settles.unique {a b : FileOutcome} (ha : Settles o label bytes a)
    (hb : Settles o label bytes b) : a = b := by
  cases ha with
  | binary hzero =>
    cases hb with
    | binary => rfl
    | failed hzero' => exact absurd hzero hzero'
    | scanned hzero' => exact absurd hzero hzero'
  | failed hzero hbytes hoffset =>
    cases hb with
    | binary hzero' => exact absurd hzero' hzero
    | failed _ _ hoffset' =>
      obtain rfl := Except.error.inj (hoffset.symm.trans hoffset')
      rfl
    | scanned _ hbytes' => exact absurd hbytes' (hbytes _)
  | scanned hzero hbytes =>
    cases hb with
    | binary hzero' => exact absurd hzero' hzero
    | failed _ hbytes' => exact absurd hbytes (hbytes' _)
    | scanned _ hbytes' =>
      have hdecode := Text.Utf8.decode_eq_ok_iff.2 hbytes
      obtain rfl := Except.ok.inj (hdecode.symm.trans (Text.Utf8.decode_eq_ok_iff.2 hbytes'))
      rfl

def IsOf (o : ScanOptions) (w : Workspace) (file : SourceFile) (outcome : FileOutcome) : Prop :=
  ∃ bytes, w.read file.path = .ok bytes ∧ Settles o file.label bytes outcome

theorem isOf_iff {w : Workspace} {file : SourceFile} (hread : w.read file.path = .ok bytes)
    {outcome : FileOutcome} :
    IsOf o w file outcome ↔ outcome = ofFile (.ofOptions o) w file := by
  have hfile : ofFile (.ofOptions o) w file = ofBytes (.ofOptions o) file.label bytes := by
    rw [ofFile, hread]
  rw [hfile]
  constructor
  · rintro ⟨bytes', hread', hsettles⟩
    obtain rfl := Except.ok.inj (hread.symm.trans hread')
    exact hsettles.unique (settles_ofBytes o file.label bytes)
  · rintro rfl
    exact ⟨bytes, hread, settles_ofBytes o file.label bytes⟩

/-- Each outcome is of one of three kinds. -/
theorem length_eq_add (outcomes : List FileOutcome) :
    (outcomes.filterMap (·.report?)).length + outcomes.countP (·.isBinary) +
      (outcomes.filterMap (·.error?)).length = outcomes.length := by
  have hcons {α : Type} (kind : FileOutcome → Option α) (outcome : FileOutcome)
      (rest : List FileOutcome) : ((outcome :: rest).filterMap kind).length =
        (kind outcome).toList.length + (rest.filterMap kind).length := by
    cases h : kind outcome with
    | none => simp [h]
    | some x => simp [h, Nat.add_comm]
  induction outcomes with
  | nil => rfl
  | cons outcome outcomes ih =>
    have hone : outcome.report?.toList.length + (if outcome.isBinary then 1 else 0) +
        outcome.error?.toList.length = 1 := by
      cases outcome <;> rfl
    rw [hcons, hcons, List.countP_cons, List.length_cons]
    omega

end FileOutcome

/-- The report has the findings and advisories of all texts that were scanned, and an error for
every walk that met one and for every file that could not be scanned. It counts the texts, and the
files that were not selected together with those that look binary. -/
structure ProjectReport.Accounts (r : ProjectReport) (walks : List Discovery)
    (outcomes : List FileOutcome) : Prop where
  findings : r.findings =
    Finding.consolidate ((outcomes.filterMap (·.report?)).flatMap (·.findings))
  advisories : r.advisories.Perm ((outcomes.filterMap (·.report?)).flatMap (·.advisories))
  errors : r.errors.Perm (walks.flatMap (·.errors) ++ outcomes.filterMap (·.error?))
  scanned : r.filesScanned = (outcomes.filterMap (·.report?)).length
  skipped : r.filesSkipped = (walks.map (·.skipped)).sum + outcomes.countP (·.isBinary)

/-- No file is lost and none is counted twice. -/
theorem ProjectReport.Accounts.total {r : ProjectReport} {walks : List Discovery}
    {outcomes : List FileOutcome} (h : r.Accounts walks outcomes) :
    r.filesScanned + r.filesSkipped + r.errors.length =
      outcomes.length + (walks.map (·.skipped)).sum + (walks.map (·.errors.length)).sum := by
  have hlength := FileOutcome.length_eq_add outcomes
  rw [h.scanned, h.skipped, h.errors.length_eq, List.length_append, List.length_flatMap]
  omega

/-- Where a relation is a function on the entries of a list, what it relates the list to is their
image. -/
theorem forall₂_iff_eq_map {α β : Type} {R : α → β → Prop} {f : α → β} {l : List α} {l' : List β}
    (h : ∀ x ∈ l, ∀ y, R x y ↔ y = f x) : List.Forall₂ R l l' ↔ l' = l.map f := by
  induction l generalizing l' with
  | nil => rw [List.forall₂_nil_left_iff, List.map_nil]
  | cons x l ih =>
    rw [List.forall₂_cons_left_iff, List.map_cons]
    have ih {l' : List β} : List.Forall₂ R l l' ↔ l' = l.map f :=
      ih fun y hy => h y (List.mem_cons_of_mem x hy)
    constructor
    · rintro ⟨y, rest, hy, hrest, rfl⟩
      rw [(h x List.mem_cons_self y).1 hy, ih.1 hrest]
    · rintro rfl
      exact ⟨f x, l.map f, (h x List.mem_cons_self _).2 rfl, ih.2 rfl, rfl⟩

namespace ProjectScanner

variable (s : ProjectScanner) (w : Workspace)

def sources (roots : List Text) : List SourceFile :=
  roots.flatMap fun root =>
    if w.isFile root then [.ofPath root]
    else (discoverFiles w root (s.selector w root) s.allKinds).files

def walks (roots : List Text) : List Discovery :=
  (roots.filter fun root => !w.isFile root).map fun root =>
    discoverFiles w root (s.selector w root) s.allKinds

theorem outcomes_scan (roots : List Text) : (s.scan w roots).outcomes =
    (s.sources w roots).map fun file => (file, .ofFile (.ofOptions s.options) w file) := by
  simp only [scan, sources, List.flatMap_map]
  refine congrArg (List.map _) (List.flatMap_congr fun root _ => ?_)
  rw [gather]
  split
  · rfl
  · rfl

/-- Every file that is gathered can be read. -/
theorem exists_read_of_mem_sources (hw : w.tree.IsTree) {roots : List Text} {file : SourceFile}
    (h : file ∈ s.sources w roots) : ∃ bytes, w.read file.path = .ok bytes := by
  obtain ⟨root, -, hfile⟩ := List.mem_flatMap.1 h
  split at hfile
  · rename_i hroot
    obtain rfl := List.mem_singleton.1 hfile
    exact Workspace.exists_read_of_isFile hroot
  · exact exists_read_of_discoverFiles hw hfile

theorem walks_cons (root : Text) (roots : List Text) : s.walks w (root :: roots) =
    (if w.isFile root then [] else [discoverFiles w root (s.selector w root) s.allKinds]) ++
      s.walks w roots := by
  rw [walks, List.filter_cons]
  cases w.isFile root with
  | true => rfl
  | false => rfl

/-- A root that is a file adds to neither number: it was not walked. -/
theorem skipped_gather (roots : List Text) :
    (roots.map (s.gather w)).foldl (fun n g => n + g.found.skipped) 0 =
      ((s.walks w roots).map (·.skipped)).sum := by
  rw [← List.foldl_map, ← List.sum_eq_foldl]
  induction roots with
  | nil => rfl
  | cons root roots ih =>
    rw [List.map_cons, List.map_cons, List.sum_cons, ih, walks_cons, List.map_append,
      List.sum_append, gather]
    cases w.isFile root with
    | true => rfl
    | false => rfl

theorem errors_gather (roots : List Text) : (roots.map (s.gather w)).flatMap (·.found.errors) =
    (s.walks w roots).flatMap (·.errors) := by
  induction roots with
  | nil => rfl
  | cons root roots ih =>
    rw [List.map_cons, List.flatMap_cons, ih, walks_cons, List.flatMap_append, gather]
    cases w.isFile root with
    | true => rfl
    | false => simp

/-- The report is put together from the walks and the outcomes. -/
theorem accounts_report (roots : List Text) : (s.scan w roots).report.Accounts (s.walks w roots)
    ((s.scan w roots).outcomes.map (·.2)) where
  findings := rfl
  advisories := List.mergeSort_perm _ _
  errors := by
    rw [← errors_gather]
    exact List.mergeSort_perm _ _
  scanned := rfl
  skipped := by
    rw [← skipped_gather]
    rfl

/-- The report on the files of some roots. Every file has one outcome, which its bytes settle; the
report has the findings of the files that were scanned, each as if it had been scanned alone, and
its numbers add up to the files with what the walks have counted. -/
theorem report_scan {w : Workspace} (hw : w.tree.IsTree) (roots : List Text) :
    ∃ outcomes : List FileOutcome,
      (∀ others, List.Forall₂ (FileOutcome.IsOf s.options w) (s.sources w roots) others ↔
        others = outcomes) ∧
      (s.scan w roots).report.Accounts (s.walks w roots) outcomes ∧
      (s.scan w roots).report.filesScanned + (s.scan w roots).report.filesSkipped +
          (s.scan w roots).report.errors.length =
        (s.sources w roots).length + ((s.walks w roots).map (·.skipped)).sum +
          ((s.walks w roots).map (·.errors.length)).sum := by
  have haccounts := s.accounts_report w roots
  have houtcomes : (s.scan w roots).outcomes.map (·.2) =
      (s.sources w roots).map (FileOutcome.ofFile (.ofOptions s.options) w) := by
    rw [outcomes_scan, List.map_map]
    rfl
  rw [houtcomes] at haccounts
  refine ⟨_, fun others => ?_, haccounts, ?_⟩
  · refine forall₂_iff_eq_map fun file hfile outcome => ?_
    obtain ⟨bytes, hread⟩ := s.exists_read_of_mem_sources w hw hfile
    exact FileOutcome.isOf_iff hread
  · rw [haccounts.total, List.length_map]

def mixed : Workspace where
  cwd := []
  tree := .directory [("blob.bin".toList, .file [0]), ("latin.txt".toList, .file [0xE9]),
    ("notes.txt".toList, .file [0x68, 0x69])]

def mixedRoots : List Text :=
  ["notes.txt", "blob.bin", "missing.txt", "latin.txt"].map String.toList

theorem isTree_mixed : mixed.tree.IsTree :=
  .directory (by decide) (by decide) (List.forall_mem_cons.2 ⟨.file _,
    List.forall_mem_cons.2 ⟨.file _, List.forall_mem_singleton.2 (.file _)⟩⟩)

/-- There are three files, each with its outcome, and one root that leads nowhere. -/
theorem report_scan_mixed :
    mixed.tree.IsTree ∧
      ∃ outcomes : List FileOutcome,
        List.Forall₂ (FileOutcome.IsOf default.options mixed)
          (["notes.txt", "blob.bin", "latin.txt"].map fun path : String => .ofPath path.toList)
          outcomes ∧
        (default.scan mixed mixedRoots).report.Accounts (default.walks mixed mixedRoots) outcomes ∧
        (default.scan mixed mixedRoots).report.filesScanned +
          (default.scan mixed mixedRoots).report.filesSkipped +
          (default.scan mixed mixedRoots).report.errors.length = 4 := by
  have hsources : default.sources mixed mixedRoots =
      ["notes.txt", "blob.bin", "latin.txt"].map fun path : String => .ofPath path.toList := by
    decide
  have hskipped : ((default.walks mixed mixedRoots).map (·.skipped)).sum = 0 := by decide
  have herrors : ((default.walks mixed mixedRoots).map (·.errors.length)).sum = 1 := by
    decide
  obtain ⟨outcomes, hforall, haccounts, htotal⟩ := default.report_scan isTree_mixed mixedRoots
  rw [hsources] at hforall htotal
  rw [hskipped, herrors] at htotal
  exact ⟨isTree_mixed, outcomes, (hforall outcomes).2 rfl, haccounts, htotal⟩

end ProjectScanner

end SecretScan
