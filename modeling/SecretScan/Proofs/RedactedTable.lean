import Mathlib.Data.List.Forall2
import SecretScan.CommandLine.Run
import SecretScan.Proofs.RedactedReport

/-!
What the report as text tells of secrets: the ends of the long ones and the lengths of the short
ones. Two secrets that agree in this are redacted alike, and no others are. The tables of two lists
of findings are therefore the same text when the findings differ in nothing but such secrets and in
what no table shows; the widths of the columns depend on the redacted secrets alone.
-/

namespace SecretScan

namespace Redaction

variable {a b secret : Text}

/-- Two secrets differ in nothing that is shown: they are hidden and equally long, or they are long
and have the same ends. -/
inductive LooksLike (a b : Text) : Prop
  | hidden (ha : a.length ≤ 8) (hlength : a.length = b.length)
  | shortened (ha : 8 < a.length) (hb : 8 < b.length) (hhead : a.take 4 = b.take 4)
      (htail : a.drop (a.length - 4) = b.drop (b.length - 4))

theorem redact_of_short (h : secret.length ≤ 8) :
    redact secret = List.replicate secret.length '*' :=
  if_pos h

theorem length_redact_of_short (h : secret.length ≤ 8) :
    (redact secret).length = secret.length := by
  rw [redact_of_short h, List.length_replicate]

theorem LooksLike.redact_eq (h : LooksLike a b) : redact a = redact b := by
  cases h with
  | hidden ha hlength =>
    have hb : b.length ≤ 8 := by omega
    rw [redact_of_short ha, redact_of_short hb, hlength]
  | shortened ha hb hhead htail =>
    rw [redact_of_long ha, redact_of_long hb, hhead, htail]

/-- The ends can be read off a long redaction. -/
theorem ends_eq_of_redact_eq (ha : 8 < a.length) (hb : 8 < b.length) (h : redact a = redact b) :
    a.take 4 = b.take 4 ∧ a.drop (a.length - 4) = b.drop (b.length - 4) := by
  rw [redact_of_long ha, redact_of_long hb, List.append_assoc, List.append_assoc] at h
  have hlength : (a.take 4).length = (b.take 4).length := by
    rw [List.length_take, List.length_take]
    omega
  obtain ⟨hhead, hbehind⟩ := List.append_inj h hlength
  exact ⟨hhead, List.append_cancel_left hbehind⟩

/-- Redaction tells secrets apart exactly when they look different. A long redaction has eleven
characters, so it is that of no short secret. -/
theorem redact_eq_iff : redact a = redact b ↔ LooksLike a b := by
  constructor
  · intro h
    have hlength := congrArg List.length h
    by_cases ha : a.length ≤ 8
    · rw [length_redact_of_short ha] at hlength
      by_cases hb : b.length ≤ 8
      · rw [length_redact_of_short hb] at hlength
        exact .hidden ha hlength
      · rw [length_redact (Nat.lt_of_not_le hb)] at hlength
        omega
    · have ha : 8 < a.length := Nat.lt_of_not_le ha
      rw [length_redact ha] at hlength
      by_cases hb : b.length ≤ 8
      · rw [length_redact_of_short hb] at hlength
        omega
      · have hb : 8 < b.length := Nat.lt_of_not_le hb
        obtain ⟨hhead, htail⟩ := ends_eq_of_redact_eq ha hb h
        exact .shortened ha hb hhead htail
  · exact LooksLike.redact_eq

/-- Between the ends that are kept something is left out. -/
theorem exists_between_ends (h : 8 < secret.length) : ∃ head between tail,
    secret = head ++ between ++ tail ∧ head.length = 4 ∧ between ≠ [] ∧ tail.length = 4 ∧
      redact secret = head ++ "...".toList ++ tail := by
  have hsplit : secret.drop 4 = (secret.drop 4).take (secret.length - 8) ++
      secret.drop (secret.length - 4) := by
    have hplace : secret.length - 4 = 4 + (secret.length - 8) := by omega
    rw [hplace, ← List.drop_drop, List.take_append_drop]
  refine ⟨secret.take 4, (secret.drop 4).take (secret.length - 8),
    secret.drop (secret.length - 4), ?_, ?_, ?_, ?_, redact_of_long h⟩
  · rw [List.append_assoc, ← hsplit, List.take_append_drop]
  · rw [List.length_take]
    omega
  · apply List.ne_nil_of_length_pos
    rw [List.length_take, List.length_drop]
    omega
  · rw [List.length_drop]
    omega

end Redaction

/-- Two findings differ in nothing that the table shows: their secrets look alike, and what stands in
the other columns is the same. -/
structure Finding.LooksLike (f g : Finding) : Prop where
  ruleId : f.ruleId = g.ruleId
  kind : f.kind = g.kind
  file : f.file = g.file
  line : f.line = g.line
  column : f.column = g.column
  severity : f.severity = g.severity
  matched : Redaction.LooksLike f.matched g.matched

structure ProjectReport.LooksLike (r s : ProjectReport) : Prop where
  findings : List.Forall₂ Finding.LooksLike r.findings s.findings
  advisories : r.advisories = s.advisories
  errors : r.errors.length = s.errors.length
  filesScanned : r.filesScanned = s.filesScanned
  filesSkipped : r.filesSkipped = s.filesSkipped

namespace Report

variable {f g : Finding} {findings others : List Finding} {r s : ProjectReport}

theorem location_eq (h : f.LooksLike g) : location f = location g := by
  unfold location Finding.fileKey
  rw [h.file, h.line, h.column]

theorem findingRow_eq (h : f.LooksLike g) : findingRow f = findingRow g := by
  unfold findingRow
  rw [h.ruleId, h.kind, location_eq h, h.severity, h.matched.redact_eq]

theorem map_eq_of_looksLike {α : Type} {shown : Finding → α}
    (hshown : ∀ f g : Finding, f.LooksLike g → shown f = shown g)
    (h : List.Forall₂ Finding.LooksLike findings others) :
    findings.map shown = others.map shown := by
  induction h with
  | nil => rfl
  | cons hfinding hrest ih => rw [List.map_cons, List.map_cons, hshown _ _ hfinding, ih]

/-- The table is drawn from its rows. -/
theorem findingsText_eq (h : List.Forall₂ Finding.LooksLike findings others) :
    findingsText findings = findingsText others := by
  have hrows : findings.map findingRow = others.map findingRow :=
    map_eq_of_looksLike (fun _ _ => findingRow_eq) h
  have hempty := congrArg List.isEmpty hrows
  rw [List.isEmpty_map, List.isEmpty_map] at hempty
  unfold findingsText
  rw [hempty, hrows]

/-- Counts look at severities alone. -/
theorem severityCounts_eq_of_looksLike (h : List.Forall₂ Finding.LooksLike r.findings s.findings) :
    r.severityCounts = s.severityCounts := by
  have hseverities : r.findings.map (·.severity) = s.findings.map (·.severity) :=
    map_eq_of_looksLike (fun _ _ hfinding => hfinding.severity) h
  have hcount (report : ProjectReport) (severity : Severity) :
      report.findings.countP (·.severity == severity) =
        (report.findings.map (·.severity)).countP (· == severity) := by
    rw [List.countP_map]
    rfl
  unfold ProjectReport.severityCounts
  simp only [hcount, hseverities]

theorem summaryText_eq (h : r.LooksLike s) : summaryText r = summaryText s := by
  unfold summaryText
  rw [severityCounts_eq_of_looksLike h.findings, h.filesScanned, h.filesSkipped, h.errors]

/-- The report as text tells nothing of a secret but its ends, and nothing but the length of a
secret of at most eight characters. -/
theorem findingsText_reveals_ends :
    (∀ findings others, List.Forall₂ Finding.LooksLike findings others →
        findingsText findings = findingsText others) ∧
      (∀ r s : ProjectReport, r.LooksLike s →
        CommandLine.reportText r false = CommandLine.reportText s false) ∧
      (∀ a b, Redaction.redact a = Redaction.redact b ↔ Redaction.LooksLike a b) ∧
      (∀ secret : Text, 8 < secret.length → ∃ head between tail,
        secret = head ++ between ++ tail ∧ head.length = 4 ∧ between ≠ [] ∧ tail.length = 4 ∧
          Redaction.redact secret = head ++ "...".toList ++ tail) ∧
      ∀ secret : Text, secret.length ≤ 8 → ∀ c ∈ Redaction.redact secret, c = '*' := by
  refine ⟨fun findings others => findingsText_eq, ?_, fun a b => Redaction.redact_eq_iff,
    fun secret => Redaction.exists_between_ends, ?_⟩
  · intro r s h
    change findingsText r.findings ++ advisoriesText r.advisories ++ summaryText r =
      findingsText s.findings ++ advisoriesText s.advisories ++ summaryText s
    rw [findingsText_eq h.findings, h.advisories, summaryText_eq h]
  · intro secret hshort c hc
    rw [Redaction.redact_of_short hshort] at hc
    exact List.eq_of_mem_replicate hc

def secretFinding (secret : Text) : Finding where
  kind := "Token"
  ruleId := "token"
  line := 1
  column := some 1
  matched := secret
  content := secret
  description := []
  severity := .high
  file := some "notes.txt"
  entropy := none

theorem secretFinding_looksLike {a b : Text} (h : Redaction.LooksLike a b) :
    (secretFinding a).LooksLike (secretFinding b) :=
  ⟨rfl, rfl, rfl, rfl, rfl, rfl, h⟩

/-- The same table stands for a wide secret and a narrow one of six characters, and for two secrets
with the same ends of which one is much longer. -/
theorem findingsText_reveals_ends_wide :
    List.Forall₂ Finding.LooksLike
        [secretFinding "秘密の鍵です", secretFinding "ключ-секрет-значение"]
        [secretFinding "пароль", secretFinding "ключ0ение"] ∧
      findingsText [secretFinding "秘密の鍵です", secretFinding "ключ-секрет-значение"] =
        findingsText [secretFinding "пароль", secretFinding "ключ0ение"] := by
  have hshort : Redaction.LooksLike "秘密の鍵です".toList "пароль".toList :=
    .hidden (by decide) (by decide)
  have hlong : Redaction.LooksLike "ключ-секрет-значение".toList "ключ0ение".toList :=
    .shortened (by decide) (by decide) (by decide) (by decide)
  have hfindings : List.Forall₂ Finding.LooksLike
      [secretFinding "秘密の鍵です", secretFinding "ключ-секрет-значение"]
      [secretFinding "пароль", secretFinding "ключ0ение"] :=
    .cons (secretFinding_looksLike hshort) (.cons (secretFinding_looksLike hlong) .nil)
  exact ⟨hfindings, findingsText_reveals_ends.1 _ _ hfindings⟩

end Report

end SecretScan
