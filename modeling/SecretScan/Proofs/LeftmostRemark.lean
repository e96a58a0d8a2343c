import Mathlib.Data.List.Nodup
import SecretScan.Proofs.SuppressionGrammar

/-!
What a line silences, read off its text. A line without a remark silences nothing. Otherwise the
remark that starts furthest to the left decides on its own: a pragma silences everything, and so does
the word that asks to ignore, unless a list that is short enough follows it at once and names a key.
Such a list silences the keys that stand between its commas, apart from white space around them.
-/

namespace SecretScan

namespace Suppression

def Lists (list key : Text) : Prop :=
  key ≠ [] ∧ ∃ pieces, Text.join [','] pieces = list ∧ (∀ piece ∈ pieces, ',' ∉ piece) ∧
    ∃ piece ∈ pieces, Text.trim piece = key

def StartsRemark (text : Text) : Prop :=
  StartsPragma text ∨ ∃ rest, StartsIgnore text rest

structure LeftmostAt (line : Text) (i : Nat) : Prop where
  starts : StartsRemark (line.drop i)
  none_before : ∀ j < i, ¬ StartsRemark (line.drop j)

section Keys

variable {list key : Text}

theorem mem_listedKeys_iff : key ∈ listedKeys list ↔ Lists list key := by
  rw [listedKeys, List.mem_eraseDups, List.mem_filter, List.mem_map, Bool.not_eq_true',
    List.isEmpty_eq_false_iff, and_comm]
  refine and_congr_right fun _ => ⟨fun ⟨piece, hpiece, hkey⟩ => ?_, ?_⟩
  · exact ⟨_, Text.join_splitOn ',' list, fun _ => Text.not_mem_of_mem_splitOn, piece, hpiece, hkey⟩
  · rintro ⟨pieces, rfl, hcomma, piece, hpiece, hkey⟩
    have hsplit := Text.splitOn_join (List.ne_nil_of_mem hpiece) hcomma
    exact ⟨piece, by rw [hsplit]; exact hpiece, hkey⟩

theorem listedKeys_eq_nil_iff : listedKeys list = [] ↔ ∀ key, ¬ Lists list key := by
  simp only [List.eq_nil_iff_forall_not_mem, mem_listedKeys_iff]

/-- What is left of a list of keys without repetitions. -/
theorem nodup_eraseDups (keys : List Text) : keys.eraseDups.Nodup := by
  cases keys with
  | nil => exact List.nodup_nil
  | cons key keys =>
    rw [List.eraseDups_cons, List.nodup_cons, List.mem_eraseDups, List.mem_filter]
    refine ⟨fun hmem => ?_, nodup_eraseDups _⟩
    rw [beq_self_eq_true] at hmem
    cases hmem.2
termination_by keys.length
decreasing_by exact Nat.lt_succ_of_le (List.length_filter_le _ _)

end Keys

section Reading

variable {line text rest list : Text} {i : Nat}

theorem startsRemark_iff : StartsRemark text ↔ ∃ σ, Remark text σ := by
  constructor
  · rintro (hpragma | ⟨rest, hignore⟩)
    · exact ⟨.all, .pragma hpragma⟩
    · exact exists_remark_of_startsIgnore hignore
  · rintro ⟨σ, hpragma | ⟨hignore, -⟩ | ⟨hignore, -, -⟩⟩
    · exact .inl hpragma
    · exact .inr ⟨_, hignore⟩
    · exact .inr ⟨_, hignore⟩

/-- What the leftmost remark says is what the line silences. -/
theorem LeftmostAt.ofLine?_eq (h : LeftmostAt line i) {σ : Suppression}
    (hremark : Remark (line.drop i) σ) : ofLine? line = some σ :=
  ofLine?_eq_some_iff.2
    ⟨i, hremark, fun j hj τ hτ => h.none_before j hj (startsRemark_iff.2 ⟨τ, hτ⟩)⟩

end Reading

/-- A line silences nothing exactly when no remark occurs in it; otherwise only the leftmost remark
counts. A pragma silences everything. So does the word that asks to ignore, unless a list in brackets
follows it that is short enough and names a key; then these keys are silenced. -/
theorem ofLine?_reads_leftmost (line : Text) :
    (ofLine? line = none ↔ ∀ i, ¬ StartsRemark (line.drop i)) ∧
      ∀ i, LeftmostAt line i →
        (StartsPragma (line.drop i) → ofLine? line = some .all) ∧
        ∀ rest, StartsIgnore (line.drop i) rest →
          (∀ list, StartsList rest list → (∃ key, Lists list key) →
            ∃ keys, ofLine? line = some (.keys keys) ∧ keys.Nodup ∧
              ∀ key, key ∈ keys ↔ Lists list key) ∧
          ((∀ list, StartsList rest list → ∀ key, ¬ Lists list key) →
            ofLine? line = some .all) := by
  refine ⟨?_, fun i hleftmost => ⟨fun hpragma => ?_, fun rest hignore => ⟨?_, fun hblank => ?_⟩⟩⟩
  · simp only [ofLine?_eq_none_iff, startsRemark_iff, not_exists]
  · exact hleftmost.ofLine?_eq (.pragma hpragma)
  · intro list hlist hkey
    have hkeys : listedKeys list ≠ [] := by
      rw [Ne, listedKeys_eq_nil_iff, not_forall_not]
      exact hkey
    exact ⟨_, hleftmost.ofLine?_eq (.listed hignore hlist hkeys), nodup_eraseDups _,
      fun key => mem_listedKeys_iff⟩
  · exact hleftmost.ofLine?_eq
      (.bare hignore fun list hlist => listedKeys_eq_nil_iff.2 (hblank list hlist))

def kelvinRemark : Text := "x // \u212Aeyscan:Ignore[ jwt , ,jwt] pragma: no keyscan"

/-- The list of the first remark names one key, twice, and the second remark does not count. -/
theorem ofLine?_reads_leftmost_kelvinRemark :
    LeftmostAt kelvinRemark 5 ∧ StartsList (kelvinRemark.drop 19) " jwt , ,jwt" ∧
      Lists " jwt , ,jwt" "jwt" ∧
      ∃ keys, ofLine? kelvinRemark = some (.keys keys) ∧ keys.Nodup ∧
        ∀ key, key ∈ keys ↔ Lists " jwt , ,jwt" key := by
  have hignore : StartsIgnore (kelvinRemark.drop 5) (kelvinRemark.drop 19) := by
    refine ⟨"\u212Aeyscan:Ignore", by decide +kernel, ?_⟩
    unfold Spells
    decide +kernel
  have hleftmost : LeftmostAt kelvinRemark 5 := by
    refine ⟨.inr ⟨_, hignore⟩, fun j hj hremark => ?_⟩
    have hheads : ∀ j < 5, (kelvinRemark.drop j).head?.any
        (fun c => decide (SameLetter 'p' c ∨ SameLetter 'k' c)) = false := by decide +kernel
    obtain ⟨σ, hσ⟩ := startsRemark_iff.1 hremark
    exact not_remark_of_head (hheads j hj) hσ
  have hlist : StartsList (kelvinRemark.drop 19) " jwt , ,jwt" :=
    ⟨" pragma: no keyscan", by decide +kernel, by decide, by decide, by decide⟩
  have hkey : Lists " jwt , ,jwt" "jwt" := mem_listedKeys_iff.1 (by decide +kernel)
  obtain ⟨-, hreads⟩ := ofLine?_reads_leftmost kelvinRemark
  exact ⟨hleftmost, hlist, hkey, ((hreads 5 hleftmost).2 _ hignore).1 _ hlist ⟨_, hkey⟩⟩

end Suppression

end SecretScan
