import SecretScan.Proofs.FindingOrigins
import SecretScan.Proofs.PatternSearch

/-!
How much a match can capture. The number of characters that a plan takes lies between bounds that
can be read off the plan, and so does the number of those that a group takes which every way of the
plan goes through. Every built-in signature captures its secret as its first group; this group takes
part in every match and is never empty, and no line is so long that it could take more than 2005
characters.
-/

namespace SecretScan

theorem Match.group?_eq_some_iff {m : Match} {index start stop : Nat} :
    m.group? index = some (start, stop) ↔
      m.slots.lookup (2 * index) = some start ∧ m.slots.lookup (2 * index + 1) = some stop := by
  unfold group?
  split
  · rename_i hstart hstop
    simp [hstart, hstop]
  · rename_i hnone
    exact ⟨nofun, fun h => (hnone _ _ h.1 h.2).elim⟩

namespace Plan

def leastLength : Plan → Nat
  | .empty => 0
  | .set _ => 1
  | .look _ => 0
  | .seq a b => a.leastLength + b.leastLength
  | .alt _ a b => min a.leastLength b.leastLength
  | .capture _ a => a.leastLength
  | .option _ _ _ => 0
  | .loop _ a _ => a.leastLength
  | .span _ _ least _ _ => least

def mostLength? : Plan → Option Nat
  | .empty => some 0
  | .set _ => some 1
  | .look _ => some 0
  | .seq a b => a.mostLength?.bind fun m => b.mostLength?.map (m + ·)
  | .alt _ a b => a.mostLength?.bind fun m => b.mostLength?.map (max m)
  | .capture _ a => a.mostLength?
  | .option _ a _ => a.mostLength?
  | .loop _ _ _ => none
  | .span _ _ _ most _ => most

def groups : Plan → List Nat
  | .empty => []
  | .set _ => []
  | .look _ => []
  | .seq a b => a.groups ++ b.groups
  | .alt _ a b => a.groups ++ b.groups
  | .capture index a => index :: a.groups
  | .option _ a _ => a.groups
  | .loop _ a _ => a.groups
  | .span _ _ _ _ _ => []

/-- Every way of the plan goes through the group, which takes a number of characters within the
bounds. -/
def capturesWithin (index least most : Nat) : Plan → Bool
  | .seq a b => b.capturesWithin index least most ||
      (a.capturesWithin index least most && !b.groups.contains index)
  | .alt _ a b => a.capturesWithin index least most && b.capturesWithin index least most
  | .capture i a =>
    if i = index then
      !a.groups.contains index && least ≤ a.leastLength && a.mostLength?.any (· ≤ most)
    else a.capturesWithin index least most
  | _ => false

section Lengths

variable {line : Text} {p : Plan} {i : Nat} {w : Nat × Slots}

theorem leastLength_le_of_mem_ways (h : w ∈ ways line p i) : i + p.leastLength ≤ w.1 := by
  induction p generalizing i w with
  | empty =>
    obtain rfl := List.mem_singleton.1 h
    exact Nat.le_refl i
  | set s =>
    obtain ⟨-, rfl⟩ := mem_ways_set_iff.1 h
    exact Nat.le_refl (i + 1)
  | look l =>
    obtain ⟨-, rfl⟩ := mem_ways_look_iff.1 h
    exact Nat.le_refl i
  | seq a b iha ihb =>
    obtain ⟨u, hu, v, hv, rfl⟩ := mem_ways_seq_iff.1 h
    have hfirst := iha hu
    have hsecond := ihb hv
    simp only [leastLength]
    omega
  | alt place a b iha ihb =>
    rw [leastLength]
    rcases List.mem_append.1 h with h | h
    · have hfirst := iha h
      omega
    · have hsecond := ihb h
      omega
  | capture index a ih =>
    obtain ⟨u, hu, rfl⟩ := mem_ways_capture_iff.1 h
    have hinner := ih hu
    exact hinner
  | option place a greedy ih =>
    rcases mem_ways_option_iff.1 h with h | rfl
    · exact Nat.le_trans (Nat.le_add_right _ _) (ih h)
    · exact Nat.le_refl i
  | loop place a greedy ih => cases h
  | span place s least most greedy =>
    obtain ⟨run, after, -, -, hstop, hleast, -⟩ := mem_stops_iff.1 (mem_ways_span_iff.1 h).2
    rw [leastLength]
    omega

theorem le_mostLength_of_mem_ways (h : w ∈ ways line p i) {most : Nat}
    (hmost : p.mostLength? = some most) : w.1 ≤ i + most := by
  induction p generalizing i w most with
  | empty =>
    obtain rfl := List.mem_singleton.1 h
    exact Nat.le_add_right i most
  | set s =>
    obtain ⟨-, rfl⟩ := mem_ways_set_iff.1 h
    obtain rfl := Option.some.inj hmost
    exact Nat.le_refl (i + 1)
  | look l =>
    obtain ⟨-, rfl⟩ := mem_ways_look_iff.1 h
    exact Nat.le_add_right i most
  | seq a b iha ihb =>
    obtain ⟨first, ha, second, hb, rfl⟩ : ∃ first, a.mostLength? = some first ∧
        ∃ second, b.mostLength? = some second ∧ first + second = most := by
      simpa [mostLength?, Option.bind_eq_some_iff] using hmost
    obtain ⟨u, hu, v, hv, rfl⟩ := mem_ways_seq_iff.1 h
    have hfirst := iha hu ha
    have hsecond := ihb hv hb
    simp only
    omega
  | alt place a b iha ihb =>
    obtain ⟨first, ha, second, hb, rfl⟩ : ∃ first, a.mostLength? = some first ∧
        ∃ second, b.mostLength? = some second ∧ max first second = most := by
      simpa [mostLength?, Option.bind_eq_some_iff] using hmost
    rcases List.mem_append.1 h with h | h
    · have hfirst := iha h ha
      omega
    · have hsecond := ihb h hb
      omega
  | capture index a ih =>
    obtain ⟨u, hu, rfl⟩ := mem_ways_capture_iff.1 h
    have hinner := ih hu hmost
    exact hinner
  | option place a greedy ih =>
    rcases mem_ways_option_iff.1 h with h | rfl
    · exact ih h hmost
    · exact Nat.le_add_right i most
  | loop place a greedy ih => cases h
  | span place s least bound greedy =>
    obtain ⟨run, after, -, -, hstop, -, hbound⟩ := mem_stops_iff.1 (mem_ways_span_iff.1 h).2
    have hlength : run.length ≤ most := hbound most hmost
    omega

/-- Only groups of the plan are added. -/
theorem mem_groups_of_mem_ways (h : w ∈ ways line p i) {slot : Nat × Nat} (hslot : slot ∈ w.2) :
    slot.1 / 2 ∈ p.groups := by
  induction p generalizing i w with
  | empty =>
    obtain rfl := List.mem_singleton.1 h
    cases hslot
  | set s =>
    obtain ⟨-, rfl⟩ := mem_ways_set_iff.1 h
    cases hslot
  | look l =>
    obtain ⟨-, rfl⟩ := mem_ways_look_iff.1 h
    cases hslot
  | seq a b iha ihb =>
    obtain ⟨u, hu, v, hv, rfl⟩ := mem_ways_seq_iff.1 h
    rcases List.mem_append.1 hslot with hslot | hslot
    · exact List.mem_append_right _ (ihb hv hslot)
    · exact List.mem_append_left _ (iha hu hslot)
  | alt place a b iha ihb =>
    rcases List.mem_append.1 h with h | h
    · exact List.mem_append_left _ (iha h hslot)
    · exact List.mem_append_right _ (ihb h hslot)
  | capture index a ih =>
    obtain ⟨u, hu, rfl⟩ := mem_ways_capture_iff.1 h
    have hends : (2 * index + 1) / 2 = index ∧ 2 * index / 2 = index := by omega
    rcases List.mem_append.1 hslot with hslot | hslot
    · rcases List.mem_cons.1 hslot with rfl | hslot
      · exact List.mem_cons.2 (.inl hends.1)
      · exact List.mem_cons_of_mem _ (ih hu hslot)
    · obtain rfl := List.mem_singleton.1 hslot
      exact List.mem_cons.2 (.inl hends.2)
  | option place a greedy ih =>
    rcases mem_ways_option_iff.1 h with h | rfl
    · exact ih h hslot
    · cases hslot
  | loop place a greedy ih => cases h
  | span place s least most greedy =>
    rw [(mem_ways_span_iff.1 h).1] at hslot
    cases hslot

/-- Nothing is known about a group that the plan does not have. -/
theorem lookup_eq_none_of_mem_ways (h : w ∈ ways line p i) {index key : Nat}
    (hindex : index ∉ p.groups) (hkey : key / 2 = index) : w.2.lookup key = none := by
  refine List.lookup_eq_none_iff.2 fun slot hslot => ?_
  have hmem := mem_groups_of_mem_ways h hslot
  have hne : slot.1 ≠ key := fun heq => hindex (hkey ▸ heq ▸ hmem)
  simpa using fun heq => hne heq.symm

/-- A group takes what the plan in it takes. -/
theorem exists_group_of_mem_ways {index least most : Nat} (h : w ∈ ways line p i)
    (hgroup : index ∉ p.groups) (hleast : least ≤ p.leastLength)
    (hmost : p.mostLength?.any (· ≤ most) = true) :
    let slots : Slots := (2 * index + 1, w.1) :: w.2 ++ [(2 * index, i)]
    slots.lookup (2 * index) = some i ∧ slots.lookup (2 * index + 1) = some w.1 ∧
      i + least ≤ w.1 ∧ w.1 ≤ i + most := by
  obtain ⟨bound, hbound, hle⟩ := (Option.any_eq_true _ _).1 hmost
  have hle : bound ≤ most := of_decide_eq_true hle
  have hfirst := leastLength_le_of_mem_ways h
  have hlast := le_mostLength_of_mem_ways h hbound
  have hnone : w.2.lookup (2 * index) = none := lookup_eq_none_of_mem_ways h hgroup (by omega)
  have hne : (2 * index == 2 * index + 1) = false := by simp
  refine ⟨?_, ?_, by omega, by omega⟩
  · simp [List.lookup_append, List.lookup_cons, hne, hnone]
  · simp

/-- The ends of a group around it are out of the way of what another group has taken. -/
theorem lookup_capture_of_ne {slots : Slots} {index start stop key value : Nat}
    (hkey : key / 2 ≠ index) (h : slots.lookup key = some value) :
    ((2 * index + 1, stop) :: slots ++ [(2 * index, start)]).lookup key = some value := by
  have hne : (key == 2 * index + 1) = false := by
    rw [beq_eq_false_iff_ne]
    omega
  simp [List.lookup_append, List.lookup_cons, hne, h]

/-- The group takes part in every way of the plan, and takes as much as the bounds allow. Of two
plans in a row, the entries of the second stand first, but none of them is about a group of the
first. -/
theorem exists_group_of_capturesWithin {index least most : Nat}
    (hcaptures : p.capturesWithin index least most = true) (h : w ∈ ways line p i) :
    ∃ start stop, w.2.lookup (2 * index) = some start ∧ w.2.lookup (2 * index + 1) = some stop ∧
      i ≤ start ∧ start + least ≤ stop ∧ stop ≤ start + most ∧ stop ≤ w.1 := by
  induction p generalizing i w with
  | seq a b iha ihb =>
    obtain ⟨u, hu, v, hv, rfl⟩ := mem_ways_seq_iff.1 h
    have hfirst := leastLength_le_of_mem_ways hu
    have hsecond := leastLength_le_of_mem_ways hv
    simp only [List.lookup_append]
    rw [capturesWithin, Bool.or_eq_true] at hcaptures
    rcases hcaptures with hb | ha
    · obtain ⟨start, stop, hstart, hstop, hle, hbounds⟩ := ihb hb hv
      exact ⟨start, stop, by rw [hstart]; rfl, by rw [hstop]; rfl, by omega, hbounds⟩
    · obtain ⟨ha, hgroup⟩ : a.capturesWithin index least most = true ∧ index ∉ b.groups := by
        simpa using ha
      obtain ⟨start, stop, hstart, hstop, hle, hleast, hmost, hlast⟩ := iha ha hu
      have hnone {key : Nat} (hkey : key / 2 = index) : v.2.lookup key = none :=
        lookup_eq_none_of_mem_ways hv hgroup hkey
      refine ⟨start, stop, ?_, ?_, hle, hleast, hmost, by omega⟩
      · rw [hnone (by omega), hstart]
        rfl
      · rw [hnone (by omega), hstop]
        rfl
  | alt place a b iha ihb =>
    rw [capturesWithin, Bool.and_eq_true] at hcaptures
    rcases List.mem_append.1 h with h | h
    · exact iha hcaptures.1 h
    · exact ihb hcaptures.2 h
  | capture k a ih =>
    obtain ⟨u, hu, rfl⟩ := mem_ways_capture_iff.1 h
    rw [capturesWithin] at hcaptures
    split at hcaptures
    · rename_i hk
      obtain rfl := hk
      rw [Bool.and_eq_true, Bool.and_eq_true, Bool.not_eq_true', decide_eq_true_eq] at hcaptures
      obtain ⟨⟨hgroup, hleast⟩, hmost⟩ := hcaptures
      have hgroup : k ∉ a.groups := by simpa using hgroup
      obtain ⟨hstart, hstop, hlower, hupper⟩ := exists_group_of_mem_ways hu hgroup hleast hmost
      exact ⟨i, u.1, hstart, hstop, Nat.le_refl i, hlower, hupper, Nat.le_refl _⟩
    · rename_i hk
      obtain ⟨start, stop, hstart, hstop, hbounds⟩ := ih hcaptures hu
      exact ⟨start, stop, lookup_capture_of_ne (by omega) hstart,
        lookup_capture_of_ne (by omega) hstop, hbounds⟩
  | _ => cases hcaptures

end Lengths

end Plan

/-- The first group takes part in the match, within its bounds, and takes at least one character and
at most a number of them. -/
def Match.SecretWithin (m : Match) (most : Nat) : Prop :=
  ∃ start stop, m.group? 1 = some (start, stop) ∧ m.start ≤ start ∧ start < stop ∧
    stop ≤ start + most ∧ stop ≤ m.stop

theorem Pattern.secretWithin_of_matchFrom? {source : Text} {p : Pattern}
    (hp : compile source = .ok p) (hfree : p.plan.isLoopFree = true) {most : Nat}
    (hcaptures : p.plan.capturesWithin 1 1 most = true) {line : Text} {position : Nat} {m : Match}
    (hm : p.matchFrom? line position = some m) : m.SecretWithin most := by
  obtain ⟨-, -, hhead, -⟩ := (matchFrom?_eq_some_iff hfree (nodup_places_of_compile hp)).1 hm
  obtain ⟨start, stop, hstart, hstop, hbounds⟩ :=
    Plan.exists_group_of_capturesWithin hcaptures (List.mem_of_mem_head? hhead)
  exact ⟨start, stop, Match.group?_eq_some_iff.2 ⟨hstart, hstop⟩, hbounds⟩

namespace Signature

/-- All built-in patterns compile. Their plans are loop-free and go through the first group with at
most 2005 characters. Patterns spelled out as lists of characters take the kernel far less time. -/
theorem capturesWithin_of_mem_definitions : ∀ d ∈ definitions,
    (Pattern.compile d.pattern).toOption.any
      (fun p => p.plan.isLoopFree && p.plan.capturesWithin 1 1 2005) = true := by
  simp only [definitions, cloud, payment, hosting, chat, tokens, messaging, storage, contextual,
    List.cons_append, List.nil_append, List.forall_mem_cons, List.not_mem_nil, false_imp_iff,
    implies_true, and_true]
  repeat rw [String.toList_ofList]
  decide +kernel

theorem exists_compile_of_mem_definitions {d : Definition} (hd : d ∈ definitions) :
    ∃ s, d.compile = .ok s ∧ ∀ line position m,
      s.pattern.matchFrom? line position = some m → m.SecretWithin 2005 := by
  have hcheck := capturesWithin_of_mem_definitions d hd
  rw [Option.any_eq_true] at hcheck
  obtain ⟨p, hp, hplan⟩ := hcheck
  rw [Bool.and_eq_true] at hplan
  have hcompile := toOption_eq_some_iff.1 hp
  refine ⟨⟨d.key, d.name, d.severity, d.description, p⟩, ?_, fun line position m hm => ?_⟩
  · rw [Definition.compile, hcompile]
    rfl
  · exact Pattern.secretWithin_of_matchFrom? hcompile hplan.1 hplan.2 hm

theorem secretWithin_of_mem_allMatches {s : Signature} (hs : s ∈ builtin) {line : Text} {m : Match}
    (hm : m ∈ s.allMatches line) : m.SecretWithin 2005 ∧ m.stop ≤ line.length := by
  obtain ⟨d, hd, hcompile⟩ := List.mem_filterMap.1 hs
  obtain ⟨other, hother, hsecret⟩ := exists_compile_of_mem_definitions hd
  obtain rfl : other = s := Except.ok.inj (hother.symm.trans (toOption_eq_some_iff.1 hcompile))
  obtain ⟨position, hposition⟩ := (other.successive_allMatches line).exists_search hm
  exact ⟨hsecret line position m hposition,
    (other.pattern.inLine_matchFrom? line).stop_le position m hposition⟩

end Signature

/-- Every built-in pattern compiles, and its first group takes part in all of its matches. What a
finding of the built-in signatures reports as its match is the text of this group, which is not
empty and has at most 2005 characters. -/
theorem scanBuiltin_captured (content : Text) (o : ScanOptions) :
    (∀ d ∈ Signature.definitions, ∃ s, d.compile = .ok s ∧ ∀ line position m,
      s.pattern.matchFrom? line position = some m → m.SecretWithin 2005) ∧
      ∀ f ∈ (scanBuiltin content o).findings, ∃ line s m start stop,
        (line, f.line) ∈ Detector.numbered content ∧ s ∈ Signature.builtin ∧
        m ∈ s.allMatches line ∧ f = s.finding line (Text.trim line) f.line m ∧
        m.group? 1 = some (start, stop) ∧ f.matched = Text.slice line start stop ∧
        f.matched ≠ [] ∧ f.matched.length ≤ 2005 := by
  refine ⟨fun d hd => Signature.exists_compile_of_mem_definitions hd, fun f hf => ?_⟩
  obtain ⟨line, number, hline, hf⟩ := (Detector.mem_scanText fun _ => rfl).1 hf
  obtain ⟨s, hs, hf⟩ := (Signature.mem_scanLineAll fun _ => rfl).1 hf
  rw [Signature.scanLine_eq] at hf
  obtain ⟨m, hm, rfl⟩ := List.mem_map.1 hf
  have hs : s ∈ Signature.builtin := (List.mem_filter.1 hs).1
  have hm : m ∈ s.allMatches line := List.mem_of_mem_take hm
  obtain ⟨⟨start, stop, hgroup, -, hlt, hmost, hstop⟩, hlast⟩ :=
    Signature.secretWithin_of_mem_allMatches hs hm
  have hmatched : Signature.captured line m = Text.slice line start stop := by
    rw [Signature.captured, hgroup]
  have hlength : (Text.slice line start stop).length = stop - start := by
    rw [Text.slice, List.length_take, List.length_drop]
    omega
  refine ⟨line, s, m, start, stop, hline, hs, hm, rfl, hgroup, hmatched, ?_, ?_⟩
  · refine List.ne_nil_of_length_pos ?_
    change 0 < (Signature.captured line m).length
    rw [hmatched, hlength]
    omega
  · change (Signature.captured line m).length ≤ 2005
    rw [hmatched, hlength]
    omega

end SecretScan
