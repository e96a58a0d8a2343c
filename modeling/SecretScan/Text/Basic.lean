import SecretScan.Text.CodeRange

/-!
Texts as lists of characters, and the few operations that the scanner needs on them: lines, trimmed
texts, splitting at a character and looking for one text inside another.
-/

namespace SecretScan

abbrev Text := List Char

namespace Text

instance : Coe String Text := ⟨String.toList⟩

/-- The characters with the Unicode property White_Space. -/
def isWhitespace (c : Char) : Bool :=
  let code := c.toNat
  (9 ≤ code && code ≤ 13) || code == 0x20 || code == 0x85 || code == 0xA0 || code == 0x1680 ||
    (0x2000 ≤ code && code ≤ 0x200A) || code == 0x2028 || code == 0x2029 || code == 0x202F ||
    code == 0x205F || code == 0x3000

def trimStart (s : Text) : Text :=
  s.dropWhile isWhitespace

def trimEnd (s : Text) : Text :=
  (s.reverse.dropWhile isWhitespace).reverse

def trim (s : Text) : Text :=
  trimEnd (trimStart s)

/-- Trimming takes white space away and nothing else. -/
theorem exists_eq_trim (s : Text) : ∃ before behind, s = before ++ trim s ++ behind ∧
    before.all isWhitespace = true ∧ behind.all isWhitespace = true := by
  refine ⟨s.takeWhile isWhitespace, ((trimStart s).reverse.takeWhile isWhitespace).reverse,
    ?_, List.all_takeWhile, ?_⟩
  · have hend : trim s ++ ((trimStart s).reverse.takeWhile isWhitespace).reverse =
        trimStart s := by
      rw [trim, trimEnd, ← List.reverse_append, List.takeWhile_append_dropWhile,
        List.reverse_reverse]
    rw [List.append_assoc, hend, trimStart, List.takeWhile_append_dropWhile]
  · rw [List.all_reverse]
    exact List.all_takeWhile

def splitStep (sep c : Char) (pieces : List Text) : List Text :=
  if c == sep then [] :: pieces
  else match pieces with
    | [] => [[c]]
    | piece :: rest => (c :: piece) :: rest

def splitOn (sep : Char) (s : Text) : List Text :=
  s.foldr (splitStep sep) [[]]

def join (sep : Text) (pieces : List Text) : Text :=
  sep.intercalate pieces

theorem splitStep_ne_nil (sep c : Char) (pieces : List Text) : splitStep sep c pieces ≠ [] := by
  unfold splitStep
  split
  · simp
  · split <;> simp

theorem splitOn_cons (sep c : Char) (s : Text) :
    splitOn sep (c :: s) = splitStep sep c (splitOn sep s) := rfl

theorem splitOn_ne_nil (sep : Char) (s : Text) : splitOn sep s ≠ [] := by
  cases s with
  | nil => simp [splitOn]
  | cons c s => exact splitStep_ne_nil sep c _

theorem splitStep_append (sep c : Char) {pieces : List Text} (h : pieces ≠ [])
    (more : List Text) : splitStep sep c (pieces ++ more) = splitStep sep c pieces ++ more := by
  unfold splitStep
  split
  · rfl
  · obtain ⟨piece, rest, rfl⟩ := List.exists_cons_of_ne_nil h
    rfl

/-- A separator parts the pieces in front of it from those behind it. -/
theorem splitOn_append_sep (sep : Char) (a b : Text) :
    splitOn sep (a ++ sep :: b) = splitOn sep a ++ splitOn sep b := by
  induction a with
  | nil => simp [splitOn, splitStep]
  | cons c a ih =>
    rw [List.cons_append, splitOn_cons, ih, splitOn_cons,
      splitStep_append sep c (splitOn_ne_nil sep a)]

theorem join_cons_cons (sep piece next : Text) (rest : List Text) :
    join sep (piece :: next :: rest) = piece ++ sep ++ join sep (next :: rest) := by
  simp [join, List.intercalate]

theorem mem_join {c : Char} {sep : Text} {pieces : List Text} (h : c ∈ join sep pieces) :
    c ∈ sep ∨ ∃ piece ∈ pieces, c ∈ piece := by
  induction pieces with
  | nil => simp [join, List.intercalate] at h
  | cons piece rest ih =>
    cases rest with
    | nil => exact .inr ⟨piece, by simp, by simpa [join, List.intercalate] using h⟩
    | cons next rest =>
      rw [join_cons_cons, List.mem_append, List.mem_append] at h
      rcases h with (h | h) | h
      · exact .inr ⟨piece, by simp, h⟩
      · exact .inl h
      · rcases ih h with h | ⟨q, hq, hc⟩
        · exact .inl h
        · exact .inr ⟨q, List.mem_cons_of_mem _ hq, hc⟩

theorem mem_join_of_mem {c : Char} {sep piece : Text} {pieces : List Text}
    (hp : piece ∈ pieces) (hc : c ∈ piece) : c ∈ join sep pieces := by
  induction pieces with
  | nil => cases hp
  | cons first rest ih =>
    cases rest with
    | nil =>
      obtain rfl : piece = first := by simpa using hp
      simpa [join, List.intercalate] using hc
    | cons next rest =>
      rw [join_cons_cons, List.mem_append, List.mem_append]
      rcases List.mem_cons.1 hp with rfl | hp
      · exact .inl (.inl hc)
      · exact .inr (ih hp)

/-- Joining undoes splitting. -/
theorem join_splitOn (sep : Char) (s : Text) : join [sep] (splitOn sep s) = s := by
  induction s with
  | nil => rfl
  | cons c s ih =>
    obtain ⟨piece, rest, hs⟩ := List.exists_cons_of_ne_nil (splitOn_ne_nil sep s)
    rw [hs] at ih
    rw [splitOn_cons, hs]
    unfold splitStep
    split
    · rename_i hc
      rw [← ih]
      simp [join, List.intercalate, eq_of_beq hc]
    · rw [← ih]
      cases rest <;> simp [join, List.intercalate]

theorem not_mem_of_mem_splitOn {sep : Char} {piece s : Text} (h : piece ∈ splitOn sep s) :
    sep ∉ piece := by
  induction s generalizing piece with
  | nil => simp_all [splitOn]
  | cons c s ih =>
    obtain ⟨first, rest, hs⟩ := List.exists_cons_of_ne_nil (splitOn_ne_nil sep s)
    rw [splitOn_cons, hs, splitStep] at h
    rw [hs] at ih
    split at h
    · rcases List.mem_cons.1 h with rfl | h
      · simp
      · exact ih h
    · rename_i hc
      rcases List.mem_cons.1 h with rfl | h
      · intro hm
        rcases List.mem_cons.1 hm with rfl | hm
        · exact hc (beq_self_eq_true _)
        · exact ih (List.mem_cons_self ..) hm
      · exact ih (List.mem_cons_of_mem _ h)

theorem splitOn_of_not_mem {sep : Char} {s : Text} (h : sep ∉ s) : splitOn sep s = [s] := by
  induction s with
  | nil => rfl
  | cons c s ih =>
    have hc : (c == sep) = false := beq_false_of_ne fun e => h (e ▸ List.mem_cons_self ..)
    rw [splitOn_cons, ih fun hm => h (List.mem_cons_of_mem _ hm)]
    simp [splitStep, hc]

/-- Splitting undoes joining where no piece has the separator in it. -/
theorem splitOn_join {sep : Char} {pieces : List Text} (hne : pieces ≠ [])
    (h : ∀ piece ∈ pieces, sep ∉ piece) : splitOn sep (join [sep] pieces) = pieces := by
  induction pieces with
  | nil => exact absurd rfl hne
  | cons piece rest ih =>
    have hp := splitOn_of_not_mem (h piece (List.mem_cons_self ..))
    cases rest with
    | nil => simpa [join, List.intercalate] using hp
    | cons next rest =>
      have ih := ih (by simp) fun q hq => h q (List.mem_cons_of_mem _ hq)
      rw [join_cons_cons, List.append_assoc, List.singleton_append, splitOn_append_sep, hp, ih]
      rfl

theorem mem_of_mem_splitOn {c sep : Char} {piece s : Text} (hp : piece ∈ splitOn sep s)
    (hc : c ∈ piece) : c ∈ s :=
  join_splitOn sep s ▸ mem_join_of_mem hp hc

def stripReturn (s : Text) : Text :=
  if s.getLast? == some '\r' then s.dropLast else s

/-- The lines of a text. A line ends with a newline, which a carriage return may precede; neither
belongs to the line. What follows the last newline is a line unless it is empty. -/
def lines (s : Text) : List Text :=
  let pieces := splitOn '\n' s
  let last := pieces.getLastD []
  pieces.dropLast.map stripReturn ++ if last.isEmpty then [] else [last]

/-- A line that is complete stands on its own, whatever follows it. -/
theorem lines_append_newline (a b : Text) :
    lines (a ++ '\n' :: b) = lines (a ++ ['\n']) ++ lines b := by
  have h : splitOn '\n' (a ++ ['\n']) = splitOn '\n' a ++ [[]] := splitOn_append_sep '\n' a []
  obtain ⟨piece, rest, hb⟩ := List.exists_cons_of_ne_nil (splitOn_ne_nil '\n' b)
  simp only [lines, splitOn_append_sep, hb, h]
  simp [List.dropLast_append_of_ne_nil, List.getLast?_cons]

def occursIn (needle : Text) : Text → Bool
  | [] => needle.isEmpty
  | c :: rest => needle.isPrefixOf (c :: rest) || occursIn needle rest

theorem occursIn_iff (needle s : Text) : occursIn needle s = true ↔ needle <:+: s := by
  induction s with
  | nil => rw [occursIn, List.isEmpty_iff, List.infix_nil]
  | cons c rest ih =>
    rw [occursIn, Bool.or_eq_true, List.isPrefixOf_iff_prefix, ih, List.infix_cons_iff]

def replaceChar (old new : Char) (s : Text) : Text :=
  s.map fun c => if c == old then new else c

theorem replaceChar_of_not_mem {old : Char} (new : Char) {s : Text} (h : old ∉ s) :
    replaceChar old new s = s := by
  rw [replaceChar]
  conv => rhs; rw [← List.map_id s]
  refine List.map_congr_left fun c hc => if_neg ?_
  intro heq
  exact h (eq_of_beq heq ▸ hc)

def ofNat (n : Nat) : Text :=
  Nat.toDigits 10 n

def utf8Width (c : Char) : Nat :=
  c.utf8Size

/-- Texts compare by their characters' code points, which is also the order of their UTF-8 bytes. -/
def le (a b : Text) : Bool :=
  match a, b with
  | [], _ => true
  | _ :: _, [] => false
  | x :: a, y :: b => x.toNat < y.toNat || (x == y && le a b)

protected theorem le_refl (a : Text) : le a a = true := by
  induction a with
  | nil => rfl
  | cons x a ih => simp [le, ih]

protected theorem le_total (a b : Text) : (le a b || le b a) = true := by
  induction a generalizing b with
  | nil => simp [le]
  | cons x a ih =>
    cases b with
    | nil => simp [le]
    | cons y b =>
      have := ih b
      grind [le, Char.toNat_inj]

protected theorem le_trans {a b c : Text} (hab : le a b = true) (hbc : le b c = true) :
    le a c = true := by
  induction a generalizing b c with
  | nil => simp [le]
  | cons x a ih =>
    cases b with
    | nil => simp [le] at hab
    | cons y b =>
      cases c with
      | nil => simp [le] at hbc
      | cons z c =>
        simp only [le, Bool.or_eq_true, decide_eq_true_eq, Bool.and_eq_true, beq_iff_eq] at *
        grind

protected theorem le_antisymm {a b : Text} (hab : le a b = true) (hba : le b a = true) : a = b := by
  induction a generalizing b with
  | nil => cases b <;> simp_all [le]
  | cons x a ih =>
    cases b with
    | nil => simp [le] at hab
    | cons y b =>
      simp only [le, Bool.or_eq_true, decide_eq_true_eq, Bool.and_eq_true, beq_iff_eq] at *
      grind

end Text

end SecretScan
