import SecretScan.Text.Basic

/-!
Two written forms of paths. The label of a path is what reports show; its relative form, made of
segments between slashes, is what globs are compared with. Both read a backslash as a slash.
-/

namespace SecretScan.Path

def label (path : Text) : Text :=
  match Text.replaceChar '\\' '/' path with
  | '.' :: '/' :: rest => rest
  | slashed => slashed

def segments (path : Text) : List Text :=
  (Text.splitOn '/' (Text.replaceChar '\\' '/' path)).filter fun s => !s.isEmpty && s != ['.']

def relative (path : Text) : Text :=
  Text.join ['/'] (segments path)

theorem segments_append_slash (a b : Text) :
    segments (a ++ '/' :: b) = segments a ++ segments b := by
  have h : Text.replaceChar '\\' '/' (a ++ '/' :: b) =
      Text.replaceChar '\\' '/' a ++ '/' :: Text.replaceChar '\\' '/' b := by
    simp [Text.replaceChar]
  rw [segments, h, Text.splitOn_append_sep, List.filter_append]
  rfl

theorem slash_not_mem_of_mem_segments {s path : Text} (h : s ∈ segments path) : '/' ∉ s :=
  Text.not_mem_of_mem_splitOn (List.mem_filter.1 h).1

theorem backslash_not_mem_of_mem_segments {s path : Text} (h : s ∈ segments path) :
    '\\' ∉ s := by
  intro hc
  have hm := Text.mem_of_mem_splitOn (List.mem_filter.1 h).1 hc
  grind [Text.replaceChar]

theorem backslash_not_mem_join {names : List Text} (h : ∀ s ∈ names, '\\' ∉ s) :
    '\\' ∉ Text.join ['/'] names := by
  intro hc
  rcases Text.mem_join hc with hslash | ⟨s, hs, hback⟩
  · simp at hslash
  · exact h s hs hback

/-- The relative form of a path has the segments of the path. -/
theorem segments_relative (path : Text) : segments (relative path) = segments path := by
  have hb : '\\' ∉ relative path :=
    backslash_not_mem_join fun s hs => backslash_not_mem_of_mem_segments hs
  have hr : Text.replaceChar '\\' '/' (relative path) = relative path :=
    Text.replaceChar_of_not_mem '/' hb
  rw [segments, hr]
  by_cases hs : segments path = []
  · simp [relative, hs, Text.join, List.intercalate, Text.splitOn]
  · rw [relative, Text.splitOn_join hs fun s h => slash_not_mem_of_mem_segments h]
    exact List.filter_eq_self.2 fun s h => (List.mem_filter.1 h).2

theorem relative_relative (path : Text) : relative (relative path) = relative path := by
  rw [relative, segments_relative, relative]

def lastSegment (path : Text) : Text :=
  (Text.splitOn '/' path).getLastD []

end SecretScan.Path
