import SecretScan.Text.DisplayWidth

/-!
Tables drawn with lines. Every column is as wide as its widest cell, cells have a blank on both
sides, and a line stands between any two rows. A cell with several lines makes its row higher.
-/

namespace SecretScan.Report.Table

def cellLines (cell : Text) : List Text :=
  Text.splitOn '\n' cell

def cellWidth (cell : Text) : Nat :=
  ((cellLines cell).map Text.displayWidth).foldl max 0

def columnWidths (rows : List (List Text)) : List Nat :=
  rows.foldl (fun widths row =>
    (List.range (max widths.length row.length)).map fun i =>
      max (widths[i]?.getD 0) ((row[i]?.map cellWidth).getD 0)) []

def rule (left line cross right : Char) (widths : List Nat) : Text :=
  left :: (Text.join [cross] (widths.map fun w => List.replicate (w + 2) line) ++ [right, '\n'])

def padded (width : Nat) (s : Text) : Text :=
  ' ' :: (s ++ List.replicate (width - Text.displayWidth s + 1) ' ')

def row (widths : List Nat) (cells : List Text) : Text :=
  let columns := cells.map cellLines
  let height := (columns.map List.length).foldl max 1
  (List.range height).flatMap fun i =>
    '│' :: (Text.join ['┆'] ((widths.zip columns).map fun (width, lines) =>
      padded width (lines[i]?.getD [])) ++ ['│', '\n'])

def draw (header : List Text) (rows : List (List Text)) : Text :=
  let widths := columnWidths (header :: rows)
  let between := rule '├' '╌' '┼' '┤' widths
  rule '┌' '─' '┬' '┐' widths ++ row widths header ++ rule '╞' '═' '╪' '╡' widths ++
    Text.join between (rows.map (row widths)) ++ rule '└' '─' '┴' '┘' widths

end SecretScan.Report.Table
