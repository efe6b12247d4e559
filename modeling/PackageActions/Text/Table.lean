/-!
# Tables

A table is drawn with box characters: a double rule under the header, dashed rules between rows, and in
each column as much room as its longest cell needs.
-/

namespace PackageActions.Text

/-- The characters of a horizontal rule: at the left, along it, between columns, at the right. -/
structure Rule where
  left : Char
  fill : Char
  cross : Char
  right : Char

namespace Table

def top : Rule := ⟨'┌', '─', '┬', '┐'⟩

def underHeader : Rule := ⟨'╞', '═', '╪', '╡'⟩

def between : Rule := ⟨'├', '╌', '┼', '┤'⟩

def bottom : Rule := ⟨'└', '─', '┴', '┘'⟩

/-- The widths of columns that also have room for one more row. -/
def widen : List Nat → List String → List Nat
  | widths, [] => widths
  | [], cells => cells.map String.length
  | width :: widths, cell :: cells => max width cell.length :: widen widths cells

/-- The widths of the columns of some rows. -/
def columnWidths (rows : List (List String)) : List Nat := rows.foldl widen []

/-- A rule across columns, each with a blank on both sides. -/
def ruleText (rule : Rule) (widths : List Nat) : String :=
  let runs := widths.map fun width => String.ofList (List.replicate (width + 2) rule.fill)
  rule.left.toString ++ String.intercalate rule.cross.toString runs ++ rule.right.toString

/-- A text filled up with blanks. -/
def padded (width : Nat) (cell : String) : String :=
  cell ++ String.ofList (List.replicate (width - cell.length) ' ')

/-- The cells of a row in their columns. -/
def rowText (widths : List Nat) (cells : List String) : String :=
  "│ " ++ String.intercalate " ┆ " (List.zipWith padded widths cells) ++ " │"

/-- The lines of a table. -/
def lines (header : List String) (rows : List (List String)) : List String :=
  let widths := columnWidths (header :: rows)
  let body := (rows.map (rowText widths)).intersperse (ruleText between widths)
  [ruleText top widths, rowText widths header, ruleText underHeader widths] ++ body ++
    [ruleText bottom widths]

end Table

end PackageActions.Text
