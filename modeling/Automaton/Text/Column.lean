/-!
# Columns

Tables in reports line up by padding each cell with spaces.  Widths count characters, and a cell
that is already too wide is left as it is: columns are padded, never cut.
-/

namespace Automaton.Text

/-- `n` copies of a character. -/
def rule (c : Char) (n : Nat) : String :=
  String.ofList (List.replicate n c)

/-- **Left aligned**: spaces after the cell, up to the given width. -/
def padRight (width : Nat) (cell : String) : String :=
  cell ++ rule ' ' (width - cell.length)

/-- **Right aligned**: spaces before the cell, up to the given width. -/
def padLeft (width : Nat) (cell : String) : String :=
  rule ' ' (width - cell.length) ++ cell

/-- Texts put together with a separator between neighbours. -/
def joined (separator : String) (parts : List String) : String :=
  separator.intercalate parts

/-- **Lines**: every line is followed by a line feed, the last one included. -/
def lines (ls : List String) : String :=
  String.join (ls.map (· ++ "\n"))

@[simp]
theorem lines_nil : lines [] = "" := by
  simp [lines]

end Automaton.Text
