import QueryPhrase.Term
import QueryPhrase.Text.Width

/-!
# Tables

Tables drawn with box characters: a heading, a double line below it, and rows. A
column is as wide as its widest line on a terminal and at least one character
wide; every line has a space on each side. A line feed in a cell starts another
line of the same row.
-/

namespace QueryPhrase.Terminal

/-- A heading and rows with as many cells. -/
structure Table where
  /-- One title for each column. -/
  heading : List Text
  /-- The rows, a cell for each column. -/
  rows : List (List Text)
deriving Repr

namespace Table

/-- The lines of a cell. -/
def linesOf (cell : Text) : List Text := Text.splitAt '\n' cell

/-- The width of a cell: that of its widest line. -/
def cellWidth (cell : Text) : Nat :=
  (linesOf cell).foldl (fun width line => max width (textWidth line)) 0

/-- The widths of two rows of widths, column by column the larger one. -/
def widest (a b : List Nat) : List Nat := List.zipWith max a b

/-- The width of every column. -/
def widths (table : Table) : List Nat :=
  table.rows.foldl (fun sofar row => widest sofar (row.map cellWidth))
    (table.heading.map fun title => max 1 (cellWidth title))

/-- The characters that draw a horizontal line. -/
structure Rule where
  left : Char
  along : Char
  between : Char
  right : Char

def top : Rule := ⟨'┌', '─', '┬', '┐'⟩

def middle : Rule := ⟨'╞', '═', '╪', '╡'⟩

def bottom : Rule := ⟨'└', '─', '┴', '┘'⟩

/-- A horizontal line over columns of the given widths. -/
def Rule.draw (rule : Rule) (widths : List Nat) : Text :=
  rule.left :: (Text.joined [rule.between]
    (widths.map fun width => List.replicate (width + 2) rule.along) ++
    [rule.right])

/-- A line of a cell with its padding. -/
def paddedLine (width : Nat) (line : Text) : Text :=
  ' ' :: (line ++ Text.spaces (width - textWidth line) ++ [' '])

/-- One line of a row. -/
def drawLine (widths : List Nat) (lines : List Text) : Text :=
  '│' :: (Text.joined "┆" (List.zipWith paddedLine widths lines) ++ ['│'])

/-- The lines of a row: as many as its tallest cell has. -/
def drawRow (widths : List Nat) (row : List Text) : List Text :=
  let cells := row.map linesOf
  let height := cells.foldl (fun height cell => max height cell.length) 0
  (List.range height).map fun index =>
    drawLine widths (cells.map fun cell => cell[index]?.getD [])

def draw (table : Table) : Text :=
  let widths := table.widths
  Text.joined "\n" <|
    [top.draw widths] ++ drawRow widths table.heading ++ [middle.draw widths] ++
      table.rows.flatMap (drawRow widths) ++ [bottom.draw widths]

end Table

/-! ## Tables of the program -/

/-- The row of a term. -/
def termRow (index : Nat) (term : Term) : List Text :=
  [Text.ofNat index, term.kind.name, term.column.getD [],
    term.operator.keyword, term.value.getD []]

def termTable (terms : List Term) : Text :=
  Table.draw ⟨["#", "kind", "column", "operator", "value"],
    terms.mapIdx termRow⟩

/-- Pairs of a name and a value, a row each. -/
def pairTable (pairs : List (Text × Text)) : Text :=
  Table.draw ⟨["name", "value"], pairs.map fun pair => [pair.1, pair.2]⟩

end QueryPhrase.Terminal
