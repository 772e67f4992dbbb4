import TemplateSwap.CommandLine.Cell

namespace TemplateSwap.CommandLine

structure Column where
  header : String
  alignRight : Bool := false

/-- A table. Each row has a text for every column. -/
structure Table where
  title : String
  columns : List Column
  rows : List (List String)

namespace Table

/-- The texts of a column, its header first. -/
def textsOf (t : Table) (index : Nat) (column : Column) : List String :=
  column.header :: t.rows.map fun row => row[index]?.getD ""

def widths (t : Table) : List Nat :=
  t.columns.mapIdx fun index column => ((t.textsOf index column).map Cell.measure).foldl max 0

/-- A line of the box, with a space on both sides of every cell. -/
def rule (left middle between right : Char) (widths : List Nat) : List Char :=
  left :: [between].intercalate (widths.map fun w => List.replicate (w + 2) middle) ++ [right]

def align (column : Column) (width : Nat) (line : List Char) : List Char :=
  if column.alignRight then Cell.padLeft width (Cell.trimRight line) else Cell.padRight width line

/-- A row of cells, which is as high as the highest of them. -/
def row (bar : Char) (cells : List (Column × Nat × String)) : List (List Char) :=
  let blocks := cells.map fun (column, width, text) => (Cell.lines width text).map (align column width)
  let height := (blocks.map List.length).foldl max 0
  (List.range height).map fun n =>
    let parts := (cells.zip blocks).map fun ((_, width, _), block) =>
      ' ' :: block[n]?.getD (Cell.spaces width) ++ [' ']
    bar :: [bar].intercalate parts ++ [bar]

def cellsOf (t : Table) (widths : List Nat) (texts : List String) : List (Column × Nat × String) :=
  t.columns.zip (widths.zip texts)

/-- The lines of a table. -/
def lines (t : Table) : List String :=
  let widths := t.widths
  let total := widths.foldl (· + ·) 0 + 3 * widths.length + 1
  let title := (Cell.lines total t.title).map (Cell.center total)
  let header := row '┃' (t.cellsOf widths (t.columns.map (·.header)))
  let body := t.rows.flatMap fun texts => row '│' (t.cellsOf widths texts)
  (title ++ [rule '┏' '━' '┳' '┓' widths] ++ header ++ [rule '┡' '━' '╇' '┩' widths] ++ body
    ++ [rule '└' '─' '┴' '┘' widths]).map String.ofList

end Table

end TemplateSwap.CommandLine
