import CommandScript.Screen.Wrap

/-!
# Framed tables and panels

A table has a title above, a heavy frame around its header and a light one around
its rows; a column is as wide as its widest cell, and the widest column gives way
where the table does not fit the screen. A panel is a rounded frame around lines,
as wide as the screen, with a title in its upper edge.
-/

namespace CommandScript.Screen

/-- A character that ends a line where the width of a text is measured. -/
def endsMeasure (c : Char) : Bool :=
  c = '\n' || (0x1C ≤ c.toNat && c.toNat ≤ 0x1E) || c = '\u0085' || c = '\u2028' || c = '\u2029'

/-- The width of the widest line of a text. -/
def measure (t : Text) : Nat :=
  ((t.splitBy fun a b => !(endsMeasure a || endsMeasure b)).map Text.cells).foldl max 0

def cellPadding : Nat := 2

namespace Table

/-- The width that each column asks for, padding included. -/
def wishes (table : Table) : List Nat :=
  table.columns.zipIdx.map fun (column, i) =>
    ((column.header :: table.rows.map (·.getD i [])).map measure).foldl max 0 + cellPadding

/-- Takes the excess from the widest column. -/
def shrunk (available : Nat) (widths : List Nat) : List Nat :=
  let widths := widths.map (min available)
  let excess := widths.foldl (· + ·) 0 - available
  let widest := widths.foldl max 0
  match widths.findIdx? (· = widest) with
  | some i => widths.set i (widest - excess)
  | none => widths

def widths (table : Table) : List Nat :=
  shrunk (screenWidth - (table.columns.length + 1)) table.wishes

def rule (left fill middle right : Char) (widths : List Nat) : Text :=
  left :: Text.joinWith [middle] (widths.map fun n => List.replicate n fill) ++ [right]

def cellLines (width : Nat) (alignment : Alignment) (t : Text) : List Text :=
  let inner := width - cellPadding
  (layOut inner alignment .ellipsis t).map fun line =>
    ' ' :: line ++ spaces (inner - Text.cells line) ++ [' ']

/-- The lines of a row between the edges of a frame. -/
def rowLines (edge : Char) (columns : List Column) (widths : List Nat) (row : List Text) :
    List Text :=
  let cells := (columns.zip widths).zipIdx.map fun ((column, width), i) =>
    (width, cellLines width column.alignment (row.getD i []))
  let height := (cells.map (·.2.length)).foldl max 1
  (List.range height).map fun n =>
    edge :: Text.joinWith [edge] (cells.map fun (width, lines) => lines.getD n (spaces width))
      ++ [edge]

/-- The table as it is drawn. -/
def draw (table : Table) : Text :=
  let widths := table.widths
  let full := widths.foldl (· + ·) 0 + table.columns.length + 1
  ended (layOut full .center .fold table.title
    ++ [rule '┏' '━' '┳' '┓' widths]
    ++ rowLines '┃' table.columns widths (table.columns.map (·.header))
    ++ [rule '┡' '━' '╇' '┩' widths]
    ++ table.rows.flatMap (rowLines '│' table.columns widths)
    ++ [rule '└' '─' '┴' '┘' widths])

end Table

namespace Panel

def titleLine (panel : Panel) : Text :=
  let line := panel.title.map fun c => if c = '\n' then ' ' else c
  let title := ' ' :: expandTabs 0 line ++ [' ']
  cut (screenWidth - 4) .fold title

/-- The panel as it is drawn; lines of its content that do not fit are cut. -/
def draw (panel : Panel) : Text :=
  let title := panel.titleLine
  let excess := screenWidth - 4 - Text.cells title
  let inner := screenWidth - 4
  ended ([['╭', '─'] ++ List.replicate (excess / 2) '─' ++ title
      ++ List.replicate (excess - excess / 2) '─' ++ ['─', '╮']]
    ++ (Text.splitAt '\n' panel.content).map (fun line =>
      ['│', ' '] ++ Text.fitCells inner line ++ [' ', '│'])
    ++ [['╰'] ++ List.replicate (screenWidth - 2) '─' ++ ['╯']])

end Panel
end CommandScript.Screen
