import RouteDoc.Console.Markup

/-!
# Tables

Cells between lines, under a heavier heading. Columns are as wide as their
widest cell, as on a console that has room for the table, and a cell may have
several lines.

* `table`: a table as text.
-/

namespace RouteDoc.Console

/-- A cell as it is printed: its lines. -/
abbrev Cell := List (List Char)

/-- The cell for a text with markup. -/
def cell (text : String) : Except MarkupError Cell :=
  (plain text).map (Text.splitOnP (· == '\n'))

/-- How wide a cell is. -/
def Cell.width (c : Cell) : Nat := (c.map textWidth).foldl max 0

/-- The column widths of rows of `n` cells. -/
def widths (n : Nat) (rows : List (List Cell)) : List Nat :=
  rows.foldl (fun ws row => List.zipWith max ws (row.map Cell.width)) (List.replicate n 0)

/-- A line between rows: its ends, what runs along the cells, and what stands
where columns meet. -/
def rule (left run cross right : Char) (ws : List Nat) : String :=
  String.ofList (left ::
    ((ws.map fun w => List.replicate (w + 2) run).intersperse [cross]).flatten ++ [right, '\n'])

/-- A text filled up to a width, with a blank on either side. -/
def padded (w : Nat) (cs : List Char) : List Char :=
  ' ' :: cs ++ List.replicate (w - textWidth cs + 1) ' '

/-- A line of a row. -/
def rowLine (bar : Char) (ws : List Nat) (parts : List (List Char)) : String :=
  String.ofList (bar :: ((List.zipWith padded ws parts).intersperse [bar]).flatten ++ [bar, '\n'])

/-- The lines of a row; short cells are filled up with blank lines. -/
def rowLines (bar : Char) (ws : List Nat) (row : List Cell) : List String :=
  let height := (row.map List.length).foldl max 1
  (List.range height).map fun n => rowLine bar ws (row.map fun cell => cell[n]?.getD [])

/-- A table with a heading as text. -/
def table (heading : List String) (rows : List (List String)) : Except MarkupError String := do
  let heading ← heading.mapM cell
  let rows ← rows.mapM (·.mapM cell)
  let ws := widths heading.length (heading :: rows)
  return String.join ([rule '┏' '━' '┳' '┓' ws] ++ rowLines '┃' ws heading ++
    [rule '┡' '━' '╇' '┩' ws] ++ rows.flatMap (rowLines '│' ws) ++ [rule '└' '─' '┴' '┘' ws])

end RouteDoc.Console
