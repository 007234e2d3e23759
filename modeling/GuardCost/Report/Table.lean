/-
GuardCost/Report/Table.lean

Markdown tables.  Every column is as wide as its widest entry, headings are
centred, the first column is flush left and the others are flush right.  The
ratio table and the markdown report are built from them.  A text can be padded
to 65535 characters, which is the greatest width that 16 bits hold, so a table
with a wider column cannot be laid out.
-/
import GuardCost.Report.Ratio

namespace GuardCost

/-- A table of texts. -/
structure Table where
  headers : List String
  rows : List (List String) := []

namespace Table

/-- The width of a text, in characters. -/
def width (s : String) : Nat := s.length

/-- The greatest of widths so far and those of a row; cells beyond the last
column do not count. -/
def widen : List Nat → List String → List Nat
  | w :: ws, cell :: cells => max w (width cell) :: widen ws cells
  | ws, _ => ws

/-- The widths of the columns. -/
def widths (t : Table) : List Nat := t.rows.foldl widen (t.headers.map width)

/-- A text flush left. -/
def left (w : Nat) (s : String) : String := s ++ Text.spaces (w - width s)

/-- A text flush right. -/
def right (w : Nat) (s : String) : String := Text.spaces (w - width s) ++ s

/-- A text in the middle; an odd blank goes to the right. -/
def centre (w : Nat) (s : String) : String :=
  let free := w - width s
  Text.spaces (free / 2) ++ s ++ Text.spaces (free - free / 2)

/-- A line of the table from the texts between its bars. -/
def line (cells : List String) : String :=
  "|" ++ String.join (cells.map fun cell => cell ++ "|") ++ "\n"

/-- A cell with a blank on each side. -/
def spaced (s : String) : String := " " ++ s ++ " "

/-- Lay out the cells of a row; missing ones are blank. -/
def layCells (align : Nat → String → String) : List Nat → List String → List String
  | [], _ => []
  | w :: ws, [] => spaced (align w "") :: layCells align ws []
  | w :: ws, cell :: cells => spaced (align w cell) :: layCells align ws cells

/-- Lay out a row: the first column flush left, the others flush right. -/
def layRow : List Nat → List String → List String
  | [], _ => []
  | w :: ws, [] => spaced (left w "") :: layCells right ws []
  | w :: ws, cell :: cells => spaced (left w cell) :: layCells right ws cells

/-- Dashes for a column. -/
def dashes (w : Nat) : String := String.ofList (List.replicate (w + 1) '-')

/-- The line below the headings, which says how columns are aligned. -/
def ruleCells : List Nat → List String
  | [] => []
  | w :: ws => (":" ++ dashes w) :: ws.map fun w => dashes w ++ ":"

/-- The table as text. -/
def render (t : Table) : String :=
  let ws := t.widths
  line (layCells centre ws t.headers) ++ line (ruleCells ws)
    ++ String.join (t.rows.map fun row => line (layRow ws row))

/-- The greatest width that a text can be padded to. -/
def widthLimit : Nat := 65535

/-- The text of the table, if no column is too wide to be padded. -/
def layOut? (t : Table) : Option String :=
  if t.widths.all fun w => decide (w ≤ widthLimit) then some t.render else none

end Table

/-! ### Reports as tables -/

namespace Report

/-- A ratio with three places. -/
def shownRatio : Option Float → String
  | none => ""
  | some x => Decimal.fixed 3 x

/-- The table of ratios. -/
def table (r : Report) : Table where
  headers := r.headers
  rows := r.rows.map fun row => row.program :: row.cells.map shownRatio

/-- What is known about the system, as a table. -/
def systemTable (system : List (String × String)) : Table where
  headers := ["Property", "Value"]
  rows := system.map fun (name, value) => [name, value]

/-- The markdown report: what is known about the system, and the ratios. -/
def markdown (r : Report) (policy : Policy) (system : List (String × String)) : String :=
  "# Memory Protection Benchmarks\n\n## System Information\n\n"
    ++ (systemTable system).render
    ++ "\n## Results\n\n*time relative to native | runs: " ++ toString policy.repetitions
    ++ " | reduction: " ++ policy.reduction.text ++ "*\n\n"
    ++ r.table.render

/-- The markdown report, if both of its tables can be laid out. -/
def markdown? (r : Report) (policy : Policy) (system : List (String × String)) :
    Option String := do
  let _ ← (systemTable system).layOut?
  let _ ← r.table.layOut?
  return r.markdown policy system

end Report

end GuardCost
