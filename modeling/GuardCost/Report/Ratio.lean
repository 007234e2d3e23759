/-
GuardCost/Report/Ratio.lean

The report: one row per program, one cell per column.  A cell is the time of
its column divided by the native time of the same program; a time that is not
positive and finite counts as missing, and without a native time the whole
row is empty.  The CSV form follows RFC 4180 with line feeds, and writes the
ratios with all their digits.
-/
import GuardCost.Bench.Timings

namespace GuardCost

/-! ### Rows -/

/-- The ratios of a program, in the order of the columns. -/
structure Row where
  program : String
  cells : List (Option Float)

namespace Row

/-- A row with every cell empty. -/
def unmeasured (program : String) (width : Nat) : Row := ⟨program, List.replicate width none⟩

/-- Whether some cell is filled. -/
def isMeasured (r : Row) : Bool := r.cells.any (·.isSome)

/-- The time of a column of a program, if it is usable. -/
def lookup? (program : String) (samples : List Sample) (column : Column) : Option Float :=
  ((samples.find? fun s => s.program == program && s.column == column).map
    (·.seconds)).filter Binary64.isUsable

/-- The row of a program. -/
def ofSamples (program : String) (columns : List Column) (samples : List Sample) : Row :=
  match lookup? program samples .native with
  | none => unmeasured program columns.length
  | some native =>
    ⟨program, columns.map fun
      | .native => some 1.0
      | .variant v => (lookup? program samples (.variant v)).map (· / native)⟩

end Row

/-! ### Reports -/

/-- A table of ratios. -/
structure Report where
  columns : List Column
  rows : List Row := []

/-- The metric of a ratio. -/
def recordRatio (program : String) (column : Column) (ratio : Float) : Action Unit :=
  recordEvent ⟨"membench_ratio", columnLabels program column⟩ (.gauge (.set ratio))

/-- Record the ratios of the variants in a row. -/
def recordCells (program : String) : List (Column × Option Float) → Action Unit
  | [] => return ()
  | (.variant v, some ratio) :: rest => do
    recordRatio program (.variant v) ratio
    recordCells program rest
  | _ :: rest => recordCells program rest

namespace Report

/-- The row of a program's timings, added at the end. -/
def add (r : Report) (t : Timings) : Report :=
  { r with rows := r.rows ++ [Row.ofSamples t.program r.columns t.samples] }

/-- Add the row of a program's timings, and record its ratios. -/
def addTimings (r : Report) (t : Timings) : Action Report := do
  let row := Row.ofSamples t.program r.columns t.samples
  recordCells row.program (r.columns.zip row.cells)
  return r.add t

/-- How many programs have a native time. -/
def measuredCount (r : Report) : Nat := (r.rows.filter (·.isMeasured)).length

/-- The headings. -/
def headers (r : Report) : List String := "Program" :: r.columns.map (·.label)

end Report

/-! ### CSV -/

namespace Csv

/-- Whether a field has to stand between quotes. -/
def needsQuotes (cs : List Char) : Bool :=
  cs.any fun c => c == ',' || c == '"' || c == '\n' || c == '\r'

/-- Double every quote. -/
def doubleQuotes : List Char → List Char
  | [] => []
  | '"' :: rest => '"' :: '"' :: doubleQuotes rest
  | c :: rest => c :: doubleQuotes rest

/-- A field as it is written. -/
def field (s : String) : String :=
  if needsQuotes s.toList then String.ofList ('"' :: doubleQuotes s.toList ++ ['"']) else s

/-- A ratio with all its digits. -/
def ratio (x : Float) : String := Decimal.text Decimal.precise x

/-- A cell as it is written. -/
def cell : Option Float → String
  | none => ""
  | some x => ratio x

/-- A record of written fields. -/
def record (fields : List String) : String := Text.join "," fields ++ "\n"

end Csv

/-- A report in CSV. -/
def Report.csv (r : Report) : String :=
  String.join (Csv.record (r.headers.map Csv.field)
    :: r.rows.map fun row => Csv.record (Csv.field row.program :: row.cells.map Csv.cell))

/-! ### Lines on the console -/

/-- A time rounded to four places. -/
def round4 (x : Float) : Float := Binary64.round (x * 10000) / 10000

/-- A time, and how it compares with the native one: both rounded to four
places, the difference in percent of the native time. -/
def sampleText (seconds : Float) (native? : Option Float) : String :=
  let seconds := round4 seconds
  let text := Decimal.fixed 4 seconds
  match (native?.map round4).filter (fun x => decide (0 < x)) with
  | none => text
  | some native =>
    let (percent, direction) :=
      if native < seconds then ((seconds - native) / native * 100, "slower")
      else ((native - seconds) / native * 100, "faster")
    text ++ " (" ++ Decimal.fixed 2 percent ++ "% " ++ direction ++ ")"

end GuardCost
