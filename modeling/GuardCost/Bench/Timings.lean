/-
GuardCost/Bench/Timings.lean

Measuring built programs.  One executable is run as often as the policy says,
one run after the other, and only its ending and its running time count.  Of
a program the native executable comes first; without its time nothing else of
the program is measured.
-/
import GuardCost.Bench.Reduction
import GuardCost.Build.Run

namespace GuardCost

/-! ### One executable -/

/-- The metric of a single run. -/
def recordRun (seconds : Float) : Action Unit :=
  recordEvent ⟨"membench_run_duration_seconds", []⟩ (.histogram seconds)

/-- One timed run of a command. -/
def timedRun (tools : Tools) (c : Command) : Action (Except MeasureError Float) := do
  match ← c.run tools with
  | .error cause => return .error (.command cause)
  | .ok output =>
    let seconds := output.elapsed.seconds
    recordRun seconds
    return .ok seconds

/-- The command that runs an executable for its time. -/
def benchCommand (executable : Path) (arguments : List String) (dir : Path) (policy : Policy) :
    Command where
  program := executable.bytes
  arguments := arguments.map Bytes.ofString
  directory? := some dir
  streams := .discard
  limit? := policy.limit?

/-- The time of an executable. -/
def measure (tools : Tools) (executable : Path) (arguments : List String) (dir : Path)
    (policy : Policy) : Action (Except MeasureError Float) := do
  let w := (← get).world
  if w.files.isFile w.current executable then
    measureWith policy.repetitions policy.reduction
      (timedRun tools (benchCommand executable arguments dir policy))
  else return .error (.missing executable)

/-! ### One program -/

/-- The reduced time of an executable. -/
structure Sample where
  program : String
  column : Column
  seconds : Float

/-- All that was measured of a program. -/
structure Timings where
  program : String
  /-- What was measured, native first. -/
  samples : List Sample := []
  failures : List (Column × MeasureError) := []

namespace Timings

/-- The time of a column. -/
def get? (t : Timings) (column : Column) : Option Float :=
  (t.samples.find? fun s => s.column == column).map (·.seconds)

/-- The time of the native executable. -/
def native? (t : Timings) : Option Float := t.get? .native

/-- Every attempted measurement in a list, added to what was measured. -/
def add (t : Timings) (column : Column) : Except MeasureError Float → Timings
  | .ok seconds => { t with samples := t.samples ++ [⟨t.program, column, seconds⟩] }
  | .error e => { t with failures := t.failures ++ [(column, e)] }

end Timings

/-- The labels of a metric of one program and column. -/
def columnLabels (program : String) (column : Column) : List (String × String) :=
  [("program", program), ("column", column.key)]

/-- The metric of a reduced time. -/
def recordMeasurement (program : String) (column : Column) (seconds : Float) : Action Unit :=
  recordEvent ⟨"membench_time_seconds", columnLabels program column⟩ (.gauge (.set seconds))

/-- What is to be measured of a program: its native executable, and the
variants that were built. -/
def benchTargets (b : Build) (variants : List Variant) : List (Column × Path) :=
  match b.executable? .native with
  | none => []
  | some native =>
    (.native, native.path) :: variants.filterMap fun v =>
      (b.executable? (.variant v)).map fun a => (.variant v, a.path)

/-- What was attempted, oldest first. -/
abbrev Attempts := List (Column × Except MeasureError Float)

/-- One who watches the measuring: what is done about an attempt, given those
before it. -/
abbrev Observer := Attempts → Column → Except MeasureError Float → Action Unit

/-- Nobody watches. -/
def unobserved : Observer := fun _ _ _ => return ()

/-- Measure targets in order, each attempt under the eyes of an observer; a native
one that fails is the last. -/
def benchEach (tools : Tools) (p : Program) (dir : Path) (policy : Policy)
    (observe : Observer) (seen : Attempts) : List (Column × Path) → Action Attempts
  | [] => return []
  | (column, path) :: rest => do
    let result ← measure tools path p.arguments dir policy
    observe seen column result
    let seen := seen ++ [(column, result)]
    match result with
    | .ok seconds =>
      recordMeasurement p.name column seconds
      return (column, result) :: (← benchEach tools p dir policy observe seen rest)
    | .error e =>
      noteEvent .warning e.message [("program", p.name), ("column", column.key)]
      if column = .native then return [(column, result)]
      else return (column, result) :: (← benchEach tools p dir policy observe seen rest)

/-- The timings that attempts amount to. -/
def timingsOf (program : String) (attempts : Attempts) : Timings :=
  attempts.foldl (fun t (column, result) => t.add column result) { program }

/-- Measure a built program: every attempt in order. -/
def benchProgram (tools : Tools) (p : Program) (b : Build) (variants : List Variant)
    (policy : Policy) (observe : Observer) : Action Attempts :=
  within "bench" p.name (benchEach tools p b.dir policy observe [] (benchTargets b variants))

end GuardCost
