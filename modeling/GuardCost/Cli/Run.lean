/-
GuardCost/Cli/Run.lean

The three commands.  Each is an action on the state of a run that ends with
an exit code.  A build or a run that cannot be prepared, or gets no workers,
says so and does nothing else.  Failing stages and failing variants are no failures of the
command; a run fails when a report cannot be written, and when it was asked
to measure programs and not one of them has a native time.  A listing or a run
is broken off at a table that cannot be laid out.
-/
import GuardCost.Cli.Help
import GuardCost.Cli.Setup
import GuardCost.Report.System
import GuardCost.Report.Table

namespace GuardCost.Cli

/-! ### List -/

/-- The table of programs. -/
def programTable (r : Registry) : Table where
  headers := ["Program", "Args", "Stack", "Flags"]
  rows := r.programs.map fun p =>
    [p.name, Text.join " " p.arguments, toString p.stackSize.toNat, Text.join " " p.flags]

/-- The table of variants. -/
def variantTable (plan : Plan) : Table where
  headers := ["Variant", "Label", "Runtime", "Built"]
  rows := Variant.all.map fun v =>
    [v.id, v.label, v.runtimeSource, if plan.includes v then "yes" else "no"]

/-- The exit code of a command that is broken off. -/
def brokenOff : Nat := 101

/-- Print tables, with an empty line after each; whether all of them could be
laid out. -/
def printTables : List Table → Action Bool
  | [] => return true
  | t :: rest =>
    match t.layOut? with
    | none => return false
    | some text => do
      print (text ++ "\n")
      printTables rest

/-- Show the suite and the plan. -/
def listSuite (suite : SuiteOptions) (host : HostOptions) : Action Nat := do
  match suite.registry (← get).world with
  | .error e =>
    say .failure e.message
    return 1
  | .ok registry =>
    let host := host.host
    let plan := Plan.ofHost host
    if ← printTables [programTable registry, variantTable plan] then
      say .note ("Host: " ++ host.text)
      say .note (toString registry.programs.length ++ " programs")
      if plan.isCompileOnly then
        say .warning "Target cannot run on this host: compile-only mode"
      return 0
    else return brokenOff

/-! ### Build -/

/-- What is said about a finished program above the progress bar. -/
def buildNotice (b : Build) : Notice where
  mark := if b.succeeded then .success else .failure
  text :=
    if b.succeeded then b.program
    else b.program ++ " (" ++ Text.join ", " (b.failedStages.map Stage.text) ++ " failed)"
  aboveBar := true

/-- Build the suite of a setup, and tell of each program as it is finished. -/
def buildSetup (tools : Tools) (workers : Workers) (setup : Setup) :
    Action (Except Error (List Build)) := do
  say .note ("Host: " ++ setup.host.text)
  setup.pipeline.buildByWorkers tools workers (fun b => notify (buildNotice b))
    setup.registry.programs

/-- Sum up how many programs were built without failures. -/
def buildSummary (builds : List Build) : Notice :=
  let complete := (builds.filter (·.succeeded)).length
  { mark := if complete = builds.length then .success else .warning
    text :=
      "Built " ++ toString complete ++ "/" ++ toString builds.length
        ++ " programs without failures" }

/-- Build the suite. -/
def buildSuite (tools : Tools) (workers : Workers) (suite : SuiteOptions) (host : HostOptions)
    (options : ToolOptions) : Action Nat := do
  match prepare (← get).world suite host options with
  | .error e =>
    noteEvent .error e.message []
    say .failure e.message
    return 1
  | .ok setup =>
    match ← buildSetup tools workers setup with
    | .error e =>
      say .failure e.message
      return 1
    | .ok builds =>
      notify (buildSummary builds)
      if setup.pipeline.plan.isCompileOnly then
        say .note "Compile-only mode: stopped after bytecode"
      return 0

/-! ### Run -/

/-- How the runs of a setup are repeated and reduced. -/
def BenchOptions.policy (o : BenchOptions) (limit? : Option Duration) : Policy where
  repetitions := o.runs
  reduction := o.reduction
  limit?

/-- What is said about an attempted measurement above the progress bar; a
time is compared with the native one before it. -/
def attemptNotice (native? : Option Float) (column : Column) (result : Except MeasureError Float) :
    Notice where
  mark := .detail
  text :=
    "  " ++ Table.left 28 column.label ++ " "
      ++ match result with
        | .ok seconds => sampleText seconds native?
        | .error e => "failed: " ++ e.message
  aboveBar := true

/-- The native time among attempts. -/
def nativeTime? (seen : Attempts) : Option Float :=
  seen.foldl (fun native? attempt =>
    match attempt with
    | (.native, .ok seconds) => some seconds
    | _ => native?) none

/-- Tell of each attempt above the progress bar. -/
def announce : Observer := fun seen column result =>
  notify (attemptNotice (nativeTime? seen) column result)

/-- What is said about a measured program. -/
def programNotice (t : Timings) : Notice :=
  if t.native?.isSome then { mark := .success, text := t.program }
  else { mark := .failure, text := t.program ++ ": no native baseline" }

/-- Measure built programs one after the other, and add them to a report. -/
def benchAll (tools : Tools) (plan : Plan) (policy : Policy) (report : Report) :
    List (Program × Build) → Action Report
  | [] => return report
  | (p, b) :: rest => do
    let attempts ← benchProgram tools p b plan.variants policy announce
    let timings := timingsOf p.name attempts
    notify (programNotice timings)
    benchAll tools plan policy (← report.addTimings timings) rest

/-- What is said when a report cannot be written. -/
def sayUnwritten (path : Path) (cause : SystemError) : Action Unit :=
  say .failure ("Failed to write " ++ path.text ++ ": " ++ cause.message)

/-- Write the reports that are asked for; the exit code, if the run ends at one
that cannot be written or laid out. -/
def writeReports (tools : Tools) (pl : Pipeline) (bench : BenchOptions) (policy : Policy)
    (report : Report) : Action (Except Nat Unit) := do
  let csvPath := bench.csv?.getD (pl.layout.benchRoot.child "benchmarks.csv")
  match ← writeText csvPath report.csv with
  | .error cause =>
    sayUnwritten csvPath cause
    return .error 1
  | .ok () =>
    say .success "Results written"
    say .path csvPath.text
    match bench.markdown? with
    | none => return .ok ()
    | some path =>
      let facts ← systemFacts tools pl.toolchain.cc
      match report.markdown? policy facts with
      | none => return .error brokenOff
      | some text =>
        match ← writeText path text with
        | .error cause =>
          sayUnwritten path cause
          return .error 1
        | .ok () =>
          say .path path.text
          return .ok ()

/-- Measure what was built, and collect the report. -/
def reportOf (tools : Tools) (setup : Setup) (builds : List Build) (bench : BenchOptions) :
    Action Report :=
  benchAll tools setup.pipeline.plan (bench.policy setup.pipeline.toolchain.limit?)
    { columns := setup.pipeline.plan.columns } (setup.registry.programs.zip builds)

/-- Write a report and show it; the result is the exit code. -/
def publish (tools : Tools) (setup : Setup) (bench : BenchOptions) (report : Report) :
    Action Nat := do
  match ← writeReports tools setup.pipeline bench
      (bench.policy setup.pipeline.toolchain.limit?) report with
  | .error code => return code
  | .ok () =>
    print "\n"
    match report.table.layOut? with
    | none => return brokenOff
    | some text =>
      print text
      if !setup.registry.programs.isEmpty && report.measuredCount == 0 then
        say .failure "No program produced a native baseline"
        return 1
      else return 0

/-- Measure the programs of a setup that were built, and report. -/
def benchSetup (tools : Tools) (setup : Setup) (builds : List Build) (bench : BenchOptions) :
    Action Nat := do
  publish tools setup bench (← reportOf tools setup builds bench)

/-- Build the suite, measure it and write the report. -/
def runSuite (tools : Tools) (workers : Workers) (suite : SuiteOptions) (host : HostOptions)
    (options : ToolOptions) (bench : BenchOptions) : Action Nat := do
  match prepare (← get).world suite host options with
  | .error e =>
    noteEvent .error e.message []
    say .failure e.message
    return 1
  | .ok setup =>
    match ← buildSetup tools workers setup with
    | .error e =>
      say .failure e.message
      return 1
    | .ok builds =>
      if setup.pipeline.plan.isCompileOnly then
        noteEvent .information "compile-only mode: nothing is benchmarked" []
        say .note "Compile-only mode: stopped after bytecode, nothing benchmarked"
        return 0
      else benchSetup tools setup builds bench

/-! ### Every command -/

/-- Do what is asked for. -/
def Request.perform (tools : Tools) (workers : Workers) : Request → Action Nat
  | .run suite host options bench => runSuite tools workers suite host options bench
  | .build suite host options => buildSuite tools workers suite host options
  | .list suite host => listSuite suite host

/-- Install the store of metrics. -/
def installMetrics : Action Unit :=
  modify fun s => { s with metrics := s.metrics.install.2 }

/-- Print the metrics, if there is a store of them. -/
def printMetrics : Action Unit := do
  match (← get).metrics with
  | some store => print store.summary
  | none => return ()

/-- The events that a command line asks for. -/
def Invocation.threshold (i : Invocation) : Severity :=
  if i.verbose then .detail else if i.silent then .error else .information

/-- Do what a command line asks for.  A command that is broken off shows no
metrics. -/
def Invocation.perform (tools : Tools) (workers : Workers) (i : Invocation) : Action Nat := do
  if i.metrics then installMetrics
  modify fun s => { s with console.threshold := i.threshold }
  let code ← i.request.perform tools workers
  if i.metrics && code != brokenOff then printMetrics
  return code

/-- The version of the program. -/
def versionText : String := "membench 0.1.0\n"

/-- Answer words that ask for nothing that can be done. -/
def answer : UsageError → Action Unit
  | .helpWanted => print Help.text
  | .versionWanted => print versionText
  | .nothingGiven => notify { mark := .detail, text := Help.text }
  | e => notify { mark := .detail, text := "error: " ++ e.message }

/-- Do what the words of a command line ask for, or say what is wrong with
them; the result is the exit code. -/
def perform (tools : Tools) (workers : Workers) (words : List Bytes) : Action Nat := do
  match Invocation.parse words with
  | .ok i => i.perform tools workers
  | .error e =>
    answer e
    return e.exitCode

end GuardCost.Cli
