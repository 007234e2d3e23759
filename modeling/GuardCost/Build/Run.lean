/-
GuardCost/Build/Run.lean

Building the suite.  The build of a program is a list of steps, each of which
removes what an earlier build left in its place and then starts one command.
The front steps run one after the other and the first failure ends the
program; the variants are then built each for itself, and a failure costs
only that variant.  In compile-only mode the front has no native step and
there are no variants.

Programs are built by workers.  These are threads, and the machine may refuse
to start so many; then nothing is built.
-/
import GuardCost.Build.Sources
import GuardCost.Error

namespace GuardCost

/-! ### Builds -/

/-- A file that a stage has made. -/
structure Artifact where
  program : String
  stage : Stage
  path : Path
  deriving DecidableEq, Repr

/-- The outcome of building one program. -/
structure Build where
  program : String
  dir : Path
  /-- What was made, in order. -/
  artifacts : List Artifact
  /-- What failed, in order. -/
  failures : List BuildError
  deriving DecidableEq, Repr

namespace Build

/-- What a stage has made. -/
def artifact? (b : Build) (stage : Stage) : Option Artifact :=
  b.artifacts.find? fun a => a.stage == stage

/-- The executable of a column. -/
def executable? (b : Build) : Column → Option Artifact
  | .native => b.artifact? .native
  | .variant v => b.artifact? (.variant v)

/-- Whether nothing failed. -/
def succeeded (b : Build) : Bool := b.failures.isEmpty

/-- The stages that failed, in order. -/
def failedStages (b : Build) : List Stage := b.failures.map (·.failedStage)

end Build

/-! ### Pipelines -/

/-- What it takes to build a suite. -/
structure Pipeline where
  layout : Layout
  toolchain : Toolchain
  plan : Plan
  /-- How many workers build programs; zero asks for one per processor. -/
  jobs : Nat := 0
  deriving DecidableEq, Repr

/-- One command of a build. -/
structure Step where
  stage : Stage
  command : Command
  /-- The file that the command is to write. -/
  output : Path
  deriving DecidableEq, Repr

namespace Pipeline

/-- Whether everything that the planned stages read exists; the first missing
file or directory. -/
def validate (pl : Pipeline) (w : World) : Except ConfigError Unit := do
  pl.layout.validate w
  pl.toolchain.validate w
  match (pl.plan.variants.flatMap pl.layout.runtimeSources).find?
      fun source => !w.files.isFile w.current source with
  | some source => .error (.missingFile source)
  | none => .ok ()

/-- The command of a stage; it writes the output of that stage. -/
def stageCommand (pl : Pipeline) (p : Program) (sources : List String) (stage : Stage) :
    Command :=
  let output := stage.outputName p.name
  match stage with
  | .sources => { program := [] }
  | .native => pl.toolchain.nativeCommand p sources output
  | .wasm => pl.toolchain.wasmCommand p sources output
  | .bytecode flavor => pl.toolchain.bytecodeCommand p flavor output
  | .variant v => pl.toolchain.variantCommand pl.layout p v output

/-- The directory of a program. -/
def dir (pl : Pipeline) (p : Program) : Path := pl.layout.programDir p.name

/-- The file that a stage of a program writes. -/
def outputPath (pl : Pipeline) (p : Program) (stage : Stage) : Path :=
  (pl.dir p).child (stage.outputName p.name)

/-- The step of a stage: its command, run in the program's directory. -/
def step (pl : Pipeline) (p : Program) (sources : List String) (stage : Stage) : Step where
  stage
  command :=
    { pl.stageCommand p sources stage with
      directory? := some (pl.dir p)
      limit? := pl.toolchain.limit? }
  output := pl.outputPath p stage

/-- The stages before the variants. -/
def frontStages (pl : Pipeline) : List Stage :=
  (if pl.plan.isCompileOnly then [] else [.native])
    ++ [.wasm, .bytecode .checked, .bytecode .unchecked]

/-- The stages of the variants. -/
def variantStages (pl : Pipeline) : List Stage :=
  if pl.plan.isCompileOnly then [] else pl.plan.variants.map .variant

end Pipeline

/-! ### Running steps -/

/-- The metric of finished and failed stages. -/
def recordStage (stage : Stage) (ok : Bool) : Action Unit :=
  recordEvent
    ⟨if ok then "membench_stages_succeeded_total" else "membench_stages_failed_total",
      [("stage", stage.kind)]⟩
    (.counter (.increment 1))

/-- Note the failure of a stage. -/
def noteFailure (e : BuildError) : Action Unit :=
  let stage := match e.failedStage with
    | .variant v => ("variant", v.id)
    | stage => ("stage", stage.text)
  noteEvent .warning e.message
    [("program", e.program), stage, ("command", Text.quote (e.command?.getD ""))]

/-- Remove a file that an earlier build may have left. -/
def removeStale (path : Path) : Action (Except SystemError Unit) := do
  match ← changeFiles fun w => w.files.removeFile w.current w.now path with
  | .error cause => return if cause = .notFound then .ok () else .error cause
  | .ok () => return .ok ()

/-- Run one step of a program. -/
def Step.run (tools : Tools) (name : String) (s : Step) : Action (Except BuildError Unit) := do
  match ← removeStale s.output with
  | .error cause => return .error (.io name s.stage s.output cause)
  | .ok () =>
    match ← s.command.run tools with
    | .error cause => return .error (.stage name s.stage cause)
    | .ok _ => return .ok ()

/-- The artifact of a step that ended well. -/
def Step.artifact (name : String) (s : Step) : Artifact := ⟨name, s.stage, s.output⟩

/-- Run steps up to the first failure: the artifacts before it, and the
failure if there was one. -/
def runFront (tools : Tools) (name : String) :
    List Step → Action (List Artifact × Option BuildError)
  | [] => return ([], none)
  | s :: rest => do
    match ← s.run tools name with
    | .error e =>
      noteFailure e
      recordStage e.failedStage false
      return ([], some e)
    | .ok () =>
      recordStage s.stage true
      let (artifacts, failure?) ← runFront tools name rest
      return (s.artifact name :: artifacts, failure?)

/-- Run every step: the artifacts of those that ended well, and the failures
of the others. -/
def runEach (tools : Tools) (name : String) :
    List Step → Action (List Artifact × List BuildError)
  | [] => return ([], [])
  | s :: rest => do
    match ← s.run tools name with
    | .error e =>
      noteFailure e
      recordStage s.stage false
      let (artifacts, failures) ← runEach tools name rest
      return (artifacts, e :: failures)
    | .ok () =>
      recordStage s.stage true
      let (artifacts, failures) ← runEach tools name rest
      return (s.artifact name :: artifacts, failures)

/-! ### Building -/

/-- Make a directory, if there is none. -/
def ensureDirectory (path : Path) : Action (Except SystemError Unit) := do
  match ← changeFiles fun w => w.files.createDirectory w.current w.now path with
  | .ok () => return .ok ()
  | .error cause =>
    let w := (← get).world
    return if w.files.isDirectory w.current path then .ok () else .error cause

namespace Pipeline

/-- Find the sources of a program and make its output directory. -/
def prepare (pl : Pipeline) (p : Program) : Action (Except BuildError (List String)) := do
  let dir := pl.dir p
  match p.findSources (← get).world dir with
  | .error e => return .error e
  | .ok sources =>
    let bin := dir.child Stage.outputDir
    match ← ensureDirectory bin with
    | .error cause => return .error (.io p.name .sources bin cause)
    | .ok () => return .ok sources

/-- Build one program. -/
def build (tools : Tools) (pl : Pipeline) (p : Program) : Action Build := within "build" p.name do
  let dir := pl.dir p
  match ← pl.prepare p with
  | .error e =>
    noteFailure e
    recordStage e.failedStage false
    return ⟨p.name, dir, [], [e]⟩
  | .ok sources =>
    let (front, failure?) ← runFront tools p.name (pl.frontStages.map (pl.step p sources))
    match failure? with
    | some e => return ⟨p.name, dir, front, [e]⟩
    | none =>
      let (made, failures) ← runEach tools p.name (pl.variantStages.map (pl.step p sources))
      return ⟨p.name, dir, front ++ made, failures⟩

/-- Build programs one after the other, and do something as each is finished. -/
def buildEach (tools : Tools) (pl : Pipeline) (onDone : Build → Action Unit) :
    List Program → Action (List Build)
  | [] => return []
  | p :: rest => do
    let b ← build tools pl p
    onDone b
    let bs ← buildEach tools pl onDone rest
    return b :: bs

/-- Build programs one after the other. -/
def buildAll (tools : Tools) (pl : Pipeline) : List Program → Action (List Build) :=
  buildEach tools pl fun _ => return ()

end Pipeline

/-! ### Workers -/

/-- What a machine answers to those who ask for threads. -/
structure Workers where
  /-- How many processors there are. -/
  processors : Nat
  /-- Why so many threads cannot be started, if they cannot. -/
  refusal? : Nat → Option SystemError

/-- A machine that starts as many threads as it is asked for. -/
def Workers.unlimited (processors : Nat) : Workers := ⟨processors, fun _ => none⟩

namespace Pipeline

/-- How many workers are started for a build. -/
def workerCount (pl : Pipeline) (workers : Workers) : Nat :=
  if pl.jobs = 0 then workers.processors else pl.jobs

/-- Start the workers, if that can be done, and let them build programs. -/
def buildByWorkers (tools : Tools) (workers : Workers) (pl : Pipeline)
    (onDone : Build → Action Unit) (programs : List Program) :
    Action (Except Error (List Build)) := do
  let count := pl.workerCount workers
  if pl.plan.isCompileOnly then
    noteEvent .information
      "target cannot run on this host; compile-only mode (native and variant stages skipped)" []
  noteEvent .detail "building"
    [("jobs", toString count), ("programs", toString programs.length)]
  match workers.refusal? count with
  | some cause => return .error (.workers cause)
  | none => return .ok (← pl.buildEach tools onDone programs)

end Pipeline

end GuardCost
