/-
GuardCost/Cli/Invocation.lean

What a command line asks for.  Each of the two levels is read by itself and
checked for options that exclude each other, the inner one first; the three
options that are known at both count wherever they were given.  What was not
given has its usual value.
-/
import GuardCost.Cli.Level

namespace GuardCost.Cli

/-! ### Requests -/

/-- Which programs to build. -/
structure SuiteOptions where
  /-- A suite document, instead of the suite that comes with the program. -/
  programs? : Option Path
  /-- Only the programs with these names, if any are given. -/
  only : List String
  deriving DecidableEq, Repr

/-- What to take for the host instead of what it is found to be. -/
structure HostOptions where
  target? : Option Triple
  wordWidth? : Option WordWidth
  cpu? : Option CpuFamily
  deriving DecidableEq, Repr

/-- Directories and tools. -/
structure ToolOptions where
  root : Path
  benchRoot? : Option Path
  runtimeDir? : Option Path
  wasmToolchain? : Option Path
  release : Bool
  debug : Bool
  tool? : Option Path
  toolName : String
  cc : String
  cxx : String
  wasmCc? : Option Path
  noDebugSymbols : Bool
  /-- How many workers build programs; zero asks for one per processor. -/
  jobs : Nat
  /-- The time limit of a command, in seconds. -/
  timeout? : Option Nat
  deriving DecidableEq, Repr

/-- Measuring and the report. -/
structure BenchOptions where
  runs : Nat
  reduction : Reduction
  csv? : Option Path
  markdown? : Option Path
  deriving DecidableEq, Repr

/-- A command with its options. -/
inductive Request where
  | run (suite : SuiteOptions) (host : HostOptions) (tools : ToolOptions) (bench : BenchOptions)
  | build (suite : SuiteOptions) (host : HostOptions) (tools : ToolOptions)
  | list (suite : SuiteOptions) (host : HostOptions)
  deriving DecidableEq, Repr

/-- A whole command line. -/
structure Invocation where
  /-- Show the metrics at the end. -/
  metrics : Bool
  /-- Show all events. -/
  verbose : Bool
  /-- Show no events but errors; notices and tables are shown all the same. -/
  silent : Bool
  request : Request
  deriving DecidableEq, Repr

/-! ### From options to requests -/

namespace Given

/-- The options on the programs. -/
def suiteOptions (g : Given) : SuiteOptions := ⟨g.programs?, g.only⟩

/-- The options on the host. -/
def hostOptions (g : Given) : HostOptions := ⟨g.target?, g.hostBits?, g.hostArch?⟩

/-- The options on directories and tools. -/
def toolOptions (g : Given) : ToolOptions where
  root := g.root?.getD (.ofString ".")
  benchRoot? := g.benchRoot?
  runtimeDir? := g.runtimeDir?
  wasmToolchain? := g.wasmToolchain?
  release := g.has .release
  debug := g.has .debug
  tool? := g.tool?
  toolName := g.toolName?.getD "silverfish"
  cc := g.cc?.getD "clang"
  cxx := g.cxx?.getD "clang++"
  wasmCc? := g.wasmCc?
  noDebugSymbols := g.has .noDebugSymbols
  jobs := g.jobs?.getD 0
  timeout? := g.timeout?

/-- The options on measuring and the report. -/
def benchOptions (g : Given) : BenchOptions where
  runs := g.runs?.getD 10
  reduction := g.reduction?.getD .min
  csv? := g.csv?
  markdown? := g.markdown?

/-- The request of a command. -/
def request (g : Given) : CommandName → Request
  | .run => .run g.suiteOptions g.hostOptions g.toolOptions g.benchOptions
  | .build => .build g.suiteOptions g.hostOptions g.toolOptions
  | .list => .list g.suiteOptions g.hostOptions

end Given

/-- Read and check the words after a command. -/
def readCommand (command : CommandName) (words : List Bytes) : Except UsageError Given := do
  let reading ← readLevel (.after command) {} words
  reading.given.refuseConflicts
  return reading.given

/-- The command line that two levels amount to. -/
def Invocation.ofLevels (top : Given) (command : CommandName) (inner : Given) : Invocation where
  metrics := top.has .metrics || inner.has .metrics
  verbose := top.has .verbose || inner.has .verbose
  silent := top.has .silent || inner.has .silent
  request := inner.request command

/-- Read a command line, the name of the program left out. -/
def Invocation.parse (words : List Bytes) : Except UsageError Invocation := do
  let top ← readLevel .top {} words
  match top.command? with
  | none => .error (if top.given.options = [] then .nothingGiven else .missingCommand)
  | some (command, rest) =>
    let inner ← readCommand command rest
    top.given.refuseConflicts
    return .ofLevels top.given command inner

end GuardCost.Cli
