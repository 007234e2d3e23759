/-
GuardCost/Cli/Setup.lean

Preparing a build or a run.  Everything is looked up and checked before any
work starts, without starting a process and without changing a file: the
result depends on the options and on the state of the machine alone.
-/
import GuardCost.Build.Run
import GuardCost.Cli.Invocation
import GuardCost.Suite.Document
import GuardCost.Suite.Standard

namespace GuardCost

/-- Read a suite document from a file. -/
def Registry.load (w : World) (path : Path) : Except ConfigError Registry :=
  match w.files.read w.current path with
  | .error cause => .error (.registryRead path cause)
  | .ok content =>
    match Bytes.decode? content with
    | none => .error (.registryRead path .notText)
    | some text => Registry.ofDocument text path

namespace Cli

/-- The suite that is asked for. -/
def SuiteOptions.registry (o : SuiteOptions) (w : World) : Except ConfigError Registry := do
  let registry ←
    match o.programs? with
    | some path => Registry.load w path
    | none => .ok .standard
  if o.only = [] then .ok registry else registry.retain o.only

/-- The host, with what is given instead of what was found. -/
def HostOptions.host (o : HostOptions) : Host :=
  let found := Host.detect
  { found with
    wordWidth := o.wordWidth?.getD found.wordWidth
    cpu := o.cpu?.getD found.cpu
    target? := o.target? }

namespace ToolOptions

/-- The layout as it is given. -/
def layout (o : ToolOptions) : Layout :=
  let usual := Layout.ofRoot o.root
  { usual with
    benchRoot := o.benchRoot?.getD usual.benchRoot
    runtimeDir := o.runtimeDir?.getD usual.runtimeDir
    wasmToolchain := o.wasmToolchain?.getD usual.wasmToolchain }

/-- The tools of a layout, as they are given. -/
def toolchain (o : ToolOptions) (l : Layout) (loweringTool : Path) (target? : Option Triple) :
    Toolchain :=
  let usual := Toolchain.ofLayout l loweringTool
  { usual with
    cc := o.cc
    cxx := o.cxx
    wasmCc := o.wasmCc?.getD usual.wasmCc
    target?
    debugSymbols := !o.noDebugSymbols
    limit? := o.timeout?.map Duration.ofSeconds }

end ToolOptions

/-- All that a build or a run works with. -/
structure Setup where
  registry : Registry
  host : Host
  pipeline : Pipeline
  deriving DecidableEq, Repr

/-- Prepare a build or a run. -/
def prepare (w : World) (suite : SuiteOptions) (host : HostOptions) (tools : ToolOptions) :
    Except ConfigError Setup := do
  let registry ← suite.registry w
  let host := host.host
  let layout ← tools.layout.absolute w.currentPath
  layout.validate w
  let choice ← ToolChoice.ofFlags tools.release tools.debug tools.tool?
  let loweringTool ← choice.resolve w layout.root tools.toolName
  let toolchain ← (tools.toolchain layout loweringTool host.target?).absolute w.currentPath
  let pipeline : Pipeline := { layout, toolchain, plan := .ofHost host, jobs := tools.jobs }
  pipeline.validate w
  return { registry, host, pipeline }

end Cli

end GuardCost
