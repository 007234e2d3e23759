/-
GuardCost/Cli/Option.lean

The options of the command line.  `Opt.info` is their table: the long name,
the short letter if there is one, whether a value follows, and what is said
about it in the help.  An option is known only at some levels: a few at the
top, the others after the names of the commands that use them.  Some pairs of
options exclude each other.
-/
import GuardCost.Text.Bytes

namespace GuardCost.Cli

/-! ### Commands -/

/-- What can be asked for. -/
inductive CommandName where
  /-- Build the suite, measure it and write the report. -/
  | run
  /-- Build the suite. -/
  | build
  /-- Show the suite and the plan. -/
  | list
  deriving DecidableEq, Repr

namespace CommandName

/-- Every command. -/
def all : List CommandName := [run, build, list]

/-- The word that asks for a command. -/
def text : CommandName → String
  | run => "run"
  | build => "build"
  | list => "list"

/-- What a command does. -/
def about : CommandName → String
  | run => "Build every program, benchmark it and write the ratio table"
  | build => "Build every program without benchmarking"
  | list => "Show the programs and the variants that would be built on this host"

/-- The command that a word asks for. -/
def ofWord? (word : Bytes) : Option CommandName := all.find? fun c => Bytes.ofString c.text == word

end CommandName

/-- Where on the command line an option stands: before the command, or after
it. -/
inductive Level where
  | top
  | after (command : CommandName)
  deriving DecidableEq, Repr

/-! ### Options -/

/-- An option. -/
inductive Opt where
  | help
  | version
  | metrics
  | verbose
  | silent
  | programs
  | only
  | target
  | hostBits
  | hostArch
  | root
  | benchRoot
  | runtimeDir
  | wasmToolchain
  | release
  | debug
  | tool
  | toolName
  | cc
  | cxx
  | wasmCc
  | noDebugSymbols
  | jobs
  | timeout
  | runs
  | reduction
  | csv
  | markdown
  deriving DecidableEq, Repr

/-- What is known about an option. -/
structure Opt.Info where
  long : String
  short? : Option Char
  takesValue : Bool
  about : String

namespace Opt

/-- An option that is on or off. -/
def flag (long : String) (short? : Option Char) (about : String) : Info :=
  ⟨long, short?, false, about⟩

/-- An option with a value. -/
def valued (long : String) (short? : Option Char) (about : String) : Info :=
  ⟨long, short?, true, about⟩

/-- The table of options. -/
def info : Opt → Info
  | help => flag "help" (some 'h') "Print help"
  | version => flag "version" (some 'V') "Print version"
  | metrics => flag "metrics" none "Show metrics summary after execution"
  | verbose => flag "verbose" (some 'v') "Enable verbose output"
  | silent => flag "silent" (some 's') "Suppress output (only show errors)"
  | programs =>
    valued "programs" none "Program registry file (TOML) instead of the built-in suite"
  | only => valued "only" none "Only these programs (comma-separated)"
  | target => valued "target" none "Compilation target triple (e.g. x86_64-pc-linux-gnu)"
  | hostBits => valued "host-bits" none "Host word width, 32 or 64 [default: detected]"
  | hostArch => valued "host-arch" none "Host CPU family, x86, arm or other [default: detected]"
  | root => valued "root" none "Project root [default: .]"
  | benchRoot =>
    valued "bench-root" none "Benchmark programs directory [default: ROOT/code_benches]"
  | runtimeDir => valued "runtime-dir" none "Runtime sources directory [default: ROOT/runtime]"
  | wasmToolchain =>
    valued "wasm-toolchain" none "Wasm toolchain install [default: ROOT/wasmception]"
  | release => flag "release" none "Use the release build of the lowering tool"
  | debug => flag "debug" none "Use the debug build of the lowering tool"
  | tool => valued "tool" none "Explicit lowering tool binary"
  | toolName => valued "tool-name" none "Lowering tool binary name [default: silverfish]"
  | cc => valued "cc" none "C compiler command [default: clang]"
  | cxx => valued "cxx" none "C++ compiler command [default: clang++]"
  | wasmCc => valued "wasm-cc" none "Wasm C compiler [default: WASM_TOOLCHAIN/dist/bin/clang]"
  | noDebugSymbols => flag "no-debug-symbols" none "Build without debug symbols"
  | jobs => valued "jobs" (some 'j') "Number of parallel build jobs [default: 0 = auto]"
  | timeout =>
    valued "timeout" none "Kill any build step or benchmark run after this many seconds"
  | runs => valued "runs" (some 'r') "Runs per measurement [default: 10]"
  | reduction =>
    valued "reduction" none "How runs are reduced to one time, min, median or mean [default: min]"
  | csv => valued "csv" none "CSV output [default: BENCH_ROOT/benchmarks.csv]"
  | markdown => valued "markdown" none "Also write a markdown report with system information"

/-- Whether a value follows. -/
def takesValue (o : Opt) : Bool := o.info.takesValue

/-- Whether an option can be given more than once. -/
def repeats (o : Opt) : Bool := o == only

/-- The options known at every level. -/
def everywhere : List Opt := [metrics, verbose, silent, help]

/-- The options that choose the programs and describe the machine. -/
def ofSuiteAndHost : List Opt := [programs, only, target, hostBits, hostArch]

/-- The options on directories and tools. -/
def ofTools : List Opt :=
  [root, benchRoot, runtimeDir, wasmToolchain, release, debug, tool, toolName, cc, cxx, wasmCc,
    noDebugSymbols, jobs, timeout]

/-- The options on measuring and on the report. -/
def ofBench : List Opt := [runs, reduction, csv, markdown]

/-- The options known at a level. -/
def known : Level → List Opt
  | .top => version :: everywhere
  | .after .list => ofSuiteAndHost ++ everywhere
  | .after .build => ofSuiteAndHost ++ ofTools ++ everywhere
  | .after .run => ofSuiteAndHost ++ ofTools ++ ofBench ++ everywhere

/-- The option with this long name. -/
def ofLong? (level : Level) (name : Bytes) : Option Opt :=
  (known level).find? fun o => Bytes.ofString o.info.long == name

/-- The option with this letter. -/
def ofShort? (level : Level) (letter : UInt8) : Option Opt :=
  (known level).find? fun o => o.info.short?.map Bytes.ascii == some letter

/-- The pairs of options that exclude each other. -/
def exclusive : List (Opt × Opt) :=
  [(silent, verbose), (release, debug), (tool, release), (tool, debug)]

/-- An option as it is spelled. -/
def text (o : Opt) : String := "--" ++ o.info.long

end Opt

end GuardCost.Cli
