/-
GuardCost/Build/Stage.lean

The stages of a build and the command of each.  From the sources come the
native executable and a wasm module, from the module two bytecodes, and from
a bytecode the executables of the variants.  A stage writes one file, named
after the program, into the directory `bin` of the program; commands run in
the program's directory, so they name the file relative to it.
-/
import GuardCost.Build.Toolchain
import GuardCost.Suite.Registry

namespace GuardCost

/-- A stage of a build. -/
inductive Stage where
  | sources
  | native
  | wasm
  | bytecode (flavor : Flavor)
  | variant (v : Variant)
  deriving DecidableEq, Repr

namespace Stage

/-- The kind of a stage, which all variants share. -/
def kind : Stage → String
  | sources => "sources"
  | native => "native"
  | wasm => "wasm"
  | bytecode .checked => "bytecode"
  | bytecode .unchecked => "bytecode-unchecked"
  | variant _ => "variant"

/-- A stage as text. -/
def text : Stage → String
  | variant v => "variant " ++ v.id
  | stage => stage.kind

/-- The directory that the stages write into. -/
def outputDir : String := "bin"

/-- The file that a stage writes, relative to the program's directory. -/
def outputName (name : String) : Stage → String
  | sources => ""
  | native => outputDir ++ "/" ++ name
  | wasm => outputDir ++ "/" ++ name ++ ".wasm"
  | bytecode .checked => outputDir ++ "/" ++ name ++ ".bc"
  | bytecode .unchecked => outputDir ++ "/" ++ name ++ "_us.bc"
  | variant v => outputDir ++ "/" ++ name ++ "_" ++ v.id

end Stage

/-! ### Commands -/

namespace Toolchain

/-- Words given as text. -/
def wordsOf (ss : List String) : List Bytes := ss.map Bytes.ofString

/-- The words that optimise, and those asked for by the program and the
toolchain. -/
def optimising (t : Toolchain) (p : Program) : List String :=
  ["-O3"] ++ (if p.lto then ["-flto"] else []) ++ (if t.debugSymbols then ["-g"] else [])

/-- Compile the sources to a native executable. -/
def nativeCommand (t : Toolchain) (p : Program) (sources : List String) (output : String) :
    Command where
  program := Bytes.ofString (t.driver p.multiLanguage)
  arguments :=
    wordsOf (p.flags ++ ["-lm"] ++ t.optimising p ++ sources ++ ["-o", output])

/-- The linker options of a wasm module with a stack of some size. -/
def linkerOptions (stackSize : UInt32) : String :=
  "-Wl,--allow-undefined,-z,stack-size=" ++ toString stackSize.toNat
    ++ ",--no-threads,--stack-first,--no-entry,--export-all,--export=main,--export=dummy"

/-- The marker source, seen from a program's directory. -/
def markerSource : String := "../dummy.c"

/-- Compile the sources and the marker source to a wasm module. -/
def wasmCommand (t : Toolchain) (p : Program) (sources : List String) (output : String) :
    Command where
  program := t.wasmCc.bytes
  arguments :=
    wordsOf [linkerOptions p.stackSize, "--target=wasm32-unknown-unknown-wasm",
      "-nostartfiles", "-O3", "-flto"]
    ++ [Bytes.ofString "--sysroot=" ++ t.wasmSysroot.bytes]
    ++ wordsOf (p.flags ++ [markerSource] ++ sources ++ ["-o", output])

/-- Lower the wasm module to bytecode. -/
def bytecodeCommand (t : Toolchain) (p : Program) (flavor : Flavor) (output : String) :
    Command where
  program := t.loweringTool.bytes
  arguments :=
    wordsOf ((t.target?.map fun target => ["--target", target.text]).getD []
      ++ (if flavor = .unchecked then ["-u"] else [])
      ++ [Stage.wasm.outputName p.name, "-o", output])

/-- Link the bytecode of a variant with its runtime sources. -/
def variantCommand (t : Toolchain) (l : Layout) (p : Program) (v : Variant) (output : String) :
    Command where
  program := Bytes.ofString t.cc
  arguments :=
    wordsOf (["-lm"] ++ (t.target?.map fun target => ["-target", target.text]).getD []
      ++ t.optimising p ++ [(Stage.bytecode v.flavor).outputName p.name])
    ++ (l.runtimeSources v).map Path.bytes
    ++ wordsOf ["-o", output]

end Toolchain

/-! ### Errors -/

/-- Why a stage of a program failed. -/
inductive BuildError where
  | noSources (program : String) (dir : Path)
  /-- A file or directory could not be prepared. -/
  | io (program : String) (stage : Stage) (path : Path) (cause : SystemError)
  /-- The command of the stage failed. -/
  | stage (program : String) (stage : Stage) (cause : CommandError)
  deriving DecidableEq, Repr

namespace BuildError

/-- The program that failed. -/
def program : BuildError → String
  | noSources p _ => p
  | io p _ _ _ => p
  | stage p _ _ => p

/-- The stage that failed. -/
def failedStage : BuildError → Stage
  | noSources .. => .sources
  | io _ s _ _ => s
  | stage _ s _ => s

/-- The command that failed, if one was started. -/
def command? : BuildError → Option String
  | stage _ _ cause => some cause.command
  | _ => none

/-- The wording of an error. -/
def message : BuildError → String
  | noSources p dir => p ++ ": no sources found in " ++ dir.text
  | io p _ path cause => p ++ ": cannot prepare " ++ path.text ++ ": " ++ cause.message
  | stage p s cause => p ++ ": " ++ s.text ++ " stage failed: " ++ cause.message

/-- The wording of the causes behind an error, the nearest first. -/
def causes : BuildError → List String
  | noSources .. => []
  | io _ _ _ cause => [cause.message]
  | stage _ _ cause => cause.message :: cause.causes

end BuildError

end GuardCost
