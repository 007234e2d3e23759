/-
GuardCost/Build/Toolchain.lean

The external tools.  A tool given by its bare name is looked up by the system
when it is started; one with a directory part is made absolute.  The lowering
tool is an explicit file, or the build of a profile below the root, of which
by default the newer one is taken.
-/
import GuardCost.Build.Layout
import GuardCost.Machine.Session

namespace GuardCost

/-! ### The lowering tool -/

/-- Where to find the lowering tool. -/
inductive ToolChoice where
  | release
  | debug
  /-- The profile that was built last. -/
  | newest
  | explicit (path : Path)
  deriving DecidableEq, Repr

namespace ToolChoice

/-- Combine the three options that choose the tool. -/
def ofFlags (release debug : Bool) (tool? : Option Path) : Except ConfigError ToolChoice :=
  match release, debug, tool? with
  | true, true, _ => .error .conflictingProfiles
  | _, _, some path => .ok (.explicit path)
  | true, false, none => .ok .release
  | false, true, none => .ok .debug
  | false, false, none => .ok .newest

/-- The file that the tool has in the release profile. -/
def releasePath (root : Path) (toolName : String) : Path :=
  ((root.child "target").child "release").child toolName

/-- The file that the tool has in the debug profile. -/
def debugPath (root : Path) (toolName : String) : Path :=
  ((root.child "target").child "debug").child toolName

/-- Of two profiles the one changed last; the release one if neither is
later, and whichever there is if only one is. -/
def newer (w : World) (release debug : Path) : Except ConfigError Path :=
  match w.files.modified? w.current release, w.files.modified? w.current debug with
  | none, none => .error (.noToolProfile release debug)
  | some r, some d => .ok (if r < d then debug else release)
  | none, some _ => .ok debug
  | some _, none => .ok release

/-- The file that was chosen; it must exist. -/
def resolve (choice : ToolChoice) (w : World) (root : Path) (toolName : String) :
    Except ConfigError Path := do
  let path ←
    match choice with
    | explicit path => .ok path
    | release => .ok (releasePath root toolName)
    | debug => .ok (debugPath root toolName)
    | newest => newer w (releasePath root toolName) (debugPath root toolName)
  if w.files.isFile w.current path then absolutePath w.currentPath path
  else .error (.toolNotFound path)

end ToolChoice

/-! ### Toolchains -/

/-- The tools of a build. -/
structure Toolchain where
  /-- The native C compiler, which also links the variants. -/
  cc : String
  /-- The native driver for programs in several languages. -/
  cxx : String
  /-- The C compiler for wasm. -/
  wasmCc : Path
  /-- The system root of the wasm compiler. -/
  wasmSysroot : Path
  /-- The tool that lowers wasm to bytecode. -/
  loweringTool : Path
  /-- The target, if it is another machine. -/
  target? : Option Triple
  debugSymbols : Bool
  /-- Stop a command that runs longer than this. -/
  limit? : Option Duration
  deriving DecidableEq, Repr

namespace Toolchain

/-- The usual tools of a layout. -/
def ofLayout (l : Layout) (loweringTool : Path) : Toolchain where
  cc := "clang"
  cxx := "clang++"
  wasmCc := ((l.wasmToolchain.child "dist").child "bin").child "clang"
  wasmSysroot := l.wasmToolchain.child "sysroot"
  loweringTool
  target? := none
  debugSymbols := true
  limit? := none

/-- A tool seen from anywhere: its bare name, or its absolute path. -/
def absoluteTool (current : Except SystemError Path) (tool : Path) : Except ConfigError Path :=
  if tool.hasDirectoryPart then absolutePath current tool else .ok tool

/-- The tools with every path absolute. -/
def absolute (t : Toolchain) (current : Except SystemError Path) :
    Except ConfigError Toolchain := do
  return { t with
    cc := (← absoluteTool current (.ofString t.cc)).text
    cxx := (← absoluteTool current (.ofString t.cxx)).text
    wasmCc := ← absoluteTool current t.wasmCc
    wasmSysroot := ← absolutePath current t.wasmSysroot
    loweringTool := ← absoluteTool current t.loweringTool }

/-- Whether the wasm compiler and its system root exist; a bare compiler
name is not looked up. -/
def validate (t : Toolchain) (w : World) : Except ConfigError Unit :=
  if t.wasmCc.hasDirectoryPart && !w.files.isFile w.current t.wasmCc then
    .error (.missingFile t.wasmCc)
  else if !w.files.isDirectory w.current t.wasmSysroot then
    .error (.missingDirectory t.wasmSysroot)
  else .ok ()

/-- The native driver of a program. -/
def driver (t : Toolchain) (multiLanguage : Bool) : String :=
  if multiLanguage then t.cxx else t.cc

/-- The first line that the native compiler says about itself, if it runs. -/
def compilerVersion? (tools : Tools) (cc : String) : Action (Option String) := do
  let result ←
    ({ program := Bytes.ofString cc, arguments := [Bytes.ofString "--version"] } : Command).run tools
  match result with
  | .ok output => return (Text.lines output.stdout).head?.map Text.trim
  | .error _ => return none

end Toolchain

end GuardCost
