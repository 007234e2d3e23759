/-
GuardCost/Build/Layout.lean

Where things are.  A layout names four directories; three of them stand below
the root unless they are given.  Commands run inside program directories, so
before a run every directory is made absolute.
-/
import GuardCost.ConfigError
import GuardCost.Host.Plan
import GuardCost.Machine.Command

namespace GuardCost

/-- The absolute form of a path, or an error that names it. -/
def absolutePath (current : Except SystemError Path) (p : Path) : Except ConfigError Path :=
  match p.absolute current with
  | .ok q => .ok q
  | .error cause => .error (.invalidPath p cause)

/-- Where programs, runtime sources and the wasm toolchain are. -/
structure Layout where
  /-- The lowering tool is built below this directory. -/
  root : Path
  /-- One directory per program, and the marker source. -/
  benchRoot : Path
  /-- The runtime sources. -/
  runtimeDir : Path
  /-- The wasm compiler and its system root. -/
  wasmToolchain : Path
  deriving DecidableEq, Repr

namespace Layout

/-- The usual layout below a root. -/
def ofRoot (root : Path) : Layout where
  root
  benchRoot := root.child "code_benches"
  runtimeDir := root.child "runtime"
  wasmToolchain := root.child "wasmception"

/-- The layout with every directory absolute. -/
def absolute (l : Layout) (current : Except SystemError Path) : Except ConfigError Layout := do
  return {
    root := ← absolutePath current l.root
    benchRoot := ← absolutePath current l.benchRoot
    runtimeDir := ← absolutePath current l.runtimeDir
    wasmToolchain := ← absolutePath current l.wasmToolchain }

/-- The directory of a program. -/
def programDir (l : Layout) (name : String) : Path := l.benchRoot.child name

/-- The runtime sources of every variant, below the runtime directory. -/
def commonSources : List String := ["runtime.c", "libc/libc_backing.c", "libc/env.c"]

/-- The runtime sources of a variant: the common ones and its memory
implementation. -/
def runtimeSources (l : Layout) (v : Variant) : List Path :=
  commonSources.map l.runtimeDir.child
    ++ [(l.runtimeDir.child "memory").child v.runtimeSource]

/-- Whether the directories that are read exist; the first missing one. -/
def validate (l : Layout) (w : World) : Except ConfigError Unit :=
  match [l.benchRoot, l.runtimeDir].find? fun dir => !w.files.isDirectory w.current dir with
  | some dir => .error (.missingDirectory dir)
  | none => .ok ()

end Layout

end GuardCost
