/-
GuardCost/Suite/Registry.lean

The suite.  A program is known by its name, which is also the name of its
directory, so a name must be one path segment and no two programs may share
one.  `Registry.ofPrograms` checks the programs in order, each one first by
itself and then against the names before it, and reports the first fault.
Narrowing a registry to some names keeps its order.
-/
import GuardCost.ConfigError
import GuardCost.Text.Basic

namespace GuardCost

/-- A benchmark program. -/
structure Program where
  /-- The name of the program and of its directory. -/
  name : String
  /-- The arguments of every built executable. -/
  arguments : List String := []
  /-- The stack of the wasm module, in bytes. -/
  stackSize : UInt32 := 16384
  /-- More compiler flags for the native executable and the wasm module. -/
  flags : List String := []
  /-- Optimise at link time. -/
  lto : Bool := true
  /-- There may be sources in other languages than C. -/
  multiLanguage : Bool := false
  deriving DecidableEq, Repr

namespace Program

/-- A program as text: its name and its arguments. -/
def text (p : Program) : String := p.name ++ "(" ++ Text.join " " p.arguments ++ ")"

/-- The extensions of the program's source files. -/
def sourceExtensions (p : Program) : List String :=
  if p.multiLanguage then ["c", "cc", "cpp"] else ["c"]

/-- Whether a name is one segment of a path. -/
def isSegment (name : String) : Bool :=
  !(name == "." || name == ".." || name.toList.any fun c => c == '/' || c == '\\')

/-- What is wrong with a program taken by itself. -/
def fault? (p : Program) : Option ProgramFault :=
  if Text.isBlankText p.name then some .blankName
  else if !isSegment p.name then some .notOneSegment
  else if p.stackSize == 0 then some .noStack
  else none

end Program

/-- The programs of a suite, in order. -/
structure Registry where
  programs : List Program
  deriving DecidableEq, Repr

namespace Registry

/-- The first fault of a list of programs that follow programs with the names
in `seen`. -/
def firstFault? (seen : List String) : List Program → Option ConfigError
  | [] => none
  | p :: rest =>
    match p.fault? with
    | some fault => some (.invalidProgram p.name fault)
    | none =>
      if p.name ∈ seen then some (.duplicateProgram p.name)
      else firstFault? (p.name :: seen) rest

/-- The registry of a list of programs, if it has no fault. -/
def ofPrograms (programs : List Program) : Except ConfigError Registry :=
  match firstFault? [] programs with
  | some e => .error e
  | none => .ok ⟨programs⟩

/-- The program of a name. -/
def find? (r : Registry) (name : String) : Option Program :=
  r.programs.find? fun p => p.name == name

/-- The names of the programs. -/
def names (r : Registry) : List String := r.programs.map (·.name)

/-- The programs with these names, in the order of the registry. -/
def retain (r : Registry) (names : List String) : Except ConfigError Registry :=
  match names.find? fun name => (r.find? name).isNone with
  | some unknown => .error (.unknownProgram unknown)
  | none => .ok ⟨r.programs.filter fun p => decide (p.name ∈ names)⟩

end Registry

end GuardCost
