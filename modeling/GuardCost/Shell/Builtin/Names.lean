/-
GuardCost/Shell/Builtin/Names.lean

What the name of a command means: a keyword, an alias, a builtin, a function,
or a program on the search path; and the builtins that tell.
-/
import GuardCost.Shell.Builtin.Options
import GuardCost.Shell.Grammar

namespace GuardCost.Shell.Builtin

open Process

/-! ### Names -/

/-- The builtins whose errors end the shell. -/
def specialNames : List String :=
  [".", ":", "break", "continue", "eval", "exec", "exit", "export", "local", "readonly", "return",
    "set", "shift", "times", "trap", "unset"]

/-- The other builtins. -/
def regularNames : List String :=
  ["[", "alias", "bg", "cd", "chdir", "command", "echo", "false", "fg", "getopts", "hash", "jobs",
    "kill", "printf", "pwd", "read", "test", "true", "type", "ulimit", "umask", "unalias", "wait"]

/-- The builtins that only the extended dialect has. -/
def extendedNames : List String :=
  ["bind", "builtin", "caller", "compgen", "complete", "compopt", "declare", "dirs", "disown",
    "enable", "fc", "help", "history", "let", "logout", "mapfile", "popd", "pushd", "readarray",
    "shopt", "source", "suspend", "typeset"]

/-- Whether a name is that of a builtin. -/
def isBuiltin (d : Dialect) (name : String) : Bool :=
  match d with
  | .plain => specialNames.contains name || regularNames.contains name
  | .extended =>
    name != "chdir" && (specialNames.contains name || regularNames.contains name
      || extendedNames.contains name)

/-- The builtins whose arguments can be assignments. -/
def declaringNames : Dialect → List String
  | .plain => ["export", "readonly", "local"]
  | .extended => ["export", "readonly", "local", "declare", "typeset"]

/-- What a name stands for. -/
inductive Meaning where
  | function (body : Script)
  | builtin (name : String)
  /-- A program, at a path that may hold one. -/
  | program (path : String)
  /-- Why there is no program. -/
  | missing (cause : SystemError)

/-! ### Looking up -/

/-- Look for a file that can be run among the places where it may be; files
that cannot be run are remembered. -/
def firstProgram (p : Process) (seen : SystemError) : List Path → Except SystemError Path
  | [] => .error seen
  | file :: rest =>
    match p.machine.files.find p.directory file with
    | .ok (_, .file _ rights _) =>
      if rights.isRunnable then .ok file else firstProgram p .denied rest
    | .ok _ => firstProgram p .denied rest
    | .error cause =>
      if cause = .notFound ∨ cause = .notDirectory then firstProgram p seen rest
      else firstProgram p cause rest

/-- Find the program of a name along a search path. -/
def findProgram (p : Process) (path : String) (name : String) : Except SystemError Path :=
  firstProgram p .notFound (candidates path (Bytes.narrow name))

/-- What a name stands for as a command; functions can be left out. -/
def meaningOf (p : Process) (withFunctions : Bool) (path : String) (name : String) : Meaning :=
  if name.toList.contains '/' then .program name
  else match (if withFunctions then p.shell.functions.lookup name else none) with
    | some body => .function body
    | none =>
      if isBuiltin p.shell.dialect name then .builtin name
      else match findProgram p path name with
        | .ok file => .program (Bytes.widen file.bytes)
        | .error cause => .missing cause

/-- Why a program cannot be run, as a shell says it. -/
def missingText (cause : SystemError) : String :=
  if cause = .notFound ∨ cause = .notDirectory then "not found" else cause.plainMessage

/-- Why a program cannot be run, as a shell of the extended dialect says it. -/
def extendedMissingText (p : Process) (name : String) (cause : SystemError) : String :=
  if cause = .notExecutable then "cannot execute binary file: Exec format error"
  else
    match p.machine.files.find p.directory (pathOf name) with
    | .ok (_, .directory _) => "Is a directory"
    | .ok (_, .file ..) =>
      if cause = .notFound then "cannot execute: required file not found" else cause.plainMessage
    | _ => cause.plainMessage

/-- Whether a path names a file that can be run. -/
def canRun (p : Process) (path : String) : Bool :=
  match p.machine.files.find p.directory (pathOf path) with
  | .ok (_, .file _ rights _) => rights.isRunnable
  | .ok (_, .directory _) => true
  | _ => false

/-- Tell what a name stands for, in words or in the form in which it can be
used. -/
def tell (wordy : Bool) (path name : String) : Doing Nat := do
  let p ← get
  let say := fun (short long : String) => do
    put ((if wordy then name ++ long else short) ++ "\n")
    return 0
  let unknown : Doing Nat := do
    if wordy then put (name ++ ": not found\n")
    return 127
  if keywords.contains name then say name " is a shell keyword"
  else match p.shell.aliases.lookup name with
    | some value => say ("alias " ++ name ++ "=" ++ quoted value) (" is an alias for " ++ value)
    | none =>
      match meaningOf p true path name with
      | .function _ => say name " is a shell function"
      | .builtin _ =>
        say name (if specialNames.contains name then " is a special shell builtin"
          else " is a shell builtin")
      | .program file =>
        if !name.toList.contains '/' || canRun p name then say file (" is " ++ file)
        else unknown
      | .missing _ => unknown

/-- Tell what names stand for. -/
def tellAll : Action := fun names => do
  let codes ← names.mapM (tell true (pathOfProcess (← get)))
  return (codes.find? (· ≠ 0)).getD 0

/-- Remember where programs are; here this only tells whether they are
there. -/
def rememberPrograms : Action := fun arguments => do
  let (_, names) ← readOptions ['r'] [] arguments
  let codes ← names.mapM fun name => do
    let p ← get
    match meaningOf p true (pathOfProcess p) name with
    | .missing cause =>
      complainAt (name ++ ": " ++ missingText cause)
      return 1
    | _ => return 0
  return (codes.find? (· ≠ 0)).getD 0

/-! ### Aliases -/

/-- An alias as it is listed. -/
def aliasText (name value : String) : String := name ++ "=" ++ quoted value ++ "\n"

/-- Set or show one alias. -/
def setAlias (a : String) : Doing Nat := do
  match splitFirst? '=' a.toList with
  | some (c :: cs, value) =>
    let name := String.ofList (c :: cs)
    modify fun p => { p with
      shell.aliases := (name, String.ofList value)
        :: p.shell.aliases.filter fun entry => entry.1 != name }
    return 0
  | _ =>
    match (← get).shell.aliases.lookup a with
    | some value =>
      put (aliasText a value)
      return 0
    | none =>
      putError ("alias: " ++ a ++ " not found\n")
      return 1

/-- Set or list aliases. -/
def setAliases : Action := fun arguments => do
  if arguments.isEmpty then
    put (String.join ((← get).shell.aliases.map fun (name, value) => aliasText name value))
    return 0
  else
    let codes ← arguments.mapM setAlias
    return (codes.find? (· ≠ 0)).getD 0

/-- Take aliases away. -/
def unsetAliases : Action := fun arguments => do
  let (options, names) ← readOptions ['a'] [] arguments
  if isGiven options 'a' then
    modify fun p => { p with shell.aliases := [] }
    return 0
  else
    let codes ← names.mapM fun name => do
      let p ← get
      if (p.shell.aliases.lookup name).isSome then
        set { p with shell.aliases := p.shell.aliases.filter fun entry => entry.1 != name }
        return 0
      else
        putError ("unalias: " ++ name ++ " not found\n")
        return 1
    return (codes.find? (· ≠ 0)).getD 0

end GuardCost.Shell.Builtin
