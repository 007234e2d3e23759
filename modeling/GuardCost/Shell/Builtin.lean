/-
GuardCost/Shell/Builtin.lean

The commands that a shell carries out itself.  One that fails to write its
output says so.
-/
import GuardCost.Shell.Builtin.Extended

namespace GuardCost.Shell.Builtin

open Process

/-- Write a text. -/
def write (arguments : List String) : Doing Nat := do
  put (Printing.echo arguments)
  return 0

/-- Write values as a format says. -/
def writeFormatted : Action := fun arguments => do
  let (_, rest) ← readOptions [] [] arguments
  match rest with
  | [] => raise "usage: printf format [arg ...]"
  | format :: values =>
    let printed := Printing.printf .plain format values
    printed.complaints.reverse.forM complainAt
    match printed.fatal? with
    | some message =>
      put printed.text
      raise message
    | none =>
      put printed.text
      return if printed.complaints.isEmpty then 0 else 1

/-- What a builtin does. -/
def actionOf (e : Engine) (s : Setting) (name : String) : Action :=
  match name with
  | ":" => fun _ => return 0
  | "true" => fun _ => return 0
  | "false" => fun _ => return 1
  | "echo" => write
  | "printf" => writeFormatted
  | "test" => testCondition
  | "[" => testBetweenBrackets
  | "." => carryOutFile e
  | "break" => leaveLoops
  | "continue" => nextRound
  | "eval" => evaluate e s
  | "exec" => replaceShell e
  | "exit" => endShell
  | "export" => exportAll
  | "local" => localAll
  | "readonly" => protectAll
  | "return" => goBack
  | "set" => setAll
  | "shift" => shift
  | "times" => showTimes
  | "trap" => setTraps
  | "unset" => unsetAll
  | "alias" => setAliases
  | "unalias" => unsetAliases
  | "cd" => changeDirectory
  | "chdir" => changeDirectory
  | "command" => describeCommand
  | "getopts" => getOptions
  | "hash" => rememberPrograms
  | "jobs" => listJobs
  | "fg" => continueJob
  | "bg" => continueJob
  | "kill" => sendSignals
  | "pwd" => writeDirectory
  | "read" => readVariables
  | "type" => tellAll
  | "ulimit" => showLimits
  | "umask" => changeMask
  | "wait" => waitForJobs e
  | _ => fun _ => return 0

/-- What a builtin does in the dialect of the shell. -/
def actionIn (d : Dialect) (e : Engine) (s : Setting) (name : String) : Action :=
  match d with
  | .plain => actionOf e s name
  | .extended => (extendedAction? e s name).getD (actionOf e s name)

/-- Carry out the builtin that the arguments name. -/
def carryOutBuiltin (e : Engine) (s : Setting) : Action := fun arguments => do
  match arguments with
  | [] => return 0
  | name :: rest =>
    if isBuiltin .extended name then
      modify fun p => { p with shell.speaker? := some name }
      actionIn .extended e s name rest
    else refuse 1 (name ++ ": not a shell builtin")

/-- Complain about output that could not be written; whether there was any. -/
def checkOutput (name : String) : Doing Bool := do
  let p ← get
  match p.unwritten? with
  | none => return false
  | some cause =>
    complainAt (if isExtended p then "write error: " ++ cause.plainMessage
      else name ++ ": I/O error")
    modify fun p => { p with unwritten? := none }
    return true

/-- Carry out a builtin.  An error ends the shell only where the builtin is
special. -/
def run (e : Engine) (s : Setting) (special : Bool) (name : String) (arguments : List String) :
    Doing Unit := do
  let outer := (← get).shell.speaker?
  modify fun p => { p with shell.speaker? := some name }
  let dialect := (← get).shell.dialect
  let action := if dialect == .extended && name == "builtin" then carryOutBuiltin e s
    else actionIn dialect e s name
  let result ← tryCatch (Except.ok <$> action arguments) (fun flow => return .error flow)
  let failedToWrite ← checkOutput name
  modify fun p => { p with shell.speaker? := outer }
  match result with
  | .ok code => setStatus (if failedToWrite then code ||| 1 else code)
  | .error .failed => if special || dialect == .extended then throw .failed else setStatus 2
  | .error flow => throw flow

end GuardCost.Shell.Builtin
