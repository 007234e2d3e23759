/-
GuardCost/Shell/Engine.lean

What the parts of a shell need of each other.  An `Engine` carries out scripts
and starts programs; builtins and expansions are given one, so that they can be
defined before the scripts that they are part of.

A shell that ends carries out its trap for number zero first.  A trap leaves
the exit code of the last command as it was.
-/
import GuardCost.Process.Program
import GuardCost.Shell.Redirection

namespace GuardCost.Shell

open Process

/-! ### Engines -/

/-- Where a script stands. -/
structure Setting where
  /-- Whether its exit code is looked at, so that a failure is no reason to
  end the shell. -/
  tested : Bool := false
  /-- Whether the shell has nothing left to do after it. -/
  last : Bool := false
  deriving DecidableEq, Repr

/-- What carries out the parts of a shell. -/
structure Engine where
  /-- Carry out a script. -/
  exec : Setting → Script → Doing Unit
  /-- Carry out a text as a script. -/
  execText : Setting → String → Doing Unit
  /-- How often a loop goes round before it is taken to go on for ever. -/
  rounds : Nat
  /-- Run a program. -/
  runner : Runner

/-! ### Traps -/

/-- Carry out the text of a trap.  In the extended dialect its lines are counted
by themselves, unless it is for a command that failed. -/
def carryOutTrap (e : Engine) (kind text : String) : Doing Unit := do
  let p ← get
  if isExtended p then
    let line := if kind == "error trap" then p.shell.line else 1
    let depth := p.shell.textDepth
    set { p with
      shell.speaker? := some kind
      shell.line := line
      shell.textDepth := depth + 1 }
    e.execText {} text
    modify fun q => { q with
      shell.speaker? := p.shell.speaker?
      shell.line := p.shell.line
      shell.textDepth := depth }
  else e.execText {} text

/-- Carry out a trap. -/
def runTrap (e : Engine) (kind text : String) : Doing Unit := do
  let shell := (← get).shell
  let status := shell.trapStatus?.getD shell.status
  modify fun p => { p with shell.trapStatus? := some status }
  carryOutTrap e kind text
  modify fun p => { p with shell.status := status, shell.trapStatus? := shell.trapStatus? }

/-- Take the signals that have reached the shell. -/
def takeTraps (e : Engine) : Doing Unit := do
  if !(← get).machine.signals.isEmpty then
    takeSignals (fun p n => (p.shell.traps.lookup n).map (runTrap e "trap")) 64

/-- Whether there is something to do on a signal or at the end. -/
def hasTraps (p : Process) : Bool := p.shell.traps.any fun entry => !entry.2.isEmpty

/-- The exit code with which a shell ends, if it does so by itself. -/
def ownEnding? (p : Process) : Flow → Option Nat
  | .killed _ => none
  | .overdue => none
  | .exit code => some code
  | _ => some p.shell.status

/-- Do something as a shell, to the end of the shell. -/
def asShell (e : Engine) (body : Doing Unit) : Doing Unit := do
  let ended ← tryCatch (do
    body
    return .exit (← get).shell.status) pure
  match ownEnding? (← get) ended with
  | none => throw ended
  | some code =>
    setStatus code
    match (← get).shell.traps.lookup 0 with
    | none => throw (.exit code)
    | some text =>
      modify fun p =>
        { p with
          shell.traps := p.shell.traps.filter fun entry => entry.1 != 0
          shell.trapStatus? := some code }
      let after ← tryCatch (do
        carryOutTrap e "exit trap" text
        return .exit code) pure
      match ownEnding? (← get) after with
      | none => throw after
      | some code => throw (.exit code)

/-! ### Subshells -/

/-- What a shell keeps when it goes on in a process of its own. -/
def keptApart (s : ShellState) : ShellState :=
  { s with
    traps := s.traps.filter fun entry => entry.2.isEmpty
    trapStatus? := none
    jobs := [] }

/-- How long it takes to split a process, in nanoseconds. -/
def forkingTime : Nat := 200000

/-- Do something in a shell of its own: of what it does only the effects on
the machine stay.  The result is how it ended. -/
def inSubshell (e : Engine) (change : Process → Process) (body : Doing Unit) : Doing Flow :=
  fork (fun p => change { p with shell := keptApart p.shell }) (do
    pass forkingTime
    asShell e body)

/-- The names of signals as they are said when one ends a command. -/
def signalPhrase (n : Nat) : String :=
  match n with
  | 1 => "Hangup"
  | 2 => "Interrupt"
  | 3 => "Quit"
  | 4 => "Illegal instruction"
  | 5 => "Trace/breakpoint trap"
  | 6 => "Aborted"
  | 7 => "Bus error"
  | 8 => "Floating point exception"
  | 9 => "Killed"
  | 10 => "User defined signal 1"
  | 11 => "Segmentation fault"
  | 12 => "User defined signal 2"
  | 13 => "Broken pipe"
  | 14 => "Alarm clock"
  | 15 => "Terminated"
  | 16 => "Stack fault"
  | 17 => "Child exited"
  | 18 => "Continued"
  | 19 => "Stopped (signal)"
  | 20 => "Stopped"
  | 21 => "Stopped (tty input)"
  | 22 => "Stopped (tty output)"
  | 23 => "Urgent I/O condition"
  | 24 => "CPU time limit exceeded"
  | 25 => "File size limit exceeded"
  | 26 => "Virtual timer expired"
  | 27 => "Profiling timer expired"
  | 28 => "Window changed"
  | 29 => "I/O possible"
  | 30 => "Power failure"
  | 31 => "Bad system call"
  | n => if n < 34 then "Unknown signal " ++ toString n else "Real-time signal " ++ toString (n - 34)

/-- Say that a signal ended a command, unless it is one that says enough by
itself. -/
def reportKilled (flow : Flow) : Doing Unit :=
  match flow with
  | .killed n => if n == 2 || n == 13 then return () else putError (signalPhrase n ++ "\n")
  | _ => return ()

/-- See how a command that was waited for has ended. -/
def conclude (flow : Flow) : Doing Unit := do
  reportKilled flow
  setStatus (codeOf flow)

end GuardCost.Shell
