/-
GuardCost/Machine/ExitStatus.lean

How a process ended, as the system reports it: one number whose low seven
bits hold the signal that ended the process, if any, whose bit seven says
that its memory was saved, and whose next byte is its exit code.
-/
namespace GuardCost

/-- The report of the system on an ended process. -/
structure ExitStatus where
  raw : Nat
  deriving DecidableEq, Repr

/-- The name of a signal. -/
def signalName? : Nat → Option String
  | 1 => some "SIGHUP"
  | 2 => some "SIGINT"
  | 3 => some "SIGQUIT"
  | 4 => some "SIGILL"
  | 5 => some "SIGTRAP"
  | 6 => some "SIGABRT"
  | 7 => some "SIGBUS"
  | 8 => some "SIGFPE"
  | 9 => some "SIGKILL"
  | 10 => some "SIGUSR1"
  | 11 => some "SIGSEGV"
  | 12 => some "SIGUSR2"
  | 13 => some "SIGPIPE"
  | 14 => some "SIGALRM"
  | 15 => some "SIGTERM"
  | 16 => some "SIGSTKFLT"
  | 17 => some "SIGCHLD"
  | 18 => some "SIGCONT"
  | 19 => some "SIGSTOP"
  | 20 => some "SIGTSTP"
  | 21 => some "SIGTTIN"
  | 22 => some "SIGTTOU"
  | 23 => some "SIGURG"
  | 24 => some "SIGXCPU"
  | 25 => some "SIGXFSZ"
  | 26 => some "SIGVTALRM"
  | 27 => some "SIGPROF"
  | 28 => some "SIGWINCH"
  | 29 => some "SIGIO"
  | 30 => some "SIGPWR"
  | 31 => some "SIGSYS"
  | _ => none

/-- The text of a signal number. -/
def signalText (n : Nat) : String :=
  match signalName? n with
  | some name => toString n ++ " (" ++ name ++ ")"
  | none => toString n

namespace ExitStatus

/-- The status of a process that exits with a code. -/
def exited (code : Nat) : ExitStatus := ⟨code % 256 * 256⟩

/-- The status of a process that a signal ends. -/
def signalled (signal : Nat) : ExitStatus := ⟨signal % 128⟩

/-- The low seven bits. -/
def low (s : ExitStatus) : Nat := s.raw % 128

/-- The second byte. -/
def high (s : ExitStatus) : Nat := s.raw / 256 % 256

/-- The exit code, if the process exited. -/
def code? (s : ExitStatus) : Option Nat := if s.low = 0 then some s.high else none

/-- The signal that ended the process, if one did. -/
def signal? (s : ExitStatus) : Option Nat :=
  if s.low = 0 ∨ s.low = 127 then none else some s.low

/-- Whether the memory of the process was saved. -/
def savedMemory (s : ExitStatus) : Bool := s.raw / 128 % 2 == 1

/-- Whether the process exited with code zero. -/
def isSuccess (s : ExitStatus) : Bool := s.raw == 0

/-- A number in hexadecimal digits. -/
def hex (n : Nat) : String := String.ofList (Nat.toDigits 16 n)

/-- A status as text. -/
def text (s : ExitStatus) : String :=
  match s.code?, s.signal? with
  | some code, _ => "exit status: " ++ toString code
  | none, some signal =>
    "signal: " ++ signalText signal ++ if s.savedMemory then " (core dumped)" else ""
  | none, none =>
    if s.raw % 256 = 127 then
      "stopped (not terminated) by signal: " ++ signalText s.high
    else if s.raw = 65535 then "continued (WIFCONTINUED)"
    else "unrecognised wait status: " ++ toString s.raw ++ " 0x" ++ hex s.raw

end ExitStatus

end GuardCost
