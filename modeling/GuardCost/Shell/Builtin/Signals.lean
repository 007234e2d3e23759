/-
GuardCost/Shell/Builtin/Signals.lean

The builtins that are about signals and jobs.
-/
import GuardCost.Machine.ExitStatus
import GuardCost.Shell.Builtin.Options
import GuardCost.Text.Format

namespace GuardCost.Shell.Builtin

open Process

/-! ### Names of signals -/

/-- The name of a signal without its first three letters. -/
def shortName? (n : Nat) : Option String :=
  if n = 0 then some "EXIT"
  else if n = 16 then none
  else (signalName? n).map fun name => String.ofList (name.toList.drop 3)

/-- The name of a signal as it is listed. -/
def listedName (n : Nat) : String :=
  match shortName? n with
  | some name => name
  | none =>
    if n = 34 then "RTMIN"
    else if n = 64 then "RTMAX"
    else if 34 < n && n ≤ 49 then "RTMIN+" ++ toString (n - 34)
    else if 49 < n && n < 64 then "RTMAX-" ++ toString (64 - n)
    else toString n

/-- The number of a signal, given as a number or by its name. -/
def signalNumber? (lowest : Nat) (s : String) : Option Nat :=
  let cs := s.toList
  if !cs.isEmpty && cs.all Char.isDigit then
    let n := Arithmetic.ofDigits 10 cs
    if n < 65 then some n else none
  else (List.range 65).find? fun n => lowest ≤ n && listedName n == s.toUpper

/-! ### Sending -/

/-- Whether a process can be reached. -/
def isRunning (p : Process) (number : Nat) : Bool :=
  number == p.number || number == p.parent || number == p.shell.number
    || p.shell.jobs.any fun job => job.process == number && job.ended?.isNone

/-- Send a signal to one process; whether that was possible. -/
def sendTo (signal : Nat) (target : String) : Doing Bool := do
  let p ← get
  -- a job or a negative number stands for a group of processes, and there is none
  let number? ← match target.toList with
    | '%' :: _ =>
      if (jobOf? p target).isNone then raise ("No such job: " ++ target) else pure none
    | '-' :: rest => do
      let _ ← readNumber (String.ofList rest)
      pure none
    | _ => some <$> readNumber target
  if number?.any (isRunning p) then
    if signal ≠ 0 then
      set { p with machine := p.machine.send {
        time := p.machine.clock, process := number?.getD 0, number := signal } }
    return true
  else
    complainAt "No such process\n"
    return false

/-- How signals are to be sent. -/
def sendUsage : String :=
  "Usage: kill [-s sigspec | -signum | -sigspec] [pid | job]... or\nkill -l [exitstatus]"

/-- List the names of signals, or the name of one. -/
def listSignals (arguments : List String) : Doing Nat := do
  match arguments with
  | [] =>
    put (String.join ("0\n" :: (List.range 64).map fun n => listedName (n + 1) ++ "\n"))
    return 0
  | a :: _ =>
    let n ← readNumber a
    let n := if n > 128 then n - 128 else n
    if 0 < n && n < 65 then
      put (listedName n ++ "\n")
      return 0
    else raise ("invalid signal number or exit status: " ++ a)

/-- Send a signal. -/
def sendSignals : Action := fun arguments => do
  let named? := match arguments with
    | a :: _ =>
      match a.toList with
      | '-' :: name => signalNumber? 1 (String.ofList name)
      | _ => none
    | [] => none
  let (signal, list, targets) ← match named? with
    | some signal => pure (signal, false, arguments.tail)
    | none => do
      let (options, rest) ← readOptions ['l'] ['s'] arguments
      let signal ← match options.reverse.lookup 's' with
        | some name =>
          match signalNumber? 1 name with
          | some signal => pure signal
          | none => raise ("invalid signal number or name: " ++ name)
        | none => pure 15
      pure (signal, isGiven options 'l', rest)
  if list then listSignals targets
  else if targets.isEmpty then raise sendUsage
  else
    let sent ← targets.mapM (sendTo signal)
    return if sent.all id then 0 else 1

/-! ### Traps -/

/-- List the traps. -/
def listTraps : Doing Unit := do
  let traps := (← get).shell.traps.mergeSort fun a b => a.1 ≤ b.1
  put (String.join (traps.map fun (n, text) =>
    "trap -- " ++ quoted text ++ " " ++ listedName n ++ "\n"))

/-- Say what is done on a signal: a text is carried out, an empty one makes
the signal do nothing. -/
def arrange (signal : Nat) (action? : Option String) : Doing Unit :=
  modify fun p =>
    let others := p.shell.traps.filter fun entry => entry.1 != signal
    let heard := p.ignored.filter (· != signal)
    match action? with
    | none => { p with shell.traps := others, ignored := heard }
    | some text =>
      { p with
        shell.traps := (signal, text) :: others
        ignored := if text.isEmpty then signal :: heard else heard }

/-- Arrange for signals up to the first that is not known. -/
def arrangeAll (action? : Option String) : List String → Doing Nat
  | [] => return 0
  | a :: rest => do
    match signalNumber? 0 a with
    | some signal =>
      arrange signal action?
      arrangeAll action? rest
    | none =>
      putError ("trap: " ++ a ++ ": bad trap\n")
      return 1

/-- Set or list traps. -/
def setTraps : Action := fun arguments => do
  let (_, rest) ← readOptions [] [] arguments
  match rest with
  | [] =>
    listTraps
    return 0
  | [a] => arrangeAll none [a]
  | action :: signals =>
    let isNumber := match signalNumber? 0 action with
      | some _ => action.toList.all Char.isDigit
      | none => false
    if isNumber then arrangeAll none rest
    else arrangeAll (if action == "-" then none else some action) signals

/-! ### Jobs -/

/-- Wait for jobs. -/
def waitForJobs (e : Engine) : Action := fun arguments => do
  let (_, targets) ← readOptions [] [] arguments
  if targets.isEmpty then waitForAll e (← get).shell.jobs
  else waitForEach e 127 targets

/-- How a job stands. -/
def jobState (job : Job) : String :=
  match job.ended? with
  | none => "Running"
  | some (code, _) =>
    if code = 0 then "Done"
    else if code > 128 then signalPhrase (code - 128)
    else "Done(" ++ toString code ++ ")"

/-- List the jobs; those that have ended are forgotten. -/
def listJobs : Action := fun arguments => do
  let _ ← readOptions ['l', 'p'] [] arguments
  settleJobs
  let jobs := (← get).shell.jobs
  let count := jobs.length
  let rows := (List.range count).zip jobs
  put (String.join (rows.map fun (i, job) =>
    let sign := if i + 1 = count then "+" else if i + 2 = count then "-" else " "
    let start := "[" ++ toString (i + 1) ++ "] " ++ sign ++ " " ++ jobState job
    start ++ Text.Conversion.fill (33 - start.length) ' ' ++ "\n"))
  modify fun p => { p with shell.jobs := p.shell.jobs.filter fun job => job.ended?.isNone }
  return 0

/-- Complain that there is no job to go on with. -/
def continueJob : Action := fun _ => do raise "No current job"

end GuardCost.Shell.Builtin
