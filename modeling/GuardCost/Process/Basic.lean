/-
GuardCost/Process/Basic.lean

Processes.  `Process` is one of them together with the machine that it runs
on; `Doing` is something that a process does.  What a process does ends early
when a `Flow` is thrown: the process ends, a signal ends it, time runs out,
or, in a shell, control leaves a loop or a function.

Time passes when a command starts and when a process sleeps.  Nothing happens
after the deadline of the machine.
-/
import GuardCost.Process.Channel
import GuardCost.Process.Elements
import GuardCost.Shell.Script

namespace GuardCost

namespace Process

/-! ### Control -/

/-- Why something that a process does ends early. -/
inductive Flow where
  /-- Control leaves so many loops. -/
  | leave (levels : Nat)
  /-- Control goes to the next round of a loop, out of so many loops. -/
  | again (levels : Nat)
  /-- Control leaves a function or a script. -/
  | back
  /-- The process ends. -/
  | exit (code : Nat)
  /-- An error that a shell does not go on after, unless a builtin that is not
  special has run into it. -/
  | failed
  /-- A signal ends the process. -/
  | killed (signal : Nat)
  /-- The deadline has passed. -/
  | overdue
  deriving DecidableEq, Repr

/-! ### Shells -/

/-- A variable; only one that is exported is handed on to programs. -/
structure Variable where
  value? : Option String := none
  exported : Bool := false
  readOnly : Bool := false
  /-- Whether a value that it is given is an arithmetic expression. -/
  whole : Bool := false
  /-- The values of a list; the value of a list is that of key zero. -/
  elements? : Option Elements := none
  deriving DecidableEq, Repr

/-- A process that goes on in the background.  Nothing of it is carried out
before its outcome is asked for. -/
structure Job where
  process : Nat
  /-- What becomes of the machine when the job is carried out, and how the job
  ends.  The clock of the machine starts anew, and stands in the end where the
  job has ended. -/
  run : Machine → Flow × Machine
  /-- The exit code of the job and when it ended. -/
  ended? : Option (Nat × Time) := none

/-- What a shell keeps about itself. -/
structure ShellState where
  dialect : Shell.Dialect := .plain
  /-- The number of the shell that is the ancestor of this one. -/
  number : Nat := 1000
  /-- The exit code of the last command. -/
  status : Nat := 0
  /-- The exit code of the last script whose output stood in the words of the
  current command. -/
  outputCode : Nat := 0
  /-- The line that is being carried out. -/
  line : Nat := 1
  /-- The builtin or the script that complaints come from. -/
  speaker? : Option String := none
  /-- The scripts that are being carried out as part of this one, the innermost
  first. -/
  sources : List String := []
  /-- The functions that are being carried out, the innermost first. -/
  calls : List String := []
  /-- The exit codes of the last pipeline. -/
  codes : List Nat := []
  /-- When the shell was started. -/
  started : Time := 0
  /-- Whether the script was a word of the command that started the shell. -/
  givenAsWord : Bool := false
  /-- How many scripts that are carried out stand in words of others. -/
  outputDepth : Nat := 0
  /-- How many texts are being carried out as scripts, one within the other. -/
  textDepth : Nat := 0
  /-- The options without letters that are on. -/
  settings : List String := []
  functions : List (String × Shell.Script) := []
  aliases : List (String × String) := []
  /-- The options that are on, by their letters. -/
  options : List Char := []
  /-- The texts that stand in the script, by their numbers. -/
  documents : List (Nat × Shell.Word) := []
  nextDocument : Nat := 0
  /-- What variables were before they became local, for each function that is
  being carried out. -/
  frames : List (List (String × Option Variable)) := []
  /-- How many functions are being carried out. -/
  functionDepth : Nat := 0
  /-- The loops around the command that is being carried out. -/
  loops : Nat := 0
  /-- What is done on a signal; number zero stands for the end of the
  shell. -/
  traps : List (Nat × String) := []
  /-- The exit code before the trap that is being carried out. -/
  trapStatus? : Option Nat := none
  jobs : List Job := []
  lastJob? : Option Nat := none
  /-- Which argument is read for options next. -/
  optionIndex : Nat := 1
  /-- How many letters of the argument before it were read. -/
  optionLetters? : Option Nat := none
  /-- The current directory as it was gone to, links and all. -/
  here : String := ""

end Process

/-! ### Processes -/

open Process in
/-- A process, and the machine that it runs on. -/
structure Process where
  machine : Machine
  number : Nat := 1000
  parent : Nat := 1
  /-- The name that the process goes by. -/
  name : String
  arguments : List String
  directory : Location := []
  /-- The channels behind the numbers that are open. -/
  descriptors : List (Nat × Nat) := []
  bindings : List (String × Variable) := []
  /-- The rights that new files do not get. -/
  mask : Nat := 0o022
  /-- The signals that do nothing. -/
  ignored : List Nat := []
  /-- The first output that could not be written. -/
  unwritten? : Option SystemError := none
  /-- What is to be written in the end, the newest first. -/
  pending : List String := []
  /-- What goes on in the background for a program that the process was
  before. -/
  orphans : List Job := []
  shell : ShellState := {}

namespace Process

/-- Something that a process does. -/
abbrev Doing := ExceptT Flow (StateM Process)

/-- The machine as a process sees it. -/
def world (p : Process) : World := ⟨p.machine.files, p.directory, p.machine.clock⟩

/-- The path that a text names. -/
def pathOf (s : String) : Path := ⟨Bytes.narrow s⟩

/-! ### Channels -/

/-- The channel that is open under a number. -/
def channelNumber? (p : Process) (descriptor : Nat) : Option Nat := p.descriptors.lookup descriptor

/-- Open a channel under a number, or close the number. -/
def point (p : Process) (descriptor : Nat) (channel? : Option Nat) : Process :=
  let others := p.descriptors.filter fun entry => entry.1 != descriptor
  { p with descriptors := channel?.elim others fun n => (descriptor, n) :: others }

/-- Write to a descriptor. -/
def write (descriptor : Nat) (s : String) : Doing (Except SystemError Unit) := do
  let p ← get
  match p.channelNumber? descriptor with
  | none => return .error .badDescriptor
  | some n =>
    match p.machine.write n s with
    | .ok machine => return .ok (← set { p with machine })
    | .error cause =>
      if cause = .brokenPipe then
        set { p with machine := p.machine.breakPipe n }
        if !p.ignored.contains 13 then throw (.killed 13)
      return .error cause

/-- Write to the output; a failure is kept for later. -/
def put (s : String) : Doing Unit := do
  if s.isEmpty then return ()
  match ← write 1 s with
  | .ok () => return ()
  | .error cause => modify fun p => { p with unwritten? := some (p.unwritten?.getD cause) }

/-- Write to the output for errors. -/
def putError (s : String) : Doing Unit := do
  let _ ← write 2 s

/-- Read the next line from a descriptor, with its line break. -/
def readLine (descriptor : Nat) : Doing (List Char) := do
  let p ← get
  match p.channelNumber? descriptor with
  | none => return []
  | some n =>
    let pieces := (p.machine.channel? n).elim 0 fun c => c.arriving.length
    let (line, machine) := p.machine.readLine n (pieces + 2)
    set { p with machine }
    return line

/-- Read up to so many characters from a descriptor, or up to a character that
ends them, with that. -/
def readUpTo (descriptor : Nat) (final? : Option Char) (most : Nat) : Doing (List Char) := do
  let p ← get
  match p.channelNumber? descriptor with
  | none => return []
  | some n =>
    let pieces := (p.machine.channel? n).elim 0 fun c => c.arriving.length
    let (cs, machine) := p.machine.readUpTo n final? most (pieces + 2 + most / Machine.blockSize)
    set { p with machine }
    return cs

/-- Read what is there behind a descriptor, but no more than a block. -/
def readSome (descriptor : Nat) : Doing (List Char) := do
  let p ← get
  match p.channelNumber? descriptor with
  | none => return []
  | some n =>
    let (cs, machine) := p.machine.readSome n
    set { p with machine }
    return cs

/-- Read all that is left behind a descriptor. -/
def readAll (descriptor : Nat) : Doing String := do
  let p ← get
  match p.channelNumber? descriptor with
  | none => return ""
  | some n =>
    let pieces := (p.machine.channel? n).elim 0 fun c => c.arriving.length
    let (parts, machine) := p.machine.readAll n (pieces + 2)
    set { p with machine }
    return String.ofList parts.flatten

/-! ### Time and signals -/

/-- Let time pass, but nothing after the deadline. -/
def pass (nanoseconds : Nat) : Doing Unit := do
  modify fun p => { p with machine.clock := p.machine.clock + nanoseconds }
  if (← get).machine.isOverdue then throw .overdue

/-- The signals that do nothing where no arrangements were made. -/
def harmlessSignals : List Nat := [0, 17, 18, 23, 28]

/-- The first signal that has reached a process, and the others. -/
def firstSignal? (p : Process) (time : Time) : Option (Signal × List Signal) :=
  match p.machine.signals.find? fun s => s.process == p.number && s.time ≤ time with
  | some s => some (s, p.machine.signals.erase s)
  | none => none

/-- End because of a signal.  The process has been gone since the signal came,
whatever else went on in the meantime. -/
def dieOf {α : Type} (s : Signal) : Doing α := do
  modify fun p => { p with machine.clock := s.time }
  throw (.killed s.number)

/-- The signals that stop a process until it is told to go on. -/
def stoppingSignals : List Nat := [19, 20, 21, 22]

/-- Wait for a signal that ends a process that has stopped. -/
def waitStopped {α : Type} : Doing α := do
  let p ← get
  match p.machine.signals.find? fun s => s.process == p.number && s.number == 9 with
  | some s => dieOf s
  | none => throw .overdue

/-- What a signal does to a process that has made no arrangements. -/
def suffer (s : Signal) : Doing Unit := do
  let p ← get
  if harmlessSignals.contains s.number then return ()
  else if stoppingSignals.contains s.number then waitStopped
  else if p.ignored.contains s.number && s.number != 9 then return ()
  else dieOf s

/-- Take the signals that have reached the process.  One that is not ignored
ends it, unless `trapped` has something to do for it. -/
def takeSignals (trapped : Process → Nat → Option (Doing Unit)) (allowance : Nat) : Doing Unit :=
  match allowance with
  | 0 => return ()
  | n + 1 => do
    let p ← get
    if p.machine.signals.isEmpty then return ()
    match p.firstSignal? p.machine.clock with
    | none => return ()
    | some (s, others) =>
      set { p with machine.signals := others }
      match trapped p s.number with
      | some action => action
      | none => suffer s
      takeSignals trapped n

/-- Sleep; a signal that ends the process does so at its time. -/
def sleep (nanoseconds : Nat) : Doing Unit := do
  let p ← get
  let wakeTime := p.machine.clock + nanoseconds
  let deadly := p.machine.signals.filter fun s =>
    s.process == p.number && s.time ≤ wakeTime && (s.number == 9 || !p.ignored.contains s.number)
      && !harmlessSignals.contains s.number
  match deadly with
  | s :: _ =>
    set { p with machine := p.machine.waitUntil s.time }
    suffer s
  | [] => pass nanoseconds

/-! ### Processes of their own -/

/-- Note that the pipes of a process have been open until now. -/
def holdPipes (p : Process) (m : Machine) : Machine :=
  p.descriptors.foldl (fun m (_, n) =>
    match m.channel? n with
    | some c => m.setChannel n { c with endTime := max c.endTime m.clock }
    | none => m) m

/-- How long a process in the background is followed at most after all others
have ended, in nanoseconds. -/
def patience : Nat := 60000000000

/-- Carry out what a process has left in the background.  The clock stays. -/
def finishJobs (jobs : List Job) (m : Machine) : Machine :=
  jobs.foldl (fun m job =>
    match job.ended? with
    | some _ => m
    | none =>
      let deadline := min (m.clock + patience) (m.deadline?.getD (m.clock + patience))
      let (_, after) := job.run { m with deadline? := some deadline }
      { after with clock := m.clock, deadline? := m.deadline? }) m

/-- Carry something out to the end of its process. -/
def runToEnd (body : Doing Unit) (p : Process) : Flow × Machine :=
  let (result, q) := body.run p
  let m := finishJobs (q.orphans ++ q.shell.jobs) (q.holdPipes q.machine)
  match result with
  | .ok () => (.exit q.shell.status, m)
  | .error (.exit code) => (.exit code, m)
  | .error (.killed signal) => (.killed signal, m)
  | .error .overdue => (.overdue, m)
  | .error _ => (.exit q.shell.status, m)

/-- Do something in a process of its own: of what it does only the effects on
the machine stay.  The result is how it ended. -/
def fork (child : Process → Process) (body : Doing Unit) : Doing Flow := do
  let p ← get
  let number := p.machine.nextProcess
  let c := child { p with
    machine.nextProcess := number + 1
    number
    parent := p.number
    unwritten? := none
    pending := []
    orphans := [] }
  let (flow, machine) := runToEnd body c
  set { p with machine }
  if flow = .overdue then throw .overdue
  return flow

/-- The exit code that a shell sees for an ending. -/
def codeOf : Flow → Nat
  | .exit code => code % 256
  | .killed signal => 128 + signal
  | _ => 0

/-! ### Files -/

/-- Change the files; an error leaves them alone. -/
def edit (change : World → Except SystemError FileSystem) : Doing (Except SystemError Unit) := do
  let p ← get
  match change p.world with
  | .ok files => return .ok (← set { p with machine.files := files })
  | .error cause => return .error cause

/-- The channel that opening a file for reading gives. -/
def readingChannel (w : World) (file : String) : Except SystemError (Channel ⊕ Nat) := do
  match ← w.files.find w.current (pathOf file) with
  | (place, .file ..) => return .inl { target := .file place, writable := false }
  | (_, .device (.descriptor n)) => return .inr n
  | (_, .device .terminal) => throw .noDevice
  | (_, .device d) => return .inl { target := .device d, writable := false }
  | _ => return .inl { target := .directory, writable := false }

/-- The files after opening one for writing, and the channel. -/
def writingChannel (w : World) (mask : Nat) (access : Shell.Access) (file : String) :
    Except SystemError (FileSystem × (Channel ⊕ Nat)) := do
  let place ← w.files.locateForWriting w.current (pathOf file)
  let fresh := access == .create || access == .overwrite
  let channel : Channel :=
    { target := .file place, readable := access == .readWrite, appends := access == .append }
  match w.files.lookup? place with
  | some (.device (.descriptor n)) => return (w.files, .inr n)
  | some (.device .terminal) => throw .noDevice
  | some (.device d) => return (w.files, .inl { channel with target := .device d })
  | some (.file _ rights _) =>
    let files := if fresh then w.files.insert place (.file [] rights w.now) else w.files
    return (files, .inl channel)
  | some _ => throw .isDirectory
  | none =>
    let rights := 0o666 - (0o666 &&& mask)
    return (w.files.enter place w.now (.file [] rights w.now), .inl channel)

/-- Open a file under a descriptor. -/
def openFile (access : Shell.Access) (file : String) (descriptor : Nat) :
    Doing (Except SystemError Unit) := do
  let p ← get
  let opened :=
    if access == .read then (readingChannel p.world file).map fun c => (p.machine.files, c)
    else writingChannel p.world p.mask access file
  match opened with
  | .error cause => return .error cause
  | .ok (files, .inl channel) =>
    let (n, machine) := { p.machine with files }.addChannel channel
    return .ok (← set ({ p with machine }.point descriptor (some n)))
  | .ok (_, .inr other) =>
    match p.channelNumber? other with
    | none => return .error .notFound
    | some n => return .ok (← set (p.point descriptor (some n)))

/-! ### Variables -/

/-- A variable. -/
def binding? (p : Process) (name : String) : Option Variable := p.bindings.lookup name

/-- The value of a variable, if it has one. -/
def value? (p : Process) (name : String) : Option String := (p.binding? name).bind (·.value?)

/-- Replace a variable, or take it away. -/
def setVariable (p : Process) (name : String) (v? : Option Variable) : Process :=
  let others := p.bindings.filter fun entry => entry.1 != name
  { p with bindings := v?.elim others fun v => (name, v) :: others }

/-- Give a variable a value. -/
def assign (p : Process) (name value : String) : Process :=
  let old := (p.binding? name).getD {}
  p.setVariable name (some { old with value? := some value })

/-- What a program finds in its environment. -/
def environment (p : Process) : List (String × String) :=
  p.bindings.filterMap fun (name, v) =>
    if v.exported then v.value?.map fun value => (name, value) else none

end Process

end GuardCost
