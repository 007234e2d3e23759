/-
GuardCost/Shell/System.lean

The system whose programs are started by commands: its utilities, its shells,
and every script file that they interpret.  A command is refused before
anything happens if a word of it holds a zero byte, if its directory is
missing, or if its program cannot be loaded.

What is carried out within something else uses up one of an allowance, which
is far larger than what any process could hold.
-/
import GuardCost.Shell.Start
import GuardCost.Utility.Table

namespace GuardCost.Shell

open Process

/-! ### The engine -/

/-- The dialect of a shell. -/
def dialectOf (name : String) : Dialect := if name == "bash" then .extended else .plain

/-- What carries out scripts and programs that are nested so deep. -/
def engine (rounds : Nat) : Nat → Engine
  | 0 =>
    { exec := fun _ _ => throw .overdue
      execText := fun _ _ => throw .overdue
      rounds
      runner := fun _ => throw .overdue }
  | n + 1 =>
    { exec := fun s script => carryOutScript (engine rounds n) s script
      execText := fun s text =>
        carryOutText (fun s script => carryOutScript (engine rounds n) s script) s text
      rounds
      runner := fun name => do
        match Utility.ofName? name with
        | some utility =>
          let arguments := (← get).arguments
          Utility.runUtility (utility (fun name => (engine rounds n).runner name) arguments)
        | none => runShell (dialectOf name) (engine rounds n) }

/-- How deep scripts and programs can be nested. -/
def deepestNesting : Nat := 100000

/-- How often a loop can go round. -/
def mostRounds : Nat := 10000000

/-! ### Commands -/

/-- The files of a machine with nothing but its programs and devices. -/
def freshFiles : FileSystem := systemFiles

/-- Whether a word of a command holds a zero byte. -/
def holdsZero (c : Command) : Bool :=
  c.words.any (·.contains 0) || c.directory?.any (·.bytes.contains 0)

/-- The directory that a command runs in. -/
def directoryOf (c : Command) (w : World) : Except SystemError Location :=
  match c.directory? with
  | none => .ok w.current
  | some dir => do
    match ← w.files.find w.current dir with
    | (place, .directory _) => .ok place
    | _ => .error .notDirectory

/-- The number of the process that a command is. -/
def firstProcess : Nat := 1000

/-- What the process of a command finds in its environment. -/
def firstEnvironment : List (String × Variable) :=
  [("PATH", searchPath), ("HOME", "/root")].map fun (name, value) =>
    (name, { value? := some value, exported := true })

/-- The channels of a command: what it reads, what it writes, and where it
writes its errors. -/
def firstChannels (streams : Streams) : List (Nat × Channel) :=
  let silence : Channel := { target := .device .null }
  let output := match streams with
    | .capture => { target := .pipe }
    | .discard => silence
  [(0, silence), (1, output), (2, output)]

/-- The process of a command at its start.  When its time is over it is
ended. -/
def firstProcessOf (c : Command) (w : World) (current : Location) (l : Loaded) : Process :=
  let due? := c.limit?.map fun limit => w.now + limit.nanoseconds
  let signals := due?.elim [] fun time =>
    [{ time, process := firstProcess, number := 9 : Signal }]
  { machine :=
      { files := w.files
        clock := w.now
        channels := firstChannels c.streams
        nextChannel := 3
        nextProcess := firstProcess + 1
        signals
        deadline? := if c.streams = .discard then due? else none }
    number := firstProcess
    name := Bytes.widen (l.words.headD [])
    arguments := l.words.tail.map Bytes.widen
    directory := current
    descriptors := [(0, 0), (1, 1), (2, 2)]
    bindings := firstEnvironment }

/-- The bytes that were written into a channel. -/
def writtenTo (m : Machine) (n : Nat) : Bytes :=
  Bytes.narrow (((m.channel? n).map Channel.text).getD "")

/-- When the last process that held a channel went away. -/
def releaseTime (m : Machine) (n : Nat) : Time :=
  ((m.channel? n).map (·.endTime)).getD 0

/-- Carry out a command whose program has been loaded. -/
def runCommand (c : Command) (w : World) (current : Location) (l : Loaded) : Ending × World :=
  let e := engine mostRounds deepestNesting
  let (flow, m) := runToEnd (become e.runner l) (firstProcessOf c w current l)
  -- captured output is read until nobody can write any more
  let finish := match c.streams with
    | .capture => max m.clock (max (releaseTime m 1) (releaseTime m 2))
    | .discard => m.clock
  let elapsed := finish - w.now
  let isOver := c.limit?.any fun limit => limit.nanoseconds < elapsed
  let after : World := { w with files := m.files, now := finish }
  let ended := fun status => Ending.ended status (writtenTo m 1) (writtenTo m 2) ⟨elapsed⟩
  let stoppedByLimit := c.limit?.any fun limit => limit.nanoseconds ≤ elapsed
  match flow with
  | .overdue => (.stopped, after)
  | .killed signal =>
    if isOver || (signal = 9 && stoppedByLimit) then (.stopped, after)
    else (ended (.signalled signal), after)
  | .exit code => if isOver then (.stopped, after) else (ended (.exited code), after)
  | _ => (ended (.exited 0), after)

/-- The machine whose programs are the utilities, the shells and the scripts
among its files. -/
def tools : Tools := fun c w =>
  if holdsZero c then (.notStarted .zeroInWord, w)
  else match directoryOf c w with
    | .error cause => (.notStarted cause, w)
    | .ok current =>
      let there := { w with current }
      match start (load scriptDepth there · c.words) searchPath c.program with
      | .error cause => (.notStarted cause, w)
      | .ok loaded => runCommand c w current loaded

end GuardCost.Shell
