/-
GuardCost/Shell/Background.lean

Jobs.  A job is carried out when the shell waits for it, when time has passed
in which it can have ended, or when the shell itself ends.  Whatever it does
carries the time of its own clock.
-/
import GuardCost.Shell.Engine

namespace GuardCost.Shell

open Process

/-- Start something in the background. -/
def startJob (e : Engine) (body : Doing Unit) : Doing Unit := do
  let p ← get
  let number := p.machine.nextProcess
  let started := p.machine.clock
  let (silence, machine) := p.machine.addChannel { target := .device .null, writable := false }
  let child : Process := { p with
    number
    parent := p.number
    ignored := 2 :: 3 :: p.ignored
    unwritten? := none
    orphans := []
    shell := keptApart p.shell }
  let run := fun m : Machine =>
    runToEnd (asShell e body)
      ({ child with machine := { m with clock := started + forkingTime } }.point 0 (some silence))
  let job : Job := { process := number, run }
  set { p with
    machine := { machine with nextProcess := number + 1 }
    shell.jobs := p.shell.jobs ++ [job]
    shell.lastJob? := some number }

/-- Carry out a job, if that was not done before; its exit code and when it
has ended.  The clock stays. -/
def carryOut (job : Job) : Doing (Nat × Time) := do
  match job.ended? with
  | some ended => return ended
  | none =>
    let p ← get
    let (flow, after) := job.run p.machine
    if flow = .overdue then
      set { p with machine := after }
      throw .overdue
    let ended := (codeOf flow, after.clock)
    let jobs := p.shell.jobs.map fun j =>
      if j.process == job.process then { j with ended? := some ended } else j
    set { p with machine := { after with clock := p.machine.clock }, shell.jobs := jobs }
    return ended

/-- Carry out the jobs that have ended by now. -/
def settleJobs : Doing Unit := do
  let p ← get
  p.shell.jobs.forM fun job =>
    if job.ended?.isSome then return ()
    else do
      let p ← get
      let m := p.machine
      let (flow, after) := job.run { m with deadline? := some m.clock }
      if flow ≠ .overdue && after.clock ≤ m.clock then
        let ended := (codeOf flow, after.clock)
        let jobs := p.shell.jobs.map fun j =>
          if j.process == job.process then { j with ended? := some ended } else j
        set { p with
          machine := { after with clock := m.clock, deadline? := m.deadline? }
          shell.jobs := jobs }

/-- Wait until a time; the number of the signal that ends the waiting early,
if one does. -/
def waitUntil (e : Engine) (time : Time) : Doing (Option Nat) := do
  let p ← get
  let coming := p.machine.signals.filter fun s => s.process == p.number && s.time ≤ time
  match coming.find? fun s => !p.ignored.contains s.number && !harmlessSignals.contains s.number with
  | some s =>
    set { p with machine := p.machine.waitUntil s.time }
    takeTraps e
    return some s.number
  | none =>
    set { p with machine := p.machine.waitUntil time }
    return none

/-- Say which signal ended a job. -/
def reportJob (code : Nat) : Doing Unit :=
  if code > 128 then reportKilled (.killed (code - 128)) else return ()

/-- The job that a text names. -/
def jobOf? (p : Process) (s : String) : Option Job :=
  match s.toList with
  | '%' :: rest =>
    if rest.isEmpty || rest == ['%'] || rest == ['+'] then p.shell.jobs.getLast?
    else if rest == ['-'] then p.shell.jobs.dropLast.getLast?
    else if rest.all Char.isDigit then
      let n := Arithmetic.ofDigits 10 rest
      if n = 0 then none else p.shell.jobs[n - 1]?
    else none
  | cs => p.shell.jobs.find? fun job => (toString job.process).toList == cs

/-- Wait for all jobs. -/
def waitForAll (e : Engine) : List Job → Doing Nat
  | [] => return 0
  | job :: rest => do
    let (_, time) ← carryOut job
    match ← waitUntil e time with
    | some signal => return 128 + signal
    | none => waitForAll e rest

/-- Wait for jobs; the exit code of the last. -/
def waitForEach (e : Engine) (code : Nat) : List String → Doing Nat
  | [] => return code
  | a :: rest => do
    match jobOf? (← get) a with
    | none =>
      if a.toList.head? == some '%' then raise ("No such job: " ++ a)
      else if !a.toList.all Char.isDigit || a.isEmpty then raise ("Illegal number: " ++ a)
      else waitForEach e 127 rest
    | some job =>
      let fresh := job.ended?.isNone
      let (code, time) ← carryOut job
      match ← waitUntil e time with
      | some signal => return 128 + signal
      | none =>
        if fresh then reportJob code
        waitForEach e code rest

end GuardCost.Shell
