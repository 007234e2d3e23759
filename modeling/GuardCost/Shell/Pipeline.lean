/-
GuardCost/Shell/Pipeline.lean

Scripts that run side by side, each reading what the one before it writes.
They are carried out from the left to the right, each from the same time on.

A reader need not read all, and then its writer would be stopped at some time.
So a writer is given a limited room: if it fills the room and its reader comes
to the end of it, everything is carried out again with more room.
-/
import GuardCost.Shell.Call

namespace GuardCost.Shell

open Process

/-- What came of carrying out a pipeline. -/
structure Ran where
  /-- How the parts ended. -/
  flows : List Flow := []
  /-- When the last of them ended. -/
  time : Time
  /-- Whether a reader came to the end of a pipe whose writer had more. -/
  torn : Bool := false

/-- Make what was written into a pipe ready for its reader. -/
def turn (m : Machine) (n : Nat) : Machine :=
  match m.channel? n with
  | some c =>
    m.setChannel n { c with
      arriving := c.collected
      written := []
      endTime := max c.endTime m.clock }
  | none => m

/-- Carry out the parts of a pipeline from a time on. -/
def runParts (e : Engine) (s : Setting) (room : Nat) (start : Time) (input? : Option Nat) :
    List Script → Doing Ran
  | [] => return { time := start }
  | part :: rest => do
    modify fun p => { p with machine.clock := start }
    let output? ←
      if rest.isEmpty then pure none
      else do
        let p ← get
        let (n, machine) := p.machine.addChannel { target := .pipe, room? := some room }
        set { p with machine }
        pure (some n)
    let change := fun p : Process =>
      let p := input?.elim p fun n => p.point 0 (some n)
      output?.elim p fun n => p.point 1 (some n)
    let flow ← inSubshell e change (e.exec { s with last := true } part)
    let torn := match input?.bind (← get).machine.channel? with
      | some c => c.broken && c.exhausted
      | none => false
    output?.forM fun n => modify fun p => { p with machine := turn p.machine n }
    let time := (← get).machine.clock
    if torn then return { time, torn }
    let ran ← runParts e s room start output? rest
    return { ran with flows := flow :: ran.flows, time := max time ran.time }

/-- Carry out a pipeline, with more room each time it has to be done again. -/
def runPipeline (e : Engine) (s : Setting) (parts : List Script) (last : Nat) :
    List Nat → Doing Ran
  | [] => do
    let p ← get
    runParts e s last p.machine.clock none parts
  | room :: rooms => do
    let p ← get
    let ran ← runParts e s room p.machine.clock none parts
    if ran.torn then
      set p
      runPipeline e s parts last rooms
    else return ran

/-- Carry out a pipeline; its last part gives the exit code. -/
def carryOutPipeline (e : Engine) (s : Setting) (parts : List Script) : Doing Unit := do
  let first := (← get).machine.nextChannel
  let ran ← runPipeline e s parts 0x400000 [0x10000, 0x100000]
  modify fun p => { p with
    machine := { p.machine.closeSince first [] with clock := ran.time } }
  settleJobs
  ran.flows.forM reportKilled
  let codes := ran.flows.map codeOf
  modify fun p => { p with shell.codes := codes }
  let failed? := codes.reverse.find? (· ≠ 0)
  setStatus (if (← get).shell.settings.contains "pipefail" then failed?.getD 0
    else codes.getLastD 0)

end GuardCost.Shell
