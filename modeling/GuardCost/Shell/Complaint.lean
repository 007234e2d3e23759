/-
GuardCost/Shell/Complaint.lean

How a shell complains.  A complaint names the shell or its script, the line,
and the builtin that it comes from.  An error that a shell of the plain
dialect cannot go on from ends it with exit code two; in the extended dialect
it ends no more than the line that is carried out, with exit code one.
-/
import GuardCost.Process.Basic

namespace GuardCost.Shell

open Process

/-- Whether a shell speaks the extended dialect. -/
def isExtended (p : Process) : Bool := p.shell.dialect == .extended

/-- The script and the line that a complaint starts with. -/
def complaintLead (p : Process) : String :=
  let line := toString p.shell.line ++ ": "
  if isExtended p then p.shell.sources.headD p.name ++ ": line " ++ line
  else p.name ++ ": " ++ line

/-- Complain in the name of the shell. -/
def complainAt (message : String) : Doing Unit := do
  let p ← get
  let speaker := match p.shell.speaker? with
    | some name => name ++ ": "
    | none => ""
  putError (complaintLead p ++ speaker ++ message ++ "\n")

/-- Set the exit code of the last command. -/
def setStatus (code : Nat) : Doing Unit := modify fun p => { p with shell.status := code }

/-- Complain, and do not go on. -/
def raise {α : Type} (message : String) : Doing α := do
  complainAt message
  setStatus (if isExtended (← get) then 1 else 2)
  throw .failed

/-- Whether an option is on. -/
def hasOption (p : Process) (letter : Char) : Bool := p.shell.options.contains letter

end GuardCost.Shell
