/-
GuardCost/Machine/Session.lean

The state of a run: the machine, the commands started so far, the metrics,
and what was said.  Actions on it are plain state transformers.
-/
import GuardCost.Machine.Command
import GuardCost.Machine.Console
import GuardCost.Metrics.Store
import GuardCost.Text.Visible

namespace GuardCost

/-- The state of a run. -/
structure Session where
  world : World
  /-- Every command that the run tried to start, oldest first. -/
  started : List Command := []
  metrics : Metrics.Recorder := none
  console : Console := {}

/-- An action on the state of a run. -/
abbrev Action := StateM Session

namespace Session

/-- The state before anything happens, without metrics. -/
def ofWorld (world : World) : Session := { world }

end Session

/-- Record a metric event. -/
def recordEvent (key : Metrics.Key) (event : Metrics.Event) : Action Unit :=
  modify fun s => { s with metrics := s.metrics.record key event }

/-- Give a notice. -/
def notify (notice : Notice) : Action Unit :=
  modify fun s => { s with console := s.console.add notice }

/-- Give a notice of a kind. -/
def say (mark : Mark) (text : String) : Action Unit := notify { mark, text }

/-- Write to the standard output. -/
def print (text : String) : Action Unit :=
  modify fun s => { s with console.printed := s.console.printed ++ text }

/-- Note an event. -/
def noteEvent (severity : Severity) (message : String) (more : List (String × String)) :
    Action Unit :=
  modify fun s => { s with console := s.console.report severity message more }

/-- Do something whose events say what they happened within. -/
def within {α : Type} (kind program : String) (body : Action α) : Action α := do
  let outer := (← get).console.within
  let context := outer ++ kind ++ "\x7bprogram=" ++ program ++ "\x7d: "
  modify fun s => { s with console.within := context }
  let result ← body
  modify fun s => { s with console.within := outer }
  return result

/-- Change the files; an error leaves them alone. -/
def changeFiles (change : World → Except SystemError FileSystem) :
    Action (Except SystemError Unit) := fun s =>
  match change s.world with
  | .ok files => (.ok (), { s with world := { s.world with files } })
  | .error cause => (.error cause, s)

/-- Write a text to a file.  The devices of the descriptors one and two lead
to the console. -/
def writeText (path : Path) (text : String) : Action (Except SystemError Unit) := do
  let w := (← get).world
  match w.files.find w.current path with
  | .ok (_, .device (.descriptor 1)) => return .ok (← print text)
  | .ok (_, .device (.descriptor 2)) => return .ok (← notify { mark := .verbatim, text })
  | _ => changeFiles fun w => w.files.write w.current w.now path (Bytes.ofString text)

/-- What the failure of a command leaves in the events. -/
def reportFailure (e : CommandError) : Action Unit :=
  match e with
  | .spawn .. => return ()
  | .exit c status stderr =>
    noteEvent .error c
      (("status", status.text) :: if stderr.isEmpty then [] else [("stderr", stderr)])
  | .timedOut c limit =>
    noteEvent .error (c ++ " timed out")
      [("timeout_secs", Decimal.text Decimal.precise limit.seconds)]

/-- Start a command, wait for it, and judge how it ended. -/
def Command.run (tools : Tools) (c : Command) : Action (Except CommandError Output) := do
  let cwd := match c.directory? with
    | some dir => "Some(" ++ Text.quote dir.text ++ ")"
    | none => "None"
  noteEvent .detail c.text [("cwd", cwd)]
  let s ← get
  let (ending, world) := tools c s.world
  set { s with world, started := s.started ++ [c] }
  match c.judge ending with
  | .error e =>
    reportFailure e
    return .error e
  | .ok output => return .ok output

end GuardCost
