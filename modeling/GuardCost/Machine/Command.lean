/-
GuardCost/Machine/Command.lean

Commands and what starting one does.  A command is a vector of words, never a
line for a shell; its display is for people.  What programs do when they are
started is a parameter of everything that starts one: `Tools` takes a command
and the state of the machine to an ending and a new state.

`Command.run` is the only place where a process is started.  It writes every
attempt down, oldest first, and makes an error of every ending but exit code
zero.
-/
import GuardCost.Machine.ExitStatus
import GuardCost.Machine.FileSystem
import GuardCost.Number.Decimal
import GuardCost.Text.Basic

namespace GuardCost

/-! ### Durations -/

/-- A length of time in nanoseconds. -/
structure Duration where
  nanoseconds : Nat
  deriving DecidableEq, Repr

namespace Duration

/-- The duration of so many seconds. -/
def ofSeconds (n : Nat) : Duration := ⟨n * 1000000000⟩

/-- A duration in seconds: whole seconds and the rest are converted apart. -/
def seconds (d : Duration) : Float :=
  Float.ofNat (d.nanoseconds / 1000000000)
    + Float.ofNat (d.nanoseconds % 1000000000) / 1000000000

/-- A duration as text. -/
def text (d : Duration) : String := Decimal.text Decimal.plain d.seconds ++ "s"

end Duration

/-! ### Commands -/

/-- What becomes of the output of a process. -/
inductive Streams where
  | capture
  | discard
  deriving DecidableEq, Repr

/-- A program to start, with its arguments. -/
structure Command where
  program : Bytes
  arguments : List Bytes := []
  /-- The directory to run in, if not the current one. -/
  directory? : Option Path := none
  streams : Streams := .capture
  /-- Stop the process when it runs longer than this. -/
  limit? : Option Duration := none
  deriving DecidableEq, Repr

namespace Command

/-- A word as it is shown: between quotation marks if it is empty or has a
blank in it. -/
def showWord (word : Bytes) : String :=
  let s := Bytes.lossy word
  if s.isEmpty || s.toList.any Text.isBlank then "'" ++ s ++ "'" else s

/-- The words of a command, the program first. -/
def words (c : Command) : List Bytes := c.program :: c.arguments

/-- A command as text. -/
def text (c : Command) : String := Text.join " " (c.words.map showWord)

end Command

/-! ### Errors -/

/-- Why a command did not complete. -/
inductive CommandError where
  /-- The process could not be started. -/
  | spawn (command : String) (cause : SystemError)
  /-- The process ended, but not with exit code zero. -/
  | exit (command : String) (status : ExitStatus) (stderr : String)
  /-- The process was stopped at its time limit. -/
  | timedOut (command : String) (limit : Duration)
  deriving DecidableEq, Repr

namespace CommandError

/-- The command line that failed. -/
def command : CommandError → String
  | spawn c _ => c
  | exit c _ _ => c
  | timedOut c _ => c

/-- The wording of an error. -/
def message : CommandError → String
  | spawn c cause => "failed to run `" ++ c ++ "`: " ++ cause.message
  | exit c status stderr =>
    "`" ++ c ++ "` failed (" ++ status.text ++ "): "
      ++ (Text.firstUsefulLine? stderr).getD "no error output"
  | timedOut c limit => "`" ++ c ++ "` timed out after " ++ limit.text

/-- The wording of the causes behind an error, the nearest first. -/
def causes : CommandError → List String
  | spawn _ cause => [cause.message]
  | _ => []

end CommandError

/-! ### The machine -/

/-- The state of the machine that processes work on. -/
structure World where
  files : FileSystem
  /-- The current directory. -/
  current : Location
  now : Time
  deriving Repr

/-- The path of the current directory; it cannot be told when the directory is
gone. -/
def World.currentPath (w : World) : Except SystemError Path :=
  match w.files.lookup? w.current with
  | some (.directory _) => .ok w.current.path
  | _ => .error .notFound

/-- How an attempt to start a process ended. -/
inductive Ending where
  | notStarted (cause : SystemError)
  | ended (status : ExitStatus) (stdout stderr : Bytes) (elapsed : Duration)
  | stopped
  deriving DecidableEq, Repr

/-- What the programs of a machine do: the ending of a command that is
started in a state of the machine, and the state it leaves. -/
abbrev Tools := Command → World → Ending × World

/-- What a process that ended well has left. -/
structure Output where
  stdout : String
  stderr : String
  elapsed : Duration
  deriving DecidableEq, Repr

namespace Command

/-- Captured output as text; there is none if it was discarded. -/
def captured (c : Command) (b : Bytes) : String :=
  match c.streams with
  | .capture => Bytes.lossy b
  | .discard => ""

/-- What an ending means for the one who started the command. -/
def judge (c : Command) : Ending → Except CommandError Output
  | .notStarted cause => .error (.spawn c.text cause)
  | .stopped => .error (.timedOut c.text (c.limit?.getD ⟨0⟩))
  | .ended status stdout stderr elapsed =>
    if status.isSuccess then .ok ⟨c.captured stdout, c.captured stderr, elapsed⟩
    else .error (.exit c.text status (c.captured stderr))

end Command

end GuardCost
