/-
GuardCost/Cli/Level.lean

Reading one level of the command line.  Words are read from left to right.
An option with a separate value waits for it, and its value is looked at only
when the next option comes or the level ends; a word that is not known here
is reported before any fault of a waiting value.  After a double dash no
option and no command is recognised.  At the top, the first word that names a
command ends the level.
-/
import GuardCost.Cli.Given

namespace GuardCost.Cli

/-! ### Words -/

/-- A word of the command line by its leading dashes. -/
inductive Word where
  /-- Two dashes and nothing else. -/
  | dashes
  /-- Two dashes and a name, with a value after an equals sign. -/
  | long (name : Bytes) (value? : Option Bytes)
  /-- One dash and letters. -/
  | short (letters : Bytes)
  /-- Anything else, the single dash included. -/
  | plain
  deriving DecidableEq, Repr

namespace Word

/-- The dash. -/
def dash : UInt8 := 45

/-- The equals sign. -/
def equals : UInt8 := 61

/-- A name with the value after the first equals sign. -/
def ofLong (body : Bytes) : Word :=
  match splitFirst? equals body with
  | some (name, value) => long name (some value)
  | none => long body none

/-- Tell words apart. -/
def ofBytes : Bytes → Word
  | [] => plain
  | a :: rest =>
    if a ≠ dash then plain
    else match rest with
      | [] => plain
      | b :: body =>
        if b ≠ dash then short (b :: body)
        else if body = [] then dashes
        else ofLong body

end Word

/-! ### One level -/

/-- What has been read of a level: the options in place, and the option that
was read last, if its value has not been looked at. -/
structure Scan where
  given : Given := {}
  /-- An option with a value, and the value once it has been read. -/
  waiting? : Option (Opt × Option Bytes) := none
  deriving DecidableEq, Repr

namespace Scan

/-- Put the waiting option into its place. -/
def settle (s : Scan) : Except UsageError Given :=
  match s.waiting? with
  | none => .ok s.given
  | some (o, none) => .error (.missingValue o)
  | some (o, some word) => s.given.set o word

/-- Give an option with its value, or a flag. -/
def give (s : Scan) (o : Opt) (word : Bytes) : Except UsageError Scan := do
  let g ← s.settle
  return { given := ← g.set o word }

/-- Let an option wait for its value. -/
def await (s : Scan) (o : Opt) : Except UsageError Scan := do
  return { given := ← s.settle, waiting? := some (o, none) }

/-- Read an option with the value attached to it, if there is one. -/
def option (s : Scan) (o : Opt) (value? : Option Bytes) : Except UsageError Scan :=
  match o.takesValue, value? with
  | true, some value => s.give o value
  | true, none => s.await o
  | false, none => s.give o []
  | false, some _ => .error (.unwantedValue o)

/-- The value that stands behind a letter in the same word. -/
def attached? : Bytes → Option Bytes
  | [] => none
  | b :: rest => some (if b = Word.equals then rest else b :: rest)

/-- Read a word of letters: flags, up to the first option with a value. -/
def letters (level : Level) (word : Bytes) (s : Scan) : Bytes → Except UsageError Scan
  | [] => .ok s
  | b :: rest =>
    match Opt.ofShort? level b with
    | none => .error (.unknownArgument word)
    | some o =>
      if o.takesValue then s.option o (attached? rest)
      else do letters level word (← s.option o none) rest

/-- Read a word that is an option. -/
def named (level : Level) (name : Bytes) (value? : Option Bytes) (s : Scan) (word : Bytes) :
    Except UsageError Scan :=
  match Opt.ofLong? level name with
  | none => .error (.unknownArgument word)
  | some o => s.option o value?

/-- Whether the next plain word is a value. -/
def isWaiting (s : Scan) : Bool :=
  match s.waiting? with
  | some (_, none) => true
  | _ => false

/-- Read a plain word as the value that is waited for. -/
def fill (s : Scan) (word : Bytes) : Scan :=
  match s.waiting? with
  | some (o, none) => { s with waiting? := some (o, some word) }
  | _ => s

end Scan

/-! ### Commands at the top -/

/-- The word that asks for help. -/
def helpWord : Bytes := Bytes.ofString "help"

/-- Whether a word names a command or asks for help. -/
def namesCommand (word : Bytes) : Bool := (CommandName.ofWord? word).isSome || word == helpWord

/-- The fault of a word that has no place at its level.  At the top it ought
to be a command, but after a double dash the names of commands are no use. -/
def strayWord (level : Level) (afterDashes : Bool) (word : Bytes) : UsageError :=
  match level with
  | .top => if afterDashes && namesCommand word then .unknownArgument word else .unknownCommand word
  | .after _ => .unknownArgument word

/-- How the reading of a level ended: with the words, or at a command with
the words after it. -/
structure Reading where
  given : Given
  command? : Option (CommandName × List Bytes) := none
  deriving DecidableEq, Repr

/-- What is said to `help` and the words after it. -/
def helpAbout (words : List Bytes) : UsageError :=
  match words with
  | [] => .helpWanted
  | word :: rest =>
    if !namesCommand word then .unknownCommand word
    else match rest with
      | [] => .helpWanted
      | next :: _ => .unknownCommand next

/-- Read the words of a level. -/
def readLevel (level : Level) (s : Scan) : List Bytes → Except UsageError Reading
  | [] => do return { given := ← s.settle }
  | word :: rest =>
    let command? := if level = .top ∧ !s.isWaiting then CommandName.ofWord? word else none
    match command? with
    | some command => do return { given := ← s.settle, command? := some (command, rest) }
    | none =>
      if level = .top ∧ !s.isWaiting ∧ word = helpWord then .error (helpAbout rest)
      else match Word.ofBytes word with
        | .dashes =>
          match rest with
          | [] => do return { given := ← s.settle }
          | next :: _ => .error (strayWord level true next)
        | .long name value? => do readLevel level (← s.named level name value? word) rest
        | .short bs => do readLevel level (← s.letters level word bs) rest
        | .plain =>
          if s.isWaiting then readLevel level (s.fill word) rest
          else .error (strayWord level false word)

end GuardCost.Cli
