/-
GuardCost/Cli/UsageError.lean

What can be wrong with a command line.  Asking for help or for the version
ends the reading of the command line just as an error does, but well.
-/
import GuardCost.Cli.Option

namespace GuardCost.Cli

/-- Why a command line asks for nothing that can be done. -/
inductive UsageError where
  | helpWanted
  | versionWanted
  /-- An option or a word that is not known here. -/
  | unknownArgument (word : Bytes)
  /-- A word where a command is expected, but it names none. -/
  | unknownCommand (word : Bytes)
  /-- An option given twice, or together with one that excludes it. -/
  | conflict (first second : Opt)
  /-- An option without its value. -/
  | missingValue (o : Opt)
  /-- A value that is none of the possible ones. -/
  | impossibleValue (o : Opt) (word : Bytes)
  /-- A value that cannot be read. -/
  | unreadableValue (o : Opt) (word : Bytes)
  /-- A value that is not text. -/
  | notText (o : Opt) (word : Bytes)
  /-- A value for an option that takes none. -/
  | unwantedValue (o : Opt)
  /-- Nothing was given at all. -/
  | nothingGiven
  /-- Options were given, but no command. -/
  | missingCommand
  deriving DecidableEq, Repr

namespace UsageError

/-- The exit code of the program. -/
def exitCode : UsageError → Nat
  | helpWanted => 0
  | versionWanted => 0
  | _ => 2

/-- The wording of an error. -/
def message : UsageError → String
  | helpWanted => ""
  | versionWanted => ""
  | unknownArgument word => "unexpected argument '" ++ Bytes.lossy word ++ "'"
  | unknownCommand word => "unrecognized command '" ++ Bytes.lossy word ++ "'"
  | conflict a b =>
    if a = b then "the argument '" ++ a.text ++ "' cannot be used multiple times"
    else "the argument '" ++ a.text ++ "' cannot be used with '" ++ b.text ++ "'"
  | missingValue o => "a value is required for '" ++ o.text ++ "'"
  | impossibleValue o word => "invalid value '" ++ Bytes.lossy word ++ "' for '" ++ o.text ++ "'"
  | unreadableValue o word => "invalid value '" ++ Bytes.lossy word ++ "' for '" ++ o.text ++ "'"
  | notText o _ => "invalid UTF-8 in the value of '" ++ o.text ++ "'"
  | unwantedValue o => "the argument '" ++ o.text ++ "' takes no value"
  | nothingGiven => ""
  | missingCommand => "a command is required"

end UsageError

end GuardCost.Cli
