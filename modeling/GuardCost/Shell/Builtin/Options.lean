/-
GuardCost/Shell/Builtin/Options.lean

How builtins read their options and their numbers.  An option of one letter
can take an argument, which is the rest of its word or the next word; two
dashes end the options.
-/
import GuardCost.Shell.Background

namespace GuardCost.Shell.Builtin

open Process

/-- A builtin: what it does with its arguments, and its exit code. -/
abbrev Action := List String → Doing Nat

/-- Read the options in a word; an argument may stand in the next word. -/
def readLetters (plain valued : List Char) (rest : List String) :
    List Char → Doing (List (Char × String) × List String)
  | [] => return ([], rest)
  | c :: cs =>
    if plain.contains c then do
      let (options, rest) ← readLetters plain valued rest cs
      return ((c, "") :: options, rest)
    else if valued.contains c then
      if !cs.isEmpty then return ([(c, String.ofList cs)], rest)
      else match rest with
        | a :: rest => return ([(c, a)], rest)
        | [] => raise ("No arg for -" ++ c.toString ++ " option")
    else raise ("Illegal option -" ++ c.toString)

/-- Read options up to the first word that is none. -/
def readOptionsUpTo (plain valued : List Char) (allowance : Nat) (arguments : List String) :
    Doing (List (Char × String) × List String) :=
  match allowance, arguments with
  | n + 1, a :: rest =>
    match a.toList with
    | ['-', '-'] => return ([], rest)
    | '-' :: c :: cs => do
      let (options, rest) ← readLetters plain valued rest (c :: cs)
      let (more, rest) ← readOptionsUpTo plain valued n rest
      return (options ++ more, rest)
    | _ => return ([], arguments)
  | _, _ => return ([], arguments)

/-- Read options of some letters, without and with an argument. -/
def readOptions (plain valued : List Char) (arguments : List String) :
    Doing (List (Char × String) × List String) :=
  readOptionsUpTo plain valued arguments.length arguments

/-- Whether an option was given. -/
def isGiven (options : List (Char × String)) (letter : Char) : Bool :=
  options.any fun option => option.1 == letter

/-- The number that a text stands for. -/
def readNumber (s : String) : Doing Nat := do
  let cs := s.toList
  let n := Arithmetic.ofDigits 10 cs
  if cs.isEmpty || !cs.all Char.isDigit || n > 0x7FFFFFFF then raise ("Illegal number: " ++ s)
  else return n

end GuardCost.Shell.Builtin
