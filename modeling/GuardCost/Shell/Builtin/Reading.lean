/-
GuardCost/Shell/Builtin/Reading.lean

The builtins of the extended dialect that read input into variables: a line,
which is split into fields for some variables or for a list, or all lines.
-/
import GuardCost.Shell.Builtin.Declaring

namespace GuardCost.Shell.Builtin

open Process

/-- How input is read. -/
structure Intake where
  descriptor : Nat := 0
  /-- Whether backslashes stand for themselves. -/
  raw : Bool := false
  /-- The character that ends the input. -/
  final : Char := '\n'
  /-- The greatest number of characters. -/
  most? : Option Nat := none
  /-- Whether only that number ends the input. -/
  exact : Bool := false
  list? : Option String := none

/-- Read a piece of input, with whether each character was escaped, and whether
it was ended.  An escaped line break does not count. -/
def Intake.read (i : Intake) (allowance : Nat) : Doing (List Marked × Bool) :=
  match allowance with
  | 0 => return ([], false)
  | n + 1 => do
    let final? := if i.exact then none else some i.final
    let cs ← readUpTo i.descriptor final? (i.most?.getD 0x1000000)
    let ended := !i.exact && cs.getLast? == some i.final
    let full := i.most?.any (· ≤ cs.length)
    let line := (if ended then cs.dropLast else cs).filter (· != '\x00')
    if i.raw then return (line.map fun c => (c, false), ended || full)
    else
      let (marked, goesOn) := markEscaped line
      if goesOn && ended then
        let (more, ended) ← i.read n
        return (marked ++ more, ended)
      else return (marked, ended || full)

/-- The fields of a line. -/
def fieldsIn (separators : List Char) (allowance : Nat) (cs : List Marked) : List String :=
  match allowance, cs with
  | 0, _ => []
  | _, [] => []
  | n + 1, cs =>
    let (field, rest) := cutField separators cs
    String.ofList (field.map (·.1)) :: fieldsIn separators n rest

/-- The way to read that some options ask for. -/
def intakeOf (options : List (Char × String)) : Doing Intake := do
  let number := fun (c : Char) => (options.reverse.lookup c).bind String.toNat?
  return {
    descriptor := (number 'u').getD 0
    raw := isGiven options 'r'
    final := match options.reverse.lookup 'd' with
      | some s => s.toList.headD '\x00'
      | none => '\n'
    most? := (number 'N') <|> (number 'n')
    exact := isGiven options 'N'
    list? := options.reverse.lookup 'a' }

/-- Read the options of a builtin; the one that is not known, if there is
one. -/
def takeOptions (plain valued : List Char) (allowance : Nat) (arguments : List String) :
    Except String (List (Char × String) × List String) :=
  match allowance, arguments with
  | n + 1, a :: rest =>
    match a.toList with
    | ['-', '-'] => .ok ([], rest)
    | '-' :: c :: cs => letters n rest (c :: cs)
    | _ => .ok ([], arguments)
  | _, _ => .ok ([], arguments)
where
  letters (n : Nat) (rest : List String) :
      List Char → Except String (List (Char × String) × List String)
    | [] => takeOptions plain valued n rest
    | c :: cs =>
      if plain.contains c then
        (letters n rest cs).map fun (options, rest) => ((c, "") :: options, rest)
      else if valued.contains c then
        if !cs.isEmpty then
          (takeOptions plain valued n rest).map fun (options, rest) =>
            ((c, String.ofList cs) :: options, rest)
        else match rest with
          | a :: rest =>
            (takeOptions plain valued n rest).map fun (options, rest) => ((c, a) :: options, rest)
          | [] => .error ("-" ++ c.toString ++ ": option requires an argument")
      else .error ("-" ++ c.toString ++ ": invalid option")

/-- Read the options of a builtin, and do something with them. -/
def withOptions (plain valued : List Char) (usage : String) (arguments : List String)
    (body : List (Char × String) → List String → Doing Nat) : Doing Nat := do
  match takeOptions plain valued (2 * arguments.length + 2) arguments with
  | .ok (options, rest) => body options rest
  | .error message =>
    let code ← refuse 2 message
    putError (usage ++ "\n")
    return code

/-- How `read` is to be used. -/
def readUsage : String :=
  "read: usage: read [-ers] [-a array] [-d delim] [-i text] [-n nchars] [-N nchars] "
    ++ "[-p prompt] [-t timeout] [-u fd] [name ...]"

/-- Read a line into variables. -/
def readInto : Action := fun arguments =>
  withOptions ['e', 'r', 's'] ['a', 'd', 'i', 'n', 'N', 'p', 't', 'u'] readUsage arguments
    fun options names => do
      let i ← intakeOf options
      let p ← get
      if (p.channelNumber? i.descriptor).isNone then
        refuse 1 (toString i.descriptor ++ ": invalid file descriptor: Bad file descriptor")
      else match names.find? fun name => !isName name && !name.toList.contains '[' with
        | some bad => refuseName bad
        | none =>
          let (line, ended) ← i.read 10000
          let separators := separators (← get)
          let trimmed := line.dropWhile (isBlank separators)
          match i.list?, names with
          | some name, _ =>
            setElements name (.ofList (fieldsIn separators (trimmed.length + 1) trimmed))
          | none, [] => setVariable "REPLY" (String.ofList (line.map (·.1)))
          | none, names =>
            if i.exact then
              setVariable (names.headD "") (String.ofList (line.map (·.1)))
            else assignFields separators names trimmed
          return if ended then 0 else 1

/-- Cut a text into lines, with their line breaks. -/
def linesWithBreaks : List Char → List (List Char)
  | [] => []
  | c :: rest =>
    if c == '\n' then [c] :: linesWithBreaks rest
    else match linesWithBreaks rest with
      | line :: lines => (c :: line) :: lines
      | [] => [[c]]

/-- Read all lines into a list. -/
def readLines : Action := fun arguments =>
  withOptions ['t'] ['n', 'O', 's', 'u', 'd', 'C', 'c']
    "mapfile: usage: mapfile [-d delim] [-n count] [-O origin] [-s count] [-t] [-u fd] [array]"
    arguments fun options names => do
      let number := fun (c : Char) => (options.reverse.lookup c).bind String.toNat?
      let text ← readAll ((number 'u').getD 0)
      let lines := (linesWithBreaks text.toList).drop ((number 's').getD 0)
      let lines := match number 'n' with
        | some (n + 1) => lines.take (n + 1)
        | _ => lines
      let cut := fun (cs : List Char) =>
        if isGiven options 't' && cs.getLast? == some '\n' then cs.dropLast else cs
      setElements (names.headD "MAPFILE") (.ofList (lines.map fun cs => String.ofList (cut cs)))
      return 0

end GuardCost.Shell.Builtin
