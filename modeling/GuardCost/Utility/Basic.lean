/-
GuardCost/Utility/Basic.lean

What the utilities have in common.  A utility gathers its output and writes it
when it ends, while complaints go out at once.  Names are quoted in complaints
in a form that a shell can read back.
-/
import GuardCost.Process.Program

namespace GuardCost.Utility

open Process

/-- A utility: given how programs are run, what it does with its arguments,
and its exit code. -/
abbrev Tool := Runner → List String → Doing Nat

/-! ### Quoting -/

/-- Whether a character stands for something in a shell. -/
def isSpecial (c : Char) : Bool :=
  !(c.isAlphanum || ['_', '-', '.', '/', '+', '%', ',', ':', '@', ']', '\x7b', '\x7d'].contains c)

/-- Whether a character can be shown. -/
def isShown (c : Char) : Bool := ' ' ≤ c && c ≤ '~'

/-- A character that cannot be shown, as an escape. -/
def escapeText (c : Char) : String :=
  match c with
  | '\x07' => "\\a"
  | '\x08' => "\\b"
  | '\x0c' => "\\f"
  | '\n' => "\\n"
  | '\r' => "\\r"
  | '\t' => "\\t"
  | '\x0b' => "\\v"
  | c =>
    let ds := Nat.toDigits 8 c.toNat
    "\\" ++ String.ofList (List.replicate (3 - ds.length) '0' ++ ds)

/-- Runs of characters that can be shown, and of those that cannot. -/
def shownRuns : List Char → List (Bool × List Char)
  | [] => []
  | c :: rest =>
    match shownRuns rest with
    | (shown, cs) :: runs =>
      if shown == isShown c then (shown, c :: cs) :: runs
      else (isShown c, [c]) :: (shown, cs) :: runs
    | [] => [(isShown c, [c])]

/-- A text between quotation marks as a shell would read it. -/
def quoteForShell (s : String) : String :=
  let cs := s.toList
  if cs.contains '\'' && cs.all (fun c => isShown c && c != '"' && c != '$' && c != '\x60'
      && c != '\\' && c != '!') then "\"" ++ s ++ "\""
  else if cs.all fun c => isShown c && c != '\'' then "'" ++ s ++ "'"
  else
    let runs := shownRuns cs
    let pieces := runs.map fun (shown, run) =>
      if shown then
        "'" ++ String.join (run.map fun c => if c == '\'' then "'\\''" else c.toString) ++ "'"
      else "$'" ++ String.join (run.map escapeText) ++ "'"
    (if (runs.head?.map (·.1)) == some true then "" else "''") ++ String.join pieces

/-- A name in a complaint; it is quoted only where that is needed. -/
def quoteIfNeeded (s : String) : String :=
  let cs := s.toList
  let odd := cs.head? == some '~' || cs.head? == some '#'
  let plainly := cs.all fun c => isShown c && (c == '~' || c == '#' || c == '=' || !isSpecial c)
  if !cs.isEmpty && plainly && !odd then s else quoteForShell s

/-- A word in a complaint, between quotation marks. -/
def quoteWord (s : String) : String :=
  "'" ++ String.join (s.toList.map fun c =>
    if c == '\'' then "\\'" else if c == '\\' then "\\\\"
    else if isShown c then c.toString else escapeText c) ++ "'"

/-! ### Complaints -/

/-- Complain in the name of the program. -/
def complain (message : String) : Doing Unit := do
  putError ((← get).name ++ ": " ++ message ++ "\n")

/-- Point to the help. -/
def pointToHelp : Doing Unit := do
  putError ("Try '" ++ (← get).name ++ " --help' for more information.\n")

/-- End the program with an exit code. -/
def quit {α : Type} (code : Nat) : Doing α := throw (.exit code)

/-- Complain, and end the program. -/
def fatal {α : Type} (code : Nat) (message : String) : Doing α := do
  complain message
  quit code

/-- Complain about how the program was used, and end it. -/
def misuse {α : Type} (code : Nat) (message : String) : Doing α := do
  complain message
  pointToHelp
  quit code

/-- Complain that an operand is missing, and end the program. -/
def missingOperand {α : Type} (code : Nat) (operands : List String) : Doing α :=
  match operands.getLast? with
  | none => misuse code "missing operand"
  | some last => misuse code ("missing operand after " ++ quoteWord last)

/-! ### Output -/

/-- Write later, when the program ends. -/
def emit (s : String) : Doing Unit :=
  modify fun p => { p with pending := s :: p.pending }

/-- Write a line later. -/
def emitLine (s : String) : Doing Unit := emit (s ++ "\n")

/-- Write what was gathered. -/
def flush : Doing Unit := do
  let p ← get
  if !p.pending.isEmpty then
    set { p with pending := [] }
    put (String.join p.pending.reverse)

/-- Run a utility to its end: write what it has gathered, and complain if that
is not possible. -/
def runUtility (body : Doing Nat) : Doing Unit := do
  let flow ← tryCatch (return .exit (← body)) pure
  match flow with
  | .exit code =>
    flush
    match (← get).unwritten? with
    | some cause =>
      complain ("write error: " ++ cause.plainMessage)
      throw (.exit 1)
    | none => throw (.exit code)
  | flow => throw flow

/-- A text in so many places, to the right. -/
def aligned (width : Nat) (s : String) : String :=
  String.ofList (List.replicate (width - s.length) ' ') ++ s

/-! ### Input -/

/-- So much is read of a device that has no end. -/
def endless : Nat := 131072

/-- The text of a file. -/
def fileText (p : Process) (file : String) : Except SystemError String :=
  match p.machine.files.find p.directory (pathOf file) with
  | .ok (_, .device .zero) => .ok (String.ofList (List.replicate endless '\x00'))
  | _ => (p.machine.files.read p.directory (pathOf file)).map Bytes.widen

/-- Read a file to its end; a dash stands for the input. -/
def readFile (file : String) : Doing (Except SystemError String) := do
  if file == "-" then
    let p ← get
    match (p.channelNumber? 0).bind p.machine.channel? with
    | none => return .error .badDescriptor
    | some c => if c.target = .directory then return .error .isDirectory else return .ok (← readAll 0)
  else
    let p ← get
    match readingChannel p.world file with
    | .ok (.inr n) =>
      match p.channelNumber? n with
      | none => return .error .notFound
      | some _ => return .ok (← readAll n)
    | _ => return fileText p file

/-- The lines of a text, each with its line break if it has one. -/
def linesOf (s : String) : List String :=
  let rec go (line : List Char) : List Char → List String
    | [] => if line.isEmpty then [] else [String.ofList line.reverse]
    | '\n' :: rest => String.ofList ('\n' :: line).reverse :: go [] rest
    | c :: rest => go (c :: line) rest
  go [] s.toList

/-- The lines of a text without their line breaks. -/
def bareLines (s : String) : List String :=
  (linesOf s).map fun line =>
    match line.toList.reverse with
    | '\n' :: rest => String.ofList rest.reverse
    | _ => line

/-- Read files one after the other; those that cannot be read are complained
about.  The result says whether all could be read. -/
def readEach (files : List String) (each : String → String → Doing Unit) : Doing Bool := do
  let results ← (if files.isEmpty then ["-"] else files).mapM fun file => do
    match ← readFile file with
    | .ok text =>
      each file text
      return true
    | .error cause =>
      complain (quoteIfNeeded file ++ ": " ++ cause.plainMessage)
      return false
  return results.all id

/-- The texts of files put together, and whether all could be read. -/
def readTogether (files : List String) : Doing (String × Bool) := do
  let results ← (if files.isEmpty then ["-"] else files).mapM fun file => do
    match ← readFile file with
    | .ok text => return (text, true)
    | .error cause =>
      complain (quoteIfNeeded file ++ ": " ++ cause.plainMessage)
      return ("", false)
  return (String.join (results.map (·.1)), results.all (·.2))

/-- The number that a text of digits stands for. -/
def natural? (s : String) : Option Nat :=
  let cs := s.toList
  if !cs.isEmpty && cs.all Char.isDigit then
    some (cs.foldl (fun n c => n * 10 + (c.toNat - '0'.toNat)) 0)
  else none

end GuardCost.Utility
