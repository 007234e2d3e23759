/-
GuardCost/Shell/Source.lean

What is left to read of a script, and how readers move along it.  A reader
can give one token back.  Texts that follow the line on which they are asked
for wait in `awaited`; once read they are kept in `documents` under their
numbers.
-/
import GuardCost.Shell.Script
import GuardCost.Text.Parts

namespace GuardCost.Shell

/-! ### Tokens -/

/-- How a redirection is written. -/
inductive Arrow where
  | file (access : Access)
  | duplicate
  /-- A text that follows; tabs in front of its lines may not count. -/
  | document (withoutTabs : Bool)
  /-- A line of input. -/
  | line
  /-- A file for the output and the errors. -/
  | both (access : Access)
  deriving DecidableEq, Repr

/-- A token of a script. -/
inductive Token where
  | word (w : Word)
  | keyword (name : String)
  | operator (sign : String)
  | newline
  | ending
  | redirection (descriptor : Nat) (arrow : Arrow)
  /-- An assignment that no word can be. -/
  | assignment (a : Assignment)

namespace Token

/-- The text of a word with nothing quoted in it, and nothing to put in
place. -/
def plain? : Token → Option String
  | word [.text false s] => some s
  | _ => none

/-- A token as it is named in a message. -/
def text : Token → String
  | word _ => "word"
  | keyword name => "\"" ++ name ++ "\""
  | operator sign => "\"" ++ sign ++ "\""
  | newline => "newline"
  | ending => "end of file"
  | redirection .. => "redirection"
  | assignment _ => "word"

/-- A token as it stands in a script, as far as that is known. -/
def source : Token → String
  | word w =>
    String.join (w.map fun
      | .text _ s => s
      | .parameter _ p _ => "$" ++ p.text
      | _ => "")
  | keyword name => name
  | operator sign => sign
  | newline => "newline"
  | ending => ""
  | redirection _ (.file .read) => "<"
  | redirection _ (.file .create) => ">"
  | redirection _ (.file .append) => ">>"
  | redirection _ (.file .overwrite) => ">|"
  | redirection _ (.file .readWrite) => "<>"
  | redirection _ .duplicate => ">&"
  | redirection _ (.document _) => "<<"
  | redirection _ .line => "<<<"
  | redirection _ (.both _) => "&>"
  | assignment _ => "("

/-- Whether a token is this operator. -/
def isOperator (t : Token) (sign : String) : Bool :=
  match t with
  | operator s => s == sign
  | _ => false

/-- Whether a token is this keyword. -/
def isKeyword (t : Token) (name : String) : Bool :=
  match t with
  | keyword s => s == name
  | _ => false

end Token

/-! ### Sources -/

/-- A text that is still to follow. -/
structure Awaited where
  number : Nat
  /-- The line on which it is asked for. -/
  line : Nat
  /-- The line that ends the text. -/
  delimiter : String
  /-- Whether nothing in the text is put in place. -/
  quoted : Bool
  withoutTabs : Bool

/-- What is left to read. -/
structure Source where
  chars : List Char
  dialect : Dialect := .plain
  line : Nat := 1
  /-- A token that was given back. -/
  returned? : Option Token := none
  awaited : List Awaited := []
  documents : List (Nat × Word) := []
  nextDocument : Nat := 0
  /-- What is wrong with the script without making it unreadable, each with its
  line, the newest first. -/
  warnings : List (Nat × String) := []
  aliases : List (String × String) := []
  /-- The aliases whose texts are being read, with what is left after them. -/
  inside : List (String × Nat) := []

/-- Why a script cannot be read. -/
structure SyntaxError where
  /-- The line of the fault, or zero if it is the end of the script. -/
  line : Nat
  message : String
  /-- The exit code of a shell that reads the script. -/
  code : Nat := 2

/-- A reader of part of a script. -/
abbrev Read := StateT Source (Except SyntaxError)

/-- Fail with a message. -/
def fail {α : Type} (message : String) : Read α := do throw { line := (← get).line, message }

/-- Whether the script is in the extended dialect. -/
def readsExtended : Read Bool := do return (← get).dialect == .extended

/-- Fail because the script does not have the right form. -/
def complain {α : Type} (message : String) : Read α := do
  fail ((if ← readsExtended then "syntax error: " else "Syntax error: ") ++ message)

/-- What is wrong where something is not closed. -/
def unclosed (closing : Char) : String :=
  "unexpected EOF while looking for matching \x60" ++ closing.toString ++ "'"

/-- Fail because what a character opened on some line is not closed. -/
def complainOpen {α : Type} (line : Nat) (closing : Char) (message : String) : Read α := do
  if ← readsExtended then
    throw { line, message := unclosed closing }
  else complain message

/-- Fail because of a token. -/
def complainOf {α : Type} (t : Token) (expected? : Option String) : Read α := do
  if ← readsExtended then
    match t with
    | .ending => throw { line := 0, message := "syntax error: unexpected end of file" }
    | t =>
      -- the end of a line stands on the line that it ends
      let here := (← get).line
      let line := match t with
        | .newline => here - 1
        | _ => here
      throw { line, message := "syntax error near unexpected token \x60" ++ t.source ++ "'" }
  else
    complain (t.text ++ " unexpected" ++ match expected? with
      | some sign => " (expecting \"" ++ sign ++ "\")"
      | none => "")

/-! ### Characters -/

/-- The next characters. -/
def ahead : Read (List Char) := do return (← get).chars

/-- Drop characters, none of which ends a line. -/
def skip (n : Nat) : Read Unit := modify fun s => { s with chars := s.chars.drop n }

/-- Drop characters, and count the lines. -/
def skipLines (n : Nat) : Read Unit :=
  modify fun s =>
    { s with chars := s.chars.drop n, line := s.line + (s.chars.take n).count '\n' }

/-- Take the characters that fit, none of which ends a line. -/
def takeWhile (fits : Char → Bool) : Read String := do
  let s ← get
  set { s with chars := s.chars.dropWhile fits }
  return String.ofList (s.chars.takeWhile fits)

/-- Join continued lines at the front of some characters. -/
def joinContinued (line : Nat) : List Char → List Char × Nat
  | '\\' :: '\n' :: rest => joinContinued (line + 1) rest
  | rest => (rest, line)

/-- The next characters, after a continued line. -/
def aheadContinued : Read (List Char) := do
  let s ← get
  let (chars, line) := joinContinued s.line s.chars
  set { s with chars, line }
  return chars

/-- Whether a name can start with a character. -/
def startsName (c : Char) : Bool := c.isAlpha || c == '_'

/-- Whether a character can stand inside a name. -/
def continuesName (c : Char) : Bool := c.isAlphanum || c == '_'

/-- Whether a text is a name. -/
def isName (s : String) : Bool :=
  match s.toList with
  | c :: cs => startsName c && cs.all continuesName
  | [] => false

end GuardCost.Shell
