/-
GuardCost/Shell/Script.lean

Shell scripts.  A word is a list of pieces that are put together when a
command runs; what was quoted in it is neither split into fields nor read as
a pattern.  A piece can hold a script of its own, whose output it stands for,
so words and scripts are defined together.  All texts hold one character per
byte.

Shells speak one of two dialects.  What only the extended one has is here too;
a reader of the plain one never makes it.
-/
namespace GuardCost.Shell

/-- Which language a shell understands. -/
inductive Dialect where
  | plain
  /-- With lists of values, more uses of a parameter, and conditions and
  arithmetic as commands. -/
  | extended
  deriving DecidableEq, Repr

/-! ### Parameters -/

/-- What a dollar sign can refer to. -/
inductive Parameter where
  | named (name : String)
  /-- An argument of the script; number zero is the script itself. -/
  | argument (n : Nat)
  /-- All arguments as one text. -/
  | allArguments
  /-- All arguments, each by itself. -/
  | eachArgument
  | argumentCount
  | status
  | process
  /-- The last process that was started in the background. -/
  | lastJob
  /-- The options of one letter that are on. -/
  | options
  /-- A value of a list, by its key. -/
  | element (name key : String)
  /-- All values of a list, as one text or each by itself. -/
  | elements (name : String) (joined : Bool)
  /-- All keys of a list. -/
  | keys (name : String) (joined : Bool)
  /-- The names of all variables that start so. -/
  | names (stem : String) (joined : Bool)
  deriving DecidableEq, Repr

/-- A parameter as it is named in a message. -/
def Parameter.text : Parameter → String
  | named name => name
  | argument n => toString n
  | allArguments => "*"
  | eachArgument => "@"
  | argumentCount => "#"
  | status => "?"
  | process => "$"
  | lastJob => "!"
  | options => "-"
  | element name key => name ++ "[" ++ key ++ "]"
  | elements name joined => name ++ (if joined then "[*]" else "[@]")
  | keys name joined => name ++ (if joined then "[*]" else "[@]")
  | names stem joined => "!" ++ stem ++ (if joined then "*" else "@")

/-! ### Redirections -/

/-- How a redirection opens a file. -/
inductive Access where
  | read
  | create
  /-- Create a file even where files are protected from it. -/
  | overwrite
  | append
  | readWrite
  deriving DecidableEq, Repr

/-- A list of commands is joined to the next one. -/
inductive Joint where
  | afterwards
  /-- The second runs if the first went well. -/
  | ifWell
  /-- The second runs if the first did not go well. -/
  | ifNotWell
  deriving DecidableEq, Repr

/-- Which texts that fit a pattern are replaced. -/
inductive Coverage where
  | first
  | every
  /-- One at the start of the value. -/
  | start
  /-- One at the end of the value. -/
  | finish
  deriving DecidableEq, Repr

/-- What follows a clause of a selection that was carried out. -/
inductive Onward where
  | stop
  /-- The next clause, whatever its patterns are. -/
  | through
  /-- The next clause that fits. -/
  | search
  deriving DecidableEq, Repr

/-! ### Words and scripts -/

mutual

/-- A piece of a word. -/
inductive Piece where
  | text (quoted : Bool) (s : String)
  | parameter (quoted : Bool) (parameter : Parameter) (use : Use)
  | arithmetic (quoted : Bool) (body : List Piece)
  /-- The output of a script. -/
  | output (quoted : Bool) (body : Script)
  /-- A value of a list, by its key. -/
  | element (quoted : Bool) (name : String) (subscript : List Piece) (use : Use)
  /-- The parameter that the value of another one names. -/
  | indirect (quoted : Bool) (parameter : Parameter) (use : Use)
  /-- A list of values, each with a key unless that is left out. -/
  | list (items : List (List Piece × List Piece))
  /-- A path that leads to what a script writes. -/
  | stream (body : Script)

/-- What is made of the value of a parameter.  A word that stands in for a
value does so for one that is not set, and also for an empty one where
`orEmpty` says so. -/
inductive Use where
  | value
  | length
  | otherwise (orEmpty : Bool) (word : List Piece)
  | assign (orEmpty : Bool) (word : List Piece)
  | insist (orEmpty : Bool) (word : List Piece)
  /-- The word stands in for a value that is there. -/
  | instead (orEmpty : Bool) (word : List Piece)
  /-- The value without what fits a pattern at its start or its end. -/
  | without (atEnd longest : Bool) (pattern : List Piece)
  /-- The value with letters that fit a pattern made great or small: all of
  them, or only the first. -/
  | recase (great all : Bool) (pattern : List Piece)
  /-- A part of the value, or of a list of values. -/
  | slice (offset : List Piece) (bounded : Bool) (length : List Piece)
  | replace (coverage : Coverage) (pattern replacement : List Piece)
  /-- The value in another form, which a letter names. -/
  | transform (letter : Char)
  /-- The use makes no sense. -/
  | bad (spelled : String)

/-- What is done with a descriptor. -/
inductive Redirect where
  | file (access : Access) (word : List Piece)
  /-- Take what another descriptor stands for. -/
  | duplicate (word : List Piece)
  /-- Read from a text that stands in the script, known by a number. -/
  | document (number : Nat)

/-- An assignment; `adds` puts the new value after the old one. -/
inductive Assignment where
  | whole (name : String) (adds : Bool) (value : List Piece)
  /-- An assignment to one value of a list. -/
  | part (name : String) (subscript : List Piece) (adds : Bool) (value : List Piece)

/-- A condition that is a command. -/
inductive Judgement where
  /-- There is some text. -/
  | something (word : List Piece)
  /-- A question about one text. -/
  | about (sign : String) (word : List Piece)
  /-- A question about two texts. -/
  | between (sign : String) (left right : List Piece)
  | negated (a : Judgement)
  | both (a b : Judgement)
  | either (a b : Judgement)

/-- A script. -/
inductive Script where
  | nothing
  /-- A command with its words; `line` is where it starts. -/
  | simple (line : Nat) (assignments : List Assignment) (words : List (List Piece))
      (redirects : List (Nat × Redirect))
  | join (joint : Joint) (first second : Script)
  | negation (body : Script)
  | pipeline (parts : List Script)
  /-- A script that runs while others go on. -/
  | background (line : Nat) (body : Script) (redirects : List (Nat × Redirect))
  /-- A script in a process of its own. -/
  | apart (line : Nat) (body : Script) (redirects : List (Nat × Redirect))
  | redirected (line : Nat) (body : Script) (redirects : List (Nat × Redirect))
  | choice (test yes no : Script)
  /-- The body runs as long as the test goes well, or does not. -/
  | loop (whileWell : Bool) (test body : Script)
  /-- The body runs once for each field of the words. -/
  | forEach (line : Nat) (name : String) (words : List (List Piece)) (body : Script)
  | select (line : Nat) (subject : List Piece)
      (clauses : List (List (List Piece) × Script × Onward))
  | define (name : String) (body : Script)
  /-- See whether a condition holds. -/
  | judge (line : Nat) (condition : Judgement)
  /-- See whether an arithmetic expression is not zero. -/
  | reckon (line : Nat) (body : List Piece)
  /-- A loop with an expression before it, one before each round, and one after
  each round. -/
  | count (line : Nat) (first test next : List Piece) (body : Script)

end

/-- A word. -/
abbrev Word := List Piece

/-- Redirections with the descriptors that they are for. -/
abbrev Redirects := List (Nat × Redirect)

/-- A clause of a selection. -/
abbrev Clause := List Word × Script × Onward

namespace Script

/-- Whether there is nothing to do. -/
def isNothing : Script → Bool
  | nothing => true
  | _ => false

/-- Put one script after another. -/
def andThen (a b : Script) : Script :=
  if a.isNothing then b else if b.isNothing then a else .join .afterwards a b

end Script

end GuardCost.Shell
