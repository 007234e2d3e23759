/-
GuardCost/Utility/Options.lean

Options of utilities.  An option is a letter after one dash or a name after
two; letters can stand together, and a name can be cut short as long as it
fits only one.  Options can stand after operands, unless the operands begin
another command.
-/
import GuardCost.Utility.Basic

namespace GuardCost.Utility

open Process

/-- Whether an option takes a value. -/
inductive Takes where
  | nothing
  | value
  /-- A value in the same word, or none. -/
  | maybe
  deriving DecidableEq, Repr

/-- An option that is known. -/
structure Known where
  /-- What the option is called in the program. -/
  key : String
  letter? : Option Char
  name? : Option String
  takes : Takes

/-- An option of a letter and a name, without a value. -/
def switch (letter : Char) (name : String) : Known := ⟨letter.toString, letter, name, .nothing⟩

/-- An option of a letter and a name, with a value. -/
def valued (letter : Char) (name : String) : Known := ⟨letter.toString, letter, name, .value⟩

/-- Options of letters alone. -/
def letters (s : String) : List Known :=
  s.toList.map fun (c : Char) => ⟨c.toString, some c, none, .nothing⟩

/-- Options of letters alone, with values. -/
def valuedLetters (s : String) : List Known :=
  s.toList.map fun (c : Char) => ⟨c.toString, some c, none, .value⟩

/-- An option of a name alone. -/
def named (name : String) (takes : Takes) : Known := ⟨name, none, name, takes⟩

/-- An option that was given, with its value. -/
structure Given where
  key : String
  value? : Option String := none
  deriving DecidableEq, Repr

/-- The options and operands that were given. -/
structure Line where
  options : List Given := []
  operands : List String := []

namespace Line

/-- Whether an option was given. -/
def has (l : Line) (key : String) : Bool := l.options.any fun g => g.key == key

/-- The value of an option, the last one if there are more. -/
def value? (l : Line) (key : String) : Option String :=
  (l.options.reverse.find? fun g => g.key == key).bind (·.value?)

/-- The values of an option. -/
def values (l : Line) (key : String) : List String :=
  l.options.filterMap fun g => if g.key == key then g.value? else none

/-- Which of some options was given last. -/
def lastOf? (l : Line) (keys : List String) : Option Given :=
  l.options.reverse.find? fun g => keys.contains g.key

/-- Add an option in front. -/
def addOption (l : Line) (g : Given) : Line := { l with options := g :: l.options }

end Line

/-- What is wrong with some options. -/
abbrev Mistake := String

/-- Read the letters in a word, given the words after it. -/
def readLetters (known : List Known) (next : List String) :
    List Char → Except Mistake (List Given × List String)
  | [] => .ok ([], next)
  | c :: cs =>
    match known.find? fun k => k.letter? == some c with
    | none => .error ("invalid option -- '" ++ c.toString ++ "'")
    | some k =>
      match k.takes with
      | .nothing => do
        let (more, next) ← readLetters known next cs
        return (⟨k.key, none⟩ :: more, next)
      | .maybe => .ok ([⟨k.key, if cs.isEmpty then none else some (String.ofList cs)⟩], next)
      | .value =>
        if !cs.isEmpty then .ok ([⟨k.key, some (String.ofList cs)⟩], next)
        else match next with
          | value :: next => .ok ([⟨k.key, some value⟩], next)
          | [] => .error ("option requires an argument -- '" ++ c.toString ++ "'")

/-- Read an option by its name, without its dashes, given the words after
it. -/
def readNamed (known : List Known) (spelled : String) (next : List String) :
    Except Mistake (Given × List String) :=
  let (name, value?) := match splitFirst? '=' spelled.toList with
    | some (name, value) => (name, some (String.ofList value))
    | none => (spelled.toList, none)
  let fitting := known.filter fun k => k.name?.any fun full => name.isPrefixOf full.toList
  let exact := known.filter fun k => k.name?.any fun full => full.toList == name
  let candidates := if exact.isEmpty then fitting else exact
  match candidates with
  | [] => .error ("unrecognized option '--" ++ spelled ++ "'")
  | k :: others =>
    let full := "--" ++ k.name?.getD ""
    if others.any fun other => other.key != k.key then
      .error ("option '--" ++ String.ofList name ++ "' is ambiguous; possibilities:"
        ++ String.join (candidates.map fun k => " '--" ++ k.name?.getD "" ++ "'"))
    else match k.takes, value? with
      | .nothing, some _ => .error ("option '" ++ full ++ "' doesn't allow an argument")
      | .nothing, none => .ok (⟨k.key, none⟩, next)
      | .maybe, value? => .ok (⟨k.key, value?⟩, next)
      | .value, some value => .ok (⟨k.key, some value⟩, next)
      | .value, none =>
        match next with
        | value :: next => .ok (⟨k.key, some value⟩, next)
        | [] => .error ("option '" ++ full ++ "' requires an argument")

/-- Read options and operands. -/
def readLineWith (known : List Known) (mixed : Bool) (allowance : Nat) (words : List String) :
    Except Mistake Line :=
  match allowance, words with
  | n + 1, word :: next =>
    match word.toList with
    | ['-', '-'] => .ok { operands := next }
    | '-' :: '-' :: name => do
      let (given, next) ← readNamed known (String.ofList name) next
      return (← readLineWith known mixed n next).addOption given
    | '-' :: c :: cs => do
      let (given, next) ← readLetters known next (c :: cs)
      let line ← readLineWith known mixed n next
      return { line with options := given ++ line.options }
    | _ =>
      if mixed then do
        let line ← readLineWith known mixed n next
        return { line with operands := word :: line.operands }
      else .ok { operands := words }
  | _, _ => .ok { operands := words }

/-- Read options and operands, or end the program with a complaint. -/
def parse (known : List Known) (mixed : Bool) (code : Nat) (arguments : List String) :
    Doing Line := do
  let known := known ++ [named "help" .nothing, named "version" .nothing]
  match readLineWith known mixed (arguments.length + 1) arguments with
  | .error mistake => misuse code mistake
  | .ok line => if line.has "help" || line.has "version" then quit 0 else return line

end GuardCost.Utility
