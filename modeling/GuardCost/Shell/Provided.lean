/-
GuardCost/Shell/Provided.lean

The parameters of a shell and their values.  A shell of the extended dialect
provides variables about itself, some of them lists; the value of a list is
that of key zero.
-/
import GuardCost.Shell.Variable

namespace GuardCost.Shell

open Process

/-! ### Variables that are provided -/

/-- The release of the extended shell. -/
def release : List String := ["5", "2", "15", "1", "release", "x86_64-pc-linux-gnu"]

/-- A number that looks like chance. -/
def chance (p : Process) : Nat :=
  ((p.machine.clock / 997 + p.machine.nextProcess) * 1103515245 + 12345) / 65536 % 32768

/-- The lists that a shell of the extended dialect provides. -/
def providedList? (p : Process) (name : String) : Option (List String) :=
  let shell := p.shell
  let script := if shell.givenAsWord then [] else [p.name]
  match name with
  | "PIPESTATUS" => some (shell.codes.map toString)
  | "FUNCNAME" => some (if shell.calls.isEmpty then [] else shell.calls ++ ["main"])
  | "BASH_SOURCE" => some (shell.sources ++ shell.calls.flatMap (fun _ => script) ++ script)
  | "BASH_VERSINFO" => some release
  | "GROUPS" => some ["0"]
  | "DIRSTACK" => some [shell.here]
  | "LINENO" => some [toString shell.line]
  | "RANDOM" => some [toString (chance p)]
  | "SECONDS" => some [toString ((p.machine.clock - shell.started) / 1000000000)]
  | "EPOCHSECONDS" => some [toString (p.machine.clock / 1000000000)]
  | "UID" => some ["0"]
  | "EUID" => some ["0"]
  | "BASHPID" => some [toString p.number]
  | "BASH" => some ["/bin/bash"]
  | "BASH_VERSION" => some ["5.2.15(1)-release"]
  | "BASH_SUBSHELL" => some [if p.number == shell.number then "0" else "1"]
  | "HOSTNAME" => some ["localhost"]
  | "HOSTTYPE" => some ["x86_64"]
  | "MACHTYPE" => some ["x86_64-pc-linux-gnu"]
  | "OSTYPE" => some ["linux-gnu"]
  | _ => none

/-- The values of a variable as a list, whether it is provided or not. -/
def listOf (p : Process) (name : String) : Elements :=
  match if isExtended p then providedList? p name else none with
  | some values => .ofList values
  | none => elementsOf p name

/-- The value of a variable, whether it is provided or not. -/
def textOfVariable? (p : Process) (name : String) : Option String :=
  match if isExtended p then providedList? p name else none with
  | some values => values.head?
  | none => p.value? name

/-! ### Parameters -/

/-- The letters of options, in the order in which they are listed. -/
def optionLetters : Dialect → List Char
  | .plain => ['e', 'f', 'I', 'i', 'm', 'n', 's', 'x', 'v', 'V', 'E', 'C', 'a', 'b', 'u', 'p']
  | .extended =>
    ['a', 'b', 'e', 'f', 'h', 'i', 'k', 'm', 'n', 'p', 't', 'u', 'v', 'x', 'B', 'C', 'E', 'H',
      'P', 'T', 'c', 's']

/-- What stands between the arguments where they are one text. -/
def argumentSeparator (p : Process) : String :=
  match p.value? "IFS" with
  | some s => String.ofList (s.toList.take 1)
  | none => " "

/-- The values of a parameter that stands for many, and whether they are one
text between quotation marks. -/
def manyValues? (p : Process) : Parameter → Option (List String × Bool)
  | .eachArgument => some (p.arguments, false)
  | .allArguments => some (p.arguments, true)
  | .elements name joined => some ((listOf p name).values, joined)
  | .keys name joined => some ((listOf p name).keys, joined)
  | .names stem joined =>
    let fits := fun (entry : String × Variable) =>
      stem.toList.isPrefixOf entry.1.toList && (entry.2.value?.isSome || entry.2.elements?.isSome)
    some (((p.bindings.filter fits).map (·.1)).mergeSort fun a b => decide (a ≤ b), joined)
  | _ => none

/-- Many values as one text. -/
def joinValues (p : Process) (joined : Bool) (values : List String) : String :=
  (if isExtended p && !joined then " " else argumentSeparator p).intercalate values

/-- The value of a parameter, if it has one. -/
def parameterValue? (p : Process) : Parameter → Option String
  | .named name => textOfVariable? p name
  | .argument 0 => some p.name
  | .argument (n + 1) => p.arguments[n]?
  | .argumentCount => some (toString p.arguments.length)
  | .status => some (toString p.shell.status)
  | .process => some (toString p.shell.number)
  | .lastJob => p.shell.lastJob?.map toString
  | .options =>
    let on := (optionLetters p.shell.dialect).filter fun c => p.shell.options.contains c
    some (String.ofList on)
  | .element name key => (listOf p name).value? key
  | parameter =>
    match manyValues? p parameter with
    | some (values, joined) =>
      if values.isEmpty then none else some (joinValues p joined values)
    | none => none

/-- Whether a parameter can be missing in the eyes of the option that does not
allow it. -/
def canBeMissing (parameter : Parameter) : Bool :=
  match parameter with
  | .allArguments => false
  | .eachArgument => false
  | .elements .. => false
  | .keys .. => false
  | .names .. => false
  | _ => true

end GuardCost.Shell
