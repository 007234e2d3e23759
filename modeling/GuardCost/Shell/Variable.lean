/-
GuardCost/Shell/Variable.lean

The variables of a shell: setting and unsetting them, handing them on to
programs, and keeping what they were while they are local to a function or to
one command.  One that is read only keeps its value; to change it is an error.
-/
import GuardCost.Shell.Arithmetic
import GuardCost.Shell.Complaint
import GuardCost.Shell.Source

namespace GuardCost.Shell

open Process

/-! ### Setting -/

/-- Complain that a variable is read only. -/
def complainReadOnly {α : Type} (name : String) : Doing α := do
  if isExtended (← get) then raise (name ++ ": readonly variable")
  else raise (name ++ ": is read only")

/-- A variable with a new value; in a list it is that of key zero. -/
def withValue (v : Variable) (value : String) : Variable :=
  { v with value? := some value, elements? := v.elements?.map fun e => e.insert "0" value }

/-- A variable with a list of values. -/
def withElements (v : Variable) (e : Elements) : Variable :=
  { v with value? := e.value? "0", elements? := some e }

/-- Set a variable, whatever its name is. -/
def setVariable (name value : String) : Doing Unit := do
  let p ← get
  let old := (p.binding? name).getD {}
  if old.readOnly then complainReadOnly name
  else
    let exported := old.exported || hasOption p 'a'
    let p := p.setVariable name (some { withValue old value with exported })
    set (if name == "OPTIND" then
        { p with
          shell.optionIndex := max 1 (Arithmetic.ofDigits 10 (value.toList.takeWhile Char.isDigit))
          shell.optionLetters? := none }
      else p)

/-- Insist that a text is a name. -/
def insistOnName (name : String) : Doing Unit := do
  if !isName name then raise (name ++ ": bad variable name")

/-- Take a variable away. -/
def unsetVariable (name : String) : Doing Unit := do
  insistOnName name
  let p ← get
  if (p.binding? name).any (·.readOnly) then complainReadOnly name
  else set (p.setVariable name none)

/-- The values of a variable as a list. -/
def elementsOf (p : Process) (name : String) : Elements :=
  match p.binding? name with
  | some v => v.elements?.getD { entries := (v.value?.map fun s => ("0", s)).toList }
  | none => {}

/-- Give a variable a list of values. -/
def setElements (name : String) (e : Elements) : Doing Unit := do
  let p ← get
  let old := (p.binding? name).getD {}
  if old.readOnly then complainReadOnly name
  else set (p.setVariable name (some (withElements old e)))

/-- Mark a variable. -/
def markVariable (name : String) (mark : Variable → Variable) : Doing Unit :=
  modify fun p => p.setVariable name (some (mark ((p.binding? name).getD {})))

/-- The name and the value in `name=value`. -/
def splitAssignment (s : String) : String × Option String :=
  match splitFirst? '=' s.toList with
  | some (name, value) => (String.ofList name, some (String.ofList value))
  | none => (s, none)

/-- Set a variable as `name=value` says, or only mark it. -/
def declare (mark : Variable → Variable) (s : String) : Doing Unit := do
  let (name, value?) := splitAssignment s
  insistOnName name
  match value? with
  | some value => setVariable name value
  | none => pure ()
  markVariable name mark

/-! ### Local variables -/

/-- Start to keep what variables were. -/
def pushFrame : Doing Unit := modify fun p => { p with shell.frames := [] :: p.shell.frames }

/-- Keep what a variable is now. -/
def keepVariable (name : String) : Doing Unit :=
  modify fun p =>
    match p.shell.frames with
    | frame :: frames => { p with shell.frames := ((name, p.binding? name) :: frame) :: frames }
    | [] => p

/-- Make a variable again what it was; a dash stands for the options. -/
def putBack (p : Process) (name : String) (old? : Option Variable) : Process :=
  if name == "-" then
    { p with shell.options := ((old?.bind (·.value?)).getD "").toList }
  else p.setVariable name old?

/-- Make variables again what they were. -/
def popFrame : Doing Unit :=
  modify fun p =>
    match p.shell.frames with
    | frame :: frames =>
      let p := frame.foldl (fun p (name, old?) => putBack p name old?) p
      { p with shell.frames := frames }
    | [] => p

/-- Make a variable local, with a value if `name=value` gives one. -/
def makeLocal (s : String) : Doing Unit := do
  let (name, value?) := splitAssignment s
  insistOnName name
  keepVariable name
  match value? with
  | some value => setVariable name value
  | none => return ()

/-! ### Listing -/

/-- A text between quotation marks that a shell takes away again. -/
def quoteParts : List Char → List (List Char)
  | [] => []
  | c :: cs =>
    match quoteParts cs with
    | [] => [[c]]
    | part :: parts =>
      if (part.head? == some '\'') == (c == '\'') then (c :: part) :: parts
      else [c] :: part :: parts

/-- A text as a shell reads it back: between single quotation marks, but those
in it between double ones. -/
def quoted (s : String) : String :=
  let parts := quoteParts s.toList
  let parts := if (parts.headD ['\'']).head? == some '\'' then [] :: parts else parts
  String.join (parts.map fun part =>
    let mark := if part.head? == some '\'' then "\"" else "'"
    mark ++ String.ofList part ++ mark)

/-- The variables by their names. -/
def sortedVariables (p : Process) : List (String × Variable) :=
  p.bindings.mergeSort fun a b => !decide (b.1 < a.1)

/-- A variable as it is listed. -/
def variableText (lead name : String) (v : Variable) : String :=
  lead ++ name ++ (match v.value? with
    | some value => "=" ++ quoted value
    | none => "") ++ "\n"

/-- List the variables that are marked. -/
def listVariables (command : String) (isMarked : Variable → Bool) : Doing Unit := do
  let marked := (sortedVariables (← get)).filter fun entry => isMarked entry.2
  put (String.join (marked.map fun (name, v) => variableText (command ++ " ") name v))

/-- List all variables that have a value. -/
def listAllVariables : Doing Unit := do
  let valued := (sortedVariables (← get)).filter fun entry => entry.2.value?.isSome
  put (String.join (valued.map fun (name, v) => variableText "" name v))

end GuardCost.Shell
