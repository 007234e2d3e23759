/-
GuardCost/Shell/Builtin/Declaring.lean

The builtins of the extended dialect that declare variables.  In a function
they make them local.  Letters after a minus sign or a plus sign say what a
variable is: a list, a list with texts for keys, a whole number, read only, or
exported.
-/
import GuardCost.Shell.Builtin.Variables
import GuardCost.Shell.Expansion

namespace GuardCost.Shell.Builtin

open Process

/-- Complain, and fail with an exit code. -/
def refuse (code : Nat) (message : String) : Doing Nat := do
  complainAt message
  return code

/-- Complain that a text is not a name. -/
def refuseName (s : String) : Doing Nat := refuse 1 ("\x60" ++ s ++ "': not a valid identifier")

/-! ### Assigning -/

/-- The value of an assignment to a variable that may have to be a number. -/
def valueFor (v : Variable) (old : String) (adds : Bool) (value : String) : Doing String := do
  if v.whole then
    let n ← arithmeticValue value
    if adds then
      let m ← arithmeticValue old
      return toString (Arithmetic.wrap (m + n))
    else return toString n
  else return if adds then old ++ value else value

/-- Assign a value to a variable. -/
def assignWhole (name : String) (adds : Bool) (value : String) : Doing Unit := do
  let p ← get
  let v := (p.binding? name).getD {}
  setVariable name (← valueFor v (v.value?.getD "") adds value)

/-- Assign a value to a value of a list. -/
def assignPart (name subscript : String) (adds : Bool) (value : String) : Doing Unit := do
  let key ← keyFor name subscript
  let p ← get
  let v := (p.binding? name).getD {}
  let old := ((elementsOf p name).value? key).getD ""
  setElement name key (← valueFor v old adds value)

/-- The name, the subscript and the value in an assignment. -/
structure Assigned where
  name : String
  subscript? : Option String := none
  adds : Bool := false
  value? : Option String := none

/-- Take an assignment to pieces. -/
def Assigned.ofText (s : String) : Assigned :=
  let (target, value?) := splitAssignment s
  let cs := target.toList
  let adds := value?.isSome && cs.getLast? == some '+'
  let cs := if adds then cs.dropLast else cs
  match splitFirst? '[' cs with
  | some (name, rest) =>
    if rest.getLast? == some ']' then
      { name := String.ofList name, subscript? := some (String.ofList rest.dropLast), adds, value? }
    else { name := String.ofList cs, adds, value? }
  | none => { name := String.ofList cs, adds, value? }

/-- Make the assignment, if there is one. -/
def Assigned.carryOut (a : Assigned) : Doing Unit :=
  match a.value?, a.subscript? with
  | some value, none => assignWhole a.name a.adds value
  | some value, some subscript => assignPart a.name subscript a.adds value
  | none, _ => return ()

/-! ### What a variable is -/

/-- What is to be declared. -/
structure Declaration where
  /-- The letters after minus signs and after plus signs. -/
  on : List Char := []
  off : List Char := []
  names : List String := []

/-- The letters of declarations. -/
def declarationLetters : List Char :=
  ['a', 'A', 'f', 'F', 'g', 'i', 'I', 'l', 'n', 'r', 't', 'u', 'x', 'p']

/-- Read the options of a declaration; the letter that is not known, if there
is one. -/
def Declaration.read (d : Declaration) : List String → Except Char Declaration
  | [] => .ok d
  | a :: rest =>
    match a.toList with
    | ['-', '-'] => .ok { d with names := rest }
    | '-' :: c :: cs =>
      match (c :: cs).find? fun c => !declarationLetters.contains c with
      | some bad => .error bad
      | none => { d with on := d.on ++ c :: cs }.read rest
    | '+' :: c :: cs =>
      match (c :: cs).find? fun c => !declarationLetters.contains c with
      | some bad => .error bad
      | none => { d with off := d.off ++ c :: cs }.read rest
    | _ => .ok { d with names := a :: rest }

/-- A variable with what is declared of it, but for its protection. -/
def Declaration.shape (d : Declaration) (v : Variable) : Variable :=
  let asList := fun (named : Bool) =>
    match v.elements? with
    | some _ => v
    | none =>
      { v with elements? := some { named, entries := (v.value?.map fun s => ("0", s)).toList } }
  let v := if d.on.contains 'A' then asList true else if d.on.contains 'a' then asList false else v
  { v with
    whole := (v.whole || d.on.contains 'i') && !d.off.contains 'i'
    exported := (v.exported || d.on.contains 'x') && !d.off.contains 'x' }

/-! ### Showing -/

/-- The letters for what a variable is. -/
def kindLetters (v : Variable) : String :=
  let list := match v.elements? with
    | some e => if e.named then "A" else "a"
    | none => ""
  let letters := list ++ (if v.whole then "i" else "") ++ (if v.readOnly then "r" else "")
    ++ (if v.exported then "x" else "")
  "-" ++ if letters.isEmpty then "-" else letters

/-- A variable as the command that would declare it. -/
def declarationText (name : String) (v : Variable) : String :=
  let value := match v.elements?, v.value? with
    | some e, _ =>
      let pairs := e.entries.map fun (k, s) =>
        "[" ++ k ++ "]=" ++ Reshaping.betweenDoubleMarks s
      "=(" ++ " ".intercalate pairs ++ (if e.named && !pairs.isEmpty then " )" else ")")
    | none, some s => "=" ++ Reshaping.betweenDoubleMarks s
    | none, none => ""
  "declare " ++ kindLetters v ++ " " ++ name ++ value ++ "\n"

/-- Show the variables that are marked. -/
def showMarked (isMarked : Variable → Bool) : Doing Nat := do
  let marked := (sortedVariables (← get)).filter fun entry => isMarked entry.2
  put (String.join (marked.map fun (name, v) => declarationText name v))
  return 0

/-- Show some variables. -/
def showNamed (names : List String) : Doing Nat := do
  let codes ← names.mapM fun name => do
    match (← get).binding? name with
    | some v =>
      put (declarationText name v)
      return 0
    | none => refuse 1 (name ++ ": not found")
  return codes.foldl max 0

/-! ### Declaring -/

/-- Whether a variable is to be local: in a function, unless that is not
wanted. -/
def isLocalHere (p : Process) (d : Declaration) : Bool :=
  p.shell.functionDepth > 0 && !d.on.contains 'g'

/-- Whether a variable has been made local to the function already. -/
def isKept (p : Process) (name : String) : Bool :=
  match p.shell.frames with
  | frame :: _ => frame.any fun entry => entry.1 == name
  | [] => false

/-- Declare one variable. -/
def declareOne (d : Declaration) (isLocal : Bool) (s : String) : Doing Nat := do
  let a := Assigned.ofText s
  if !isName a.name then refuseName s
  else
    if isLocal && !isKept (← get) a.name then
      keepVariable a.name
      modify fun p => p.setVariable a.name
        ((p.binding? a.name).map fun v => { exported := v.exported, readOnly := v.readOnly })
    let change := fun (s : String) =>
      if d.on.contains 'u' then s.toUpper else if d.on.contains 'l' then s.toLower else s
    let v := ((← get).binding? a.name).getD {}
    if v.readOnly && a.value?.isSome then refuse 1 (a.name ++ ": readonly variable")
    else
      markVariable a.name d.shape
      { a with value? := a.value?.map change }.carryOut
      if d.on.contains 'r' then markVariable a.name fun v => { v with readOnly := true }
      return 0

/-- Declare variables. -/
def declareAll (command : String) : Action := fun arguments => do
  match ({} : Declaration).read arguments with
  | .error c =>
    let _ ← refuse 2 ((if c == '-' then "--" else "-" ++ c.toString) ++ ": invalid option")
    putError (command ++ ": usage: " ++ command
      ++ " [-aAfFgiIlnrtux] [name[=value] ...] or " ++ command
      ++ " -p [-aAfFilnrtux] [name ...]\n")
    return 2
  | .ok d =>
    let p ← get
    if command == "local" && p.shell.functionDepth = 0 then
      refuse 1 "can only be used in a function"
    else if d.on.contains 'f' || d.on.contains 'F' then
      let known := fun name => (p.shell.functions.lookup name).isSome
      if d.on.contains 'F' then put (String.join ((d.names.filter known).map (· ++ "\n")))
      return if d.names.all known then 0 else 1
    else if d.on.contains 'p' then
      if d.names.isEmpty then showMarked fun v => (d.shape v) == v else showNamed d.names
    else if d.names.isEmpty then showMarked fun v => (d.shape v) == v
    else
      let codes ← d.names.mapM (declareOne d (isLocalHere p d))
      return codes.foldl max 0

/-- Mark variables, or show those that are marked. -/
def markNames (letter : Char) (isMarked : Variable → Bool) : Action := fun arguments => do
  match ({} : Declaration).read arguments with
  | .error c => refuse 2 ("-" ++ c.toString ++ ": invalid option")
  | .ok d =>
    let p ← get
    if d.on.contains 'f' then
      let codes ← d.names.mapM fun name => do
        if (p.shell.functions.lookup name).isSome then return 0
        else refuse 1 (name ++ ": not a function")
      return codes.foldl max 0
    else if d.names.isEmpty then showMarked isMarked
    else
      let d := if d.on.contains 'n' then { d with off := [letter], on := [] }
        else { d with on := letter :: d.on }
      let codes ← d.names.mapM (declareOne d false)
      return codes.foldl max 0

/-! ### Taking away -/

/-- Take one variable, value of a list or function away. -/
def unsetOne (onlyVariables onlyFunctions : Bool) (s : String) : Doing Nat := do
  let p ← get
  let a := Assigned.ofText s
  let removeFunction := modify fun p => { p with
    shell.functions := p.shell.functions.filter fun entry => entry.1 != s }
  if onlyFunctions then
    removeFunction
    return 0
  else if (p.binding? a.name).any (·.readOnly) then
    refuse 1 (a.name ++ ": cannot unset: readonly variable")
  else match a.subscript? with
    | some subscript =>
      if subscript == "@" || subscript == "*" then set (p.setVariable a.name none)
      else if (p.binding? a.name).isSome then
        let key ← keyFor a.name subscript
        setElements a.name ((elementsOf (← get) a.name).erase key)
      return 0
    | none =>
      if (p.binding? s).isSome then set (p.setVariable s none)
      else if !onlyVariables then removeFunction
      return 0

/-- Take variables, values of lists or functions away. -/
def unsetNames : Action := fun arguments => do
  match arguments with
  | [] => return 0
  | a :: rest =>
    let (ofVariables, ofFunctions, names) := match a with
      | "-v" => (true, false, rest)
      | "-f" => (false, true, rest)
      | "-n" => (true, false, rest)
      | "--" => (false, false, rest)
      | _ => (false, false, arguments)
    let codes ← names.mapM (unsetOne ofVariables ofFunctions)
    return codes.foldl max 0

/-! ### Arithmetic -/

/-- Evaluate expressions; the last of them gives the exit code. -/
def evaluateAll : Action := fun arguments => do
  if arguments.isEmpty then refuse 1 "expression expected"
  else evaluateFrom 0 arguments
where
  evaluateFrom (last : Int) : List String → Doing Nat
    | [] => return if last = 0 then 1 else 0
    | a :: rest => do
      match ← reckon a with
      | .ok n => evaluateFrom n rest
      | .error message => refuse 1 message

end GuardCost.Shell.Builtin
