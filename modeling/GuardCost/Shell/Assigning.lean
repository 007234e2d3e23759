/-
GuardCost/Shell/Assigning.lean

Making assignments: to variables, to values of lists, and of whole lists.
-/
import GuardCost.Shell.Builtin.Declaring

namespace GuardCost.Shell

open Process Builtin

/-! ### Lists -/

/-- A list of values that is assigned to a variable. -/
structure ListAssignment where
  name : String
  adds : Bool
  items : List (Word × Word)

/-- Put values into a list one after the other, from a number on; those with a
key have their own place. -/
def fillElements (run : Script → Doing Unit) (name : String) (v : Variable) (next : Nat)
    (e : Elements) : List (Word × Word) → Doing Elements
  | [] => return e
  | (keyWord, value) :: rest => do
    let put := fun (e : Elements) (key s : String) => do
      return e.insert key (← valueFor v "" false s)
    if keyWord.isEmpty then
      let fields ← expandFields run value
      let e ← fields.zipIdx.foldlM (fun e (s, i) => put e (toString (next + i)) s) e
      fillElements run name v (next + fields.length) e rest
    else
      let text ← expandText run keyWord
      let key ← if e.named then pure text else keyFor name text
      let e ← put e key (← expandValue run value)
      fillElements run name v ((key.toNat?.getD 0) + 1) e rest

/-- Assign a list of values. -/
def assignList (run : Script → Doing Unit) (a : ListAssignment) : Doing Unit := do
  let p ← get
  let v := (p.binding? a.name).getD {}
  if v.readOnly then complainReadOnly a.name
  let old := elementsOf p a.name
  let start : Elements := if a.adds then old else { named := old.named }
  let e ← fillElements run a.name v start.nextKey start a.items
  setElements a.name e

/-! ### Assignments -/

/-- The words of a value as they are shown when it is assigned. -/
def shownItems (p : Process) (name : String) : String :=
  "(" ++ " ".intercalate ((elementsOf p name).values.map Reshaping.betweenMarks) ++ ")"

/-- Make an assignment, whose name is kept before it is changed, and show it. -/
def makeAssignment (run : Script → Doing Unit) (keep mark : String → Doing Unit) :
    Assignment → Doing String
  | .whole name adds [.list items] => do
    keep name
    assignList run { name, adds, items }
    mark name
    return name ++ "=" ++ shownItems (← get) name
  | .whole name adds w => do
    let value ← expandValue run w
    keep name
    if isExtended (← get) then assignWhole name adds value else setVariable name value
    mark name
    let shown := if isExtended (← get) then Reshaping.shown value else value
    return name ++ (if adds then "+=" else "=") ++ shown
  | .part name subscript adds w => do
    let text ← expandText run subscript
    let value ← expandValue run w
    keep name
    assignPart name text adds value
    mark name
    return name ++ "[" ++ text ++ "]" ++ (if adds then "+=" else "=") ++ Reshaping.shown value

/-- Show a command or a part of one where an option asks for it; it goes to
where errors went before the redirections. -/
def showCarriedOut (stderr? : Option Nat) (text : String) : Doing Unit := do
  let p ← get
  if hasOption p 'x' then
    let lead := (p.value? "PS4").getD ""
    let depth := if isExtended p then p.shell.outputDepth else 0
    let lead := String.ofList (List.replicate depth (lead.toList.headD '+')) ++ lead
    match stderr?.map fun n => p.machine.write n (lead ++ text ++ "\n") with
    | some (.ok machine) => set { p with machine }
    | _ => return ()

end GuardCost.Shell
