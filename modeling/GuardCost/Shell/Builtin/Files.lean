/-
GuardCost/Shell/Builtin/Files.lean

The builtins that are about directories, the rights of new files, and
conditions.  The shell remembers the way that it took to its directory, so
that links stay in its path.
-/
import GuardCost.Machine.Rights
import GuardCost.Shell.Builtin.Options
import GuardCost.Shell.Condition

namespace GuardCost.Shell.Builtin

open Process

/-! ### Directories -/

/-- The path that follows from going on from a directory, with its dots taken
away. -/
def cleanPath (here target : String) : String :=
  let cs := target.toList
  let isAbsolute := cs.head? == some '/'
  let start := if isAbsolute then [] else partsAt '/' here.toList
  let double := fun cs : List Char => cs.take 2 == ['/', '/'] && cs[2]? != some '/'
  let lead := if double (if isAbsolute then cs else here.toList) then "//" else "/"
  let names := (start ++ partsAt '/' cs).foldl (fun (names : List (List Char)) part =>
    if part.isEmpty || part == ['.'] then names
    else if part == ['.', '.'] then names.dropLast
    else names ++ [part]) []
  lead ++ "/".intercalate (names.map String.ofList)

/-- Export a variable with a value, even one that is read only. -/
def exportAs (name value : String) (p : Process) : Process :=
  p.setVariable name
    (some { (p.binding? name).getD {} with value? := some value, exported := true })

/-- Go to a directory, if it is there. -/
def goTo (physical : Bool) (target : String) : Doing Bool := do
  let p ← get
  let goal := if physical then target else cleanPath p.shell.here target
  match p.machine.files.find p.directory (pathOf goal) with
  | .ok (place, .directory _) =>
    let here := if physical then Bytes.widen place.path.bytes else goal
    let p := exportAs "PWD" here (exportAs "OLDPWD" p.shell.here p)
    set { p with directory := place, shell.here := here }
    return true
  | _ => return false

/-- Whether a path starts at the root or with a dot, so that it is not looked
for elsewhere. -/
def isAnchored (target : String) : Bool :=
  match target.toList with
  | '/' :: _ => true
  | ['.'] => true
  | '.' :: '/' :: _ => true
  | ['.', '.'] => true
  | '.' :: '.' :: '/' :: _ => true
  | _ => false

/-- Whether a path names a directory. -/
def isDirectory (p : Process) (path : String) : Bool :=
  p.machine.files.isDirectory p.directory (pathOf path)

/-- The directory to go to for a target that is looked for along a search
path, and whether it was found somewhere else. -/
def findTarget (p : Process) (target : String) : String × Bool :=
  if isAnchored target then (target, false)
  else
    let target := if target.isEmpty then "." else target
    let dirs := match p.value? "CDPATH" with
      | some path => (partsAt ':' path.toList).map String.ofList
      | none => [""]
    let paths := dirs.map fun dir =>
      (if dir.isEmpty then target else dir ++ "/" ++ target, !dir.isEmpty)
    (paths.find? fun entry => isDirectory p entry.1).getD (target, false)

/-- Change the directory. -/
def changeDirectory : Action := fun arguments => do
  let (options, rest) ← readOptions ['L', 'P'] [] arguments
  let physical := (options.getLast?.map (·.1)) == some 'P'
  let p ← get
  let (target, back) := match rest with
    | "-" :: _ => ((p.value? "OLDPWD").getD "", true)
    | target :: _ => (target, false)
    | [] => ((p.value? "HOME").getD "", false)
  let (path, elsewhere) := findTarget p target
  if ← goTo physical path then
    if back || elsewhere then put ((← get).shell.here ++ "\n")
    return 0
  else raise ("can't cd to " ++ target)

/-- Write the current directory. -/
def writeDirectory : Action := fun arguments => do
  let (options, _) ← readOptions ['L', 'P'] [] arguments
  let p ← get
  let physical := (options.getLast?.map (·.1)) == some 'P'
  put ((if physical then Bytes.widen p.directory.path.bytes else p.shell.here) ++ "\n")
  return 0

/-! ### Rights of new files -/

/-- The rights that a mask leaves, by classes. -/
def maskText (mask : Rights) : String :=
  let left := 0o777 - mask
  let letters := fun n : Nat =>
    String.ofList ((Rights.threeText n).toList.filter (· != '-'))
  "u=" ++ letters (left / 64) ++ ",g=" ++ letters (left / 8) ++ ",o=" ++ letters left

/-- Show or change the mask. -/
def changeMask : Action := fun arguments => do
  let (options, rest) ← readOptions ['S'] [] arguments
  let p ← get
  match rest with
  | [] => put ((if options.isEmpty then Rights.octal p.mask 4 else maskText p.mask) ++ "\n")
  | a :: _ =>
    if a.toList.head?.any Char.isDigit then
      match Rights.ofOctal? a.toList with
      | some mask => set { p with mask := mask % 0o1000 }
      | none => raise ("Illegal number: " ++ a)
    else match Rights.change? false 0 (0o777 - p.mask) a with
      | some left => set { p with mask := 0o777 - left % 0o1000 }
      | none => raise ("Illegal mode: " ++ a)
  return 0

/-- Show what the system allows a process. -/
def showLimits : Action := fun arguments => do
  let letters := ['H', 'S', 'a', 't', 'f', 'd', 's', 'c', 'm', 'l', 'p', 'n', 'v', 'w', 'r']
  let (options, rest) ← readOptions letters [] arguments
  if rest.isEmpty then
    put (if isGiven options 'c' then "0\n" else if isGiven options 'n' then "1024\n"
      else if isGiven options 's' then "8192\n" else "unlimited\n")
  return 0

/-! ### Conditions -/

/-- See whether a condition holds. -/
def testCondition : Action := fun words => do
  match Condition.verdict (← get).world words with
  | .ok b => return if b then 0 else 1
  | .error message => raise message

/-- See whether a condition between brackets holds. -/
def testBetweenBrackets : Action := fun words => do
  if words.getLast? == some "]" then testCondition words.dropLast
  else raise "missing ]"

end GuardCost.Shell.Builtin
