/-
GuardCost/Shell/Examination.lean

Conditions in the extended dialect.  As words, with `test` and single
brackets, they follow the rules of the plain dialect with a few more signs and
complaints of their own.  As commands between double brackets, numbers in them
are arithmetic expressions and texts are compared with patterns and regular
expressions.
-/
import GuardCost.Shell.Builtin.Variables
import GuardCost.Shell.Condition
import GuardCost.Shell.Expansion
import GuardCost.Shell.Judgement
import GuardCost.Text.Regex

namespace GuardCost.Shell.Examination

open Process

/-! ### Questions -/

/-- Whether a variable, or a value of a list, is there. -/
def isSet (p : Process) (s : String) : Bool :=
  match splitFirst? '[' s.toList with
  | some (name, rest) =>
    let e := listOf p (String.ofList name)
    let key := String.ofList rest.dropLast
    if key == "@" || key == "*" then !e.entries.isEmpty else (e.value? key).isSome
  | none => (textOfVariable? p s).isSome

/-- Whether an option of the shell is on. -/
def isOn (p : Process) (name : String) : Bool :=
  match Builtin.optionNames.lookup name with
  | some letter => hasOption p letter
  | none => p.shell.settings.contains name

/-- A question about one text. -/
def about? (p : Process) (sign : String) : Option (String → Bool) :=
  match sign with
  | "-v" => some (isSet p)
  | "-o" => some (isOn p)
  | "-a" => Condition.unary? p.world "-e"
  | "-N" => some fun _ => false
  | "-R" => some fun _ => false
  | sign => Condition.unary? p.world sign

/-- When a file was changed, a file that is not there before all others. -/
def changedAt (p : Process) (s : String) : Nat :=
  match p.world.files.modified? p.directory (pathOf s) with
  | some t => t + 1
  | none => 0

/-- A question about two texts. -/
def between? (p : Process) (sign : String) : Option (String → String → Condition.Verdict) :=
  let number := fun s => (Condition.number s).mapError fun _ => s ++ ": integer expression expected"
  match sign with
  | "==" => some fun a b => .ok (a == b)
  | "-nt" => some fun a b => .ok (changedAt p b < changedAt p a)
  | "-ot" => some fun a b => .ok (changedAt p a < changedAt p b)
  | sign =>
    match Condition.comparison? sign with
    | some f => some fun a b => do return f (← number a) (← number b)
    | none => Condition.binary? p.world sign

/-! ### Conditions as words -/

mutual

/-- Read alternatives. -/
def alternatives (p : Process) (allowance : Nat) (ws : List String) :
    Except String (Bool × List String) :=
  match allowance with
  | 0 => .error "too many arguments"
  | n + 1 => do
    let (a, rest) ← conjunction p n ws
    match rest with
    | "-o" :: rest =>
      let (b, rest) ← alternatives p n rest
      return (a || b, rest)
    | rest => return (a, rest)

/-- Read conditions that all have to hold. -/
def conjunction (p : Process) (allowance : Nat) (ws : List String) :
    Except String (Bool × List String) :=
  match allowance with
  | 0 => .error "too many arguments"
  | n + 1 => do
    let (a, rest) ← single p n ws
    match rest with
    | "-a" :: rest =>
      let (b, rest) ← conjunction p n rest
      return (a && b, rest)
    | rest => return (a, rest)

/-- Read one condition. -/
def single (p : Process) (allowance : Nat) (ws : List String) :
    Except String (Bool × List String) :=
  match allowance with
  | 0 => .error "too many arguments"
  | n + 1 =>
    match ws with
    | [] => .error "argument expected"
    | "!" :: rest => do
      let (b, rest) ← single p n rest
      return (!b, rest)
    | "(" :: rest => do
      match ← alternatives p n rest with
      | (b, ")" :: rest) => return (b, rest)
      | (_, found :: _) => .error ("\x60)' expected, found " ++ found)
      | (_, []) => .error "\x60)' expected"
    | a :: sign :: b :: rest =>
      match between? p sign with
      | some f => do return (← f a b, rest)
      | none =>
        match about? p a with
        | some f => .ok (f sign, b :: rest)
        | none => .ok (!a.isEmpty, sign :: b :: rest)
    | [a, b] =>
      match about? p a with
      | some f => .ok (f b, [])
      | none => .ok (!a.isEmpty, [b])
    | [a] => .ok (!a.isEmpty, [])

end

/-- The verdict on two words. -/
def ofTwo (p : Process) (a b : String) : Condition.Verdict :=
  if a == "!" then .ok b.isEmpty
  else match about? p a with
    | some f => .ok (f b)
    | none => .error (a ++ ": unary operator expected")

/-- The verdict on three words. -/
def ofThree (p : Process) (a sign b : String) : Condition.Verdict :=
  match between? p sign with
  | some f => f a b
  | none =>
    if sign == "-a" then .ok (!a.isEmpty && !b.isEmpty)
    else if sign == "-o" then .ok (!a.isEmpty || !b.isEmpty)
    else if a == "!" then (ofTwo p sign b).map not
    else if a == "(" && b == ")" then .ok (!sign.isEmpty)
    else .error (sign ++ ": binary operator expected")

/-- The verdict on some words. -/
def verdict (p : Process) (ws : List String) : Condition.Verdict :=
  let whole : Condition.Verdict := do
    match ← alternatives p (4 * ws.length + 8) ws with
    | (b, []) => return b
    | _ => .error "too many arguments"
  match ws with
  | [] => .ok false
  | [a] => .ok (!a.isEmpty)
  | [a, b] => ofTwo p a b
  | [a, sign, b] => ofThree p a sign b
  | [a, b, c, d] =>
    if a == "!" then (ofThree p b c d).map not
    else if a == "(" && d == ")" then ofTwo p b c
    else whole
  | _ => whole

/-! ### Conditions as commands -/

/-- The text of a regular expression in which what was quoted stands for
itself. -/
def expressionText (cs : List Marked) : String :=
  String.ofList (cs.flatMap fun (c, quoted) =>
    if quoted && !c.isAlphanum && c != ' ' then ['\\', c] else [c])

/-- Match a text with a regular expression; what its groups have taken is
kept. -/
def matchExpression (s : String) (pattern : List Marked) : Doing (Option Bool) := do
  match Text.Regex.ofText .extended (expressionText pattern) with
  | .error _ => return none
  | .ok (r, groups) =>
    match Text.Regex.find? {} r 0 none s.toList with
    | none =>
      setElements "BASH_REMATCH" {}
      return some false
    | some found =>
      let whole := String.ofList ((s.toList.drop found.start).take found.length)
      let parts := (List.range groups).map fun i =>
        match found.groups.lookup (i + 1) with
        | some (_, cs) => String.ofList cs
        | none => ""
      setElements "BASH_REMATCH" (.ofList (whole :: parts))
      return some true

/-- A number in a condition. -/
def numberIn (s : String) : Doing (Option Int) := do
  match ← reckon s with
  | .ok n => return some n
  | .error message =>
    complainAt ("[[: " ++ message)
    return none

/-- Compare two numbers. -/
def compareNumbers (f : Int → Int → Bool) (a b : String) : Doing (Option Bool) := do
  match ← numberIn a with
  | none => return some false
  | some x =>
    match ← numberIn b with
    | none => return some false
    | some y => return some (f x y)

/-- A condition as it is shown when it is carried out. -/
def shownWord (s : String) : String := Reshaping.shown s

/-- Show a condition where an option asks for it. -/
def display (text : String) : Doing Unit := do
  let p ← get
  if hasOption p 'x' then putError ((p.value? "PS4").getD "" ++ "[[ " ++ text ++ " ]]\n")

/-- Whether a condition holds, if that can be said. -/
def holds (run : Script → Doing Unit) : Judgement → Doing (Option Bool)
  | .something w => do
    let s ← expandText run w
    display ("-n " ++ shownWord s)
    return some (!s.isEmpty)
  | .about sign w => do
    let s ← expandText run w
    display (sign ++ " " ++ shownWord s)
    match about? (← get) sign with
    | some f => return some (f s)
    | none => return none
  | .between sign left right => do
    let a ← expandText run left
    match sign with
    | "=~" =>
      let pattern := markedOf (← expandPieces run {} true right)
      display (shownWord a ++ " =~ " ++ shownWord (expressionText pattern))
      matchExpression a pattern
    | "=" => fitting a "=" right
    | "==" => fitting a "==" right
    | "!=" => return (← fitting a "!=" right).map not
    | sign =>
      let b ← expandText run right
      display (shownWord a ++ " " ++ sign ++ " " ++ shownWord b)
      match Condition.comparison? sign with
      | some f => compareNumbers f a b
      | none =>
        match between? (← get) sign with
        | some f => return (f a b).toOption
        | none => return none
  | .negated a => do return (← holds run a).map not
  | .both a b => do
    match ← holds run a with
    | some true => holds run b
    | other => return other
  | .either a b => do
    match ← holds run a with
    | some false => holds run b
    | other => return other
where
  fitting (a sign : String) (right : Word) : Doing (Option Bool) := do
    let pattern ← expandPattern run right
    display (shownWord a ++ " " ++ sign ++ " "
      ++ String.ofList (pattern.flatMap fun (c, quoted) => if quoted then ['\\', c] else [c]))
    return some (fitsPattern pattern a.toList)

end GuardCost.Shell.Examination
