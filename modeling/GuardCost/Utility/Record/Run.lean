/-
GuardCost/Utility/Record/Run.lean

Carrying out scripts that go through records.  The rules at the start come
first; then every record of the input goes through the other rules, if there
are any; the rules at the end come last, and then everything that is still open
is closed.
-/
import GuardCost.Utility.Record.Grammar
import GuardCost.Utility.Record.Store

namespace GuardCost.Utility.Record

open Process

/-! ### What surrounds a script -/

/-- What a script is carried out with. -/
structure Setting where
  runner : Runner
  functions : List Function
  /-- How often a loop goes round before it is taken to go on for ever. -/
  rounds : Nat := 10000000

/-! ### Arithmetic -/

/-- What is left of a division, with the sign of the first number. -/
def remainderOf (x y : Float) : Float :=
  if y == 0 || x.isNaN || y.isNaN || x.isInf then 0 / 0
  else if y.isInf then x
  else
    match Binary64.view x, Binary64.view y with
    | .finite negative m e, .finite _ k f =>
      -- both as whole numbers of the smaller of their last places
      let low := min e f
      let a := m * Nat.pow 2 (e - low).toNat
      let b := k * Nat.pow 2 (f - low).toNat
      let r := Float.scaleB (Float.ofNat (a % b)) low
      if negative then -r else r
    | _, _ => 0 / 0

/-- What a sign does with two numbers. -/
def Sign.apply (sign : Sign) (x y : Float) : Float :=
  match sign with
  | .plus => x + y
  | .minus => x - y
  | .times => x * y
  | .over => x / y
  | .remainder => remainderOf x y
  | .power => Float.pow x y

/-- Whether a comparison holds for two values in some order. -/
def Comparison.holds (how : Comparison) (o : Ordering) : Bool :=
  match how with
  | .less => o == .lt
  | .atMost => o != .gt
  | .equal => o == .eq
  | .unequal => o != .eq
  | .atLeast => o != .lt
  | .greater => o == .gt

/-! ### Functions that every script has -/

/-- The next number by chance, between zero and one. -/
def nextChance : Acting Value := do
  let s ← getThe Store
  let seed := (s.seed * 1103515245 + 12345) % 0x80000000
  set { s with seed }
  return .number (Float.ofNat seed / Float.ofNat 0x80000000)

/-- The value of a function of numbers. -/
def reckonFunction (name : String) (x y : Float) : Value :=
  .number (match name with
    | "sin" => x.sin
    | "cos" => x.cos
    | "atan2" => Float.atan2 x y
    | "exp" => x.exp
    | "log" => x.log
    | "sqrt" => x.sqrt
    | _ => if x < 0 then x.ceil else x.floor)

/-- Note where a match is. -/
def noteMatch (found? : Option (Nat × Nat)) : Acting Value := do
  let (start, length) := match found? with
    | some (start, length) => (Value.ofNat (start + 1), Value.ofNat length)
    | none => (.number 0, .number (-1))
  assign "RSTART" start
  assign "RLENGTH" length
  return start

/-- The value of a function of values. -/
def callCommon (s : Setting) (name : String) (values : List Value) : Acting Value := do
  let texts ← values.mapM textOf
  let first := texts.headD ""
  let number := fun (i : Nat) => ((values[i]?).getD .nothing).toNumber
  match name with
  | "length" => return .ofNat first.length
  | "substr" =>
    return .text (pieceOf first (number 1) (if values.length > 2 then some (number 2) else none))
  | "index" => return .ofNat (placeOf ((texts[1]?).getD "").toList 1 first.toList)
  | "tolower" => return .text (String.ofList (first.toList.map Char.toLower))
  | "toupper" => return .text (String.ofList (first.toList.map Char.toUpper))
  | "sprintf" =>
    match formatted? first values.tail with
    | some text => return .text text
    | none => giveUpInRecord ("not enough arguments passed to sprintf(\"" ++ first ++ "\")")
  | "rand" => nextChance
  | "srand" =>
    let old := (← getThe Store).seed
    modifyThe Store fun store => { store with seed := (wholeOf (number 0)).toNat }
    return .ofNat old
  | "system" =>
    flush
    return .ofNat (← runCommand s.runner first none)
  | "close" => closeNamed s.runner first
  | "fflush" =>
    flush
    return .number 0
  | name => return reckonFunction name (number 0) (number 1)

/-! ### Expressions -/

/-- Evaluate expressions one after the other. -/
def evaluateAll (evaluate : Expr → Acting Value) : List Expr → Acting (List Value)
  | [] => return []
  | e :: rest => do
    let v ← evaluate e
    return v :: (← evaluateAll evaluate rest)

/-- The key that some values are. -/
def keyOf (values : List Value) : Acting String := do
  match values with
  | [v] => textOf v
  | values => return (← textIn "SUBSEP").intercalate (← values.mapM textOf)

/-- The regular expression that an expression stands for. -/
def patternOf (evaluate : Expr → Acting Value) (e : Expr) : Acting Text.Regex := do
  match e with
  | .pattern s => return regexOf s
  | e => return regexOf (← textOf (← evaluate e))

/-- Something that can be assigned to, with all that stands in it evaluated. -/
inductive Place where
  | named (name : String)
  | field (index : Nat)
  | element (place : Nat) (key : String)

/-- The place that an expression is. -/
def placeOfExpr (evaluate : Expr → Acting Value) (e : Expr) : Acting Place := do
  match e with
  | .field index => return .field (wholeOf (← evaluate index).toNumber).toNat
  | .element name keys =>
    let key ← keyOf (← evaluateAll evaluate keys)
    return .element (← tablePlace name) key
  | .named name => return .named name
  | _ => giveUp "assignment to something that is no variable"

/-- The value at a place; a key that is looked at is there from then on. -/
def Place.value : Place → Acting Value
  | named name => valueOf name
  | field index => fieldValue index
  | element place key => do
    let v := ((← tableAt place).get? key).getD .nothing
    changeTable place (Table.insert key v)
    return v

/-- Put a value at a place. -/
def Place.put (v : Value) : Place → Acting Unit
  | named name => assign name v
  | field index => setField index v
  | element place key => changeTable place (Table.insert key v)

/-- What a record that was read goes to: a place, or the record itself. -/
def takeRecord (place? : Option Place) (record : String) : Acting Unit :=
  match place? with
  | some place => place.put (.ofInput record)
  | none => setRecord record

/-- What is handed to a function: a table if the expression is one. -/
def handOver (evaluate : Expr → Acting Value) (e : Expr) : Acting Slot := do
  match e with
  | .named name =>
    if name == "NF" then return .value (← valueOf name)
    else
      match ← slot? name with
      | some slot => return slot
      | none =>
        let place ← newTable
        setSlot name (.unset place)
        return .unset place
  | e => return .value (← evaluate e)

/-- Carry out the body of a function with its parameters. -/
def enter (body : Acting Unit) (parameters : List (String × Slot)) : Acting Value := do
  let outer := (← getThe Store).locals
  modifyThe Store fun s => { s with locals := parameters }
  let result ← tryCatch (do
    body
    return .nothing) fun jump =>
      match jump with
      | .giveBack v => return v
      | jump => throw jump
  modifyThe Store fun s => { s with locals := outer }
  return result

/-- Call a function of the script. -/
def callFunction (s : Setting) (evaluate : Expr → Acting Value)
    (execute : Statement → Acting Unit) (name : String) (arguments : List Expr) :
    Acting Value := do
  match s.functions.find? fun f => f.name == name with
  | none => giveUp ("function " ++ name ++ " never defined")
  | some f =>
    let given ← arguments.mapM (handOver evaluate)
    let fresh ← (f.parameters.drop given.length).mapM fun _ => Slot.unset <$> newTable
    enter (execute f.body) (f.parameters.zip (given ++ fresh))

/-- Replace matches in a place. -/
def substitute (evaluate : Expr → Acting Value) (all : Bool) (arguments : List Expr) :
    Acting Value := do
  match arguments with
  | pattern :: by' :: rest =>
    let r ← patternOf evaluate pattern
    let replacement ← textOf (← evaluate by')
    let target := rest.headD (.field (.number 0))
    let place? ← if target.isPlace then some <$> placeOfExpr evaluate target else pure none
    let old ← match place? with
      | some place => place.value
      | none => evaluate target
    let (new, n) := replaceIn r replacement all (← textOf old)
    match place? with
    | some place => if n > 0 then place.put (.text new)
    | none => pure ()
    return .ofNat n
  | _ => giveUp "wrong number of arguments in call to a function"

/-- Split a text into a table. -/
def splitInto (evaluate : Expr → Acting Value) (arguments : List Expr) : Acting Value := do
  match arguments with
  | source :: .named name :: rest =>
    let s ← textOf (← evaluate source)
    let parts ← match rest with
      | .pattern p :: _ =>
        pure (if s.isEmpty then [] else
          (splitAtMatches (regexOf p) (s.length + 1) none s.toList).map String.ofList)
      | e :: _ => do
        let separator ← textOf (← evaluate e)
        pure (splitFields separator false s)
      | [] => do
        let separator ← textIn "FS"
        pure (splitFields separator false s)
    let place ← tablePlace name
    changeTable place fun _ => Table.ofList (parts.map .ofInput)
    return .ofNat parts.length
  | _ => giveUp "wrong number of arguments in call to split"

/-- Evaluate an expression, given what evaluates its parts and what carries out
statements. -/
def evaluateWith (s : Setting) (evaluate : Expr → Acting Value)
    (execute : Statement → Acting Unit) (e : Expr) : Acting Value := do
  match e with
  | .number x => return .number x
  | .text s => return .text s
  | .pattern p =>
    return .ofBool (findIn (regexOf p) (← getThe Store).record.toList).isSome
  | .named name => valueOf name
  | .field _ => (← placeOfExpr evaluate e).value
  | .element .. => (← placeOfExpr evaluate e).value
  | .tuple [e] => evaluate e
  | .tuple items => return .text (← keyOf (← evaluateAll evaluate items))
  | .assign target none value =>
    let place ← placeOfExpr evaluate target
    let v ← evaluate value
    place.put v
    return v
  | .assign target (some sign) value =>
    let place ← placeOfExpr evaluate target
    let y := (← evaluate value).toNumber
    let v := Value.number (sign.apply (← place.value).toNumber y)
    place.put v
    return v
  | .choose test yes no => if (← evaluate test).holds then evaluate yes else evaluate no
  | .both a b =>
    if (← evaluate a).holds then return .ofBool (← evaluate b).holds else return .number 0
  | .either a b =>
    if (← evaluate a).holds then return .number 1 else return .ofBool (← evaluate b).holds
  | .negated a => return .ofBool (!(← evaluate a).holds)
  | .minus a => return .number (0 - (← evaluate a).toNumber)
  | .plus a => return .number (← evaluate a).toNumber
  | .isKey keys name =>
    let key ← keyOf (← evaluateAll evaluate keys)
    return .ofBool ((← tableAt (← tablePlace name)).get? key).isSome
  | .fits subject pattern =>
    let s ← textOf (← evaluate subject)
    return .ofBool (findIn (← patternOf evaluate pattern) s.toList).isSome
  | .reckon sign a b =>
    let x := (← evaluate a).toNumber
    let y := (← evaluate b).toNumber
    return .number (sign.apply x y)
  | .compare how a b =>
    let x ← evaluate a
    let y ← evaluate b
    return .ofBool (how.holds (x.order (← textIn "CONVFMT") y))
  | .join a b =>
    let x ← textOf (← evaluate a)
    let y ← textOf (← evaluate b)
    return .text (x ++ y)
  | .step before up target =>
    let place ← placeOfExpr evaluate target
    let old := (← place.value).toNumber
    let new := if up then old + 1 else old - 1
    place.put (.number new)
    return .number (if before then old else new)
  | .call name arguments => callFunction s evaluate execute name arguments
  | .ask "split" arguments => splitInto evaluate arguments
  | .ask "sub" arguments => substitute evaluate false arguments
  | .ask "gsub" arguments => substitute evaluate true arguments
  | .ask "match" [subject, pattern] =>
    let s ← textOf (← evaluate subject)
    noteMatch (findIn (← patternOf evaluate pattern) s.toList)
  | .ask "length" [] => return .ofNat (← getThe Store).record.length
  | .ask "length" [.named name] =>
    match ← slot? name with
    | some (.table place) => return .ofNat (← tableAt place).length
    | _ => return .ofNat (← textOf (← valueOf name)).length
  | .ask name arguments => callCommon s name (← evaluateAll evaluate arguments)
  | .readNext target? =>
    match ← nextRecord 1000 with
    | none => return .number 0
    | some record =>
      countRecord true
      takeRecord (← target?.mapM (placeOfExpr evaluate)) record
      return .number 1
  | .readFile file target? =>
    let name ← textOf (← evaluate file)
    let (code, record) ← recordFrom name (readFile name)
    if code = 1 then takeRecord (← target?.mapM (placeOfExpr evaluate)) record
    return .ofInt code
  | .readCommand command target? =>
    let name ← textOf (← evaluate command)
    let (code, record) ← recordFrom name do
      return .ok (← outputOfCommand s.runner name)
    if code = 1 then
      countRecord false
      takeRecord (← target?.mapM (placeOfExpr evaluate)) record
    return .ofInt code

/-! ### Statements -/

/-- Carry out the body of a loop; whether the loop goes on. -/
def inLoop (body : Acting Unit) : Acting Bool :=
  tryCatch (do
    body
    return true) fun jump =>
      match jump with
      | .leaveLoop => return false
      | .nextRound => return true
      | jump => throw jump

/-- Go round a loop; its test can come after its body in the first round. -/
def goRound (rounds : Nat) (test : Acting Bool) (body next : Acting Unit) (untested : Bool) :
    Acting Unit :=
  match rounds with
  | 0 => throw .exit
  | n + 1 => do
    if ← (if untested then pure true else test) then
      if ← inLoop body then
        next
        goRound n test body next false

/-- Carry out a loop for each key. -/
def goThrough (name : String) (body : Acting Unit) : List String → Acting Unit
  | [] => return ()
  | key :: rest => do
    assign name (.ofInput key)
    if ← inLoop body then goThrough name body rest

/-- Write a text where it is to go. -/
def writeOut (evaluate : Expr → Acting Value) (outlet? : Option Outlet) (text : String) :
    Acting Unit := do
  match outlet? with
  | none => emit text
  | some (.file name) => writeTo false (← textOf (← evaluate name)) text
  | some (.addedTo name) => writeTo true (← textOf (← evaluate name)) text
  | some (.command name) => writeToCommand (← textOf (← evaluate name)) text

/-- Carry out a statement, given what evaluates expressions and what carries out
the statements in it. -/
def executeWith (s : Setting) (evaluate : Expr → Acting Value)
    (execute : Statement → Acting Unit) (statement : Statement) : Acting Unit := do
  let holds := fun (e : Expr) => (return (← evaluate e).holds : Acting Bool)
  match statement with
  | .nothing => return ()
  | .expression e =>
    let _ ← evaluate e
  | .write items outlet? =>
    let format ← textIn "OFMT"
    let texts ← if items.isEmpty then pure [(← getThe Store).record]
      else pure ((← evaluateAll evaluate items).map (·.toText format))
    writeOut evaluate outlet? ((← textIn "OFS").intercalate texts ++ (← textIn "ORS"))
  | .writeFormatted items outlet? =>
    let values ← evaluateAll evaluate items
    let format ← textOf (values.headD .nothing)
    match formatted? format values.tail with
    | some text => writeOut evaluate outlet? text
    | none => giveUpInRecord ("not enough arguments passed to printf(\"" ++ format ++ "\")")
  | .andThen first second =>
    execute first
    execute second
  | .choice test yes no => if ← holds test then execute yes else execute no
  | .loop test body => goRound s.rounds (holds test) (execute body) (return ()) false
  | .loopAfter body test => goRound s.rounds (holds test) (execute body) (return ()) true
  | .count first test? next body =>
    execute first
    let test := test?.elim (pure true) holds
    goRound s.rounds test (execute body) (execute next) false
  | .forKeys name table body =>
    let keys := (← tableAt (← tablePlace table)).keys
    goThrough name (execute body) keys
  | .leaveLoop => throw .leaveLoop
  | .nextRound => throw .nextRound
  | .nextRecord => throw .nextRecord
  | .nextFile => throw .nextFile
  | .exit code? =>
    match code? with
    | some e =>
      let code := (wholeOf (← evaluate e).toNumber % 256).toNat
      modifyThe Store fun store => { store with code }
    | none => pure ()
    throw .exit
  | .giveBack value? =>
    throw (.giveBack (← match value? with
      | some e => evaluate e
      | none => pure .nothing))
  | .delete name [] => changeTable (← tablePlace name) fun _ => []
  | .delete name keys =>
    let key ← keyOf (← evaluateAll evaluate keys)
    changeTable (← tablePlace name) (Table.remove key)

mutual

/-- Evaluate an expression. -/
def evaluate (s : Setting) (depth : Nat) (e : Expr) : Acting Value :=
  match depth with
  | 0 => throw .exit
  | n + 1 => evaluateWith s (evaluate s n) (execute s n) e

/-- Carry out a statement. -/
def execute (s : Setting) (depth : Nat) (statement : Statement) : Acting Unit :=
  match depth with
  | 0 => throw .exit
  | n + 1 => executeWith s (evaluate s n) (execute s n) statement

end

/-! ### Rules -/

/-- How deep expressions and statements can be nested. -/
def deepest : Nat := 100000

/-- Carry out the action of a rule. -/
def act (s : Setting) (rule : Rule) : Acting Unit :=
  execute s deepest (rule.action?.getD (.write [] none))

/-- Whether the rule with a number applies to the record. -/
def applies (s : Setting) (number : Nat) (pattern : Pattern) : Acting Bool := do
  let holds := fun (e : Expr) => (return (← evaluate s deepest e).holds : Acting Bool)
  match pattern with
  | .always => return true
  | .fits e => holds e
  | .range first last =>
    let isActive := (← getThe Store).active.contains number
    if isActive || (← holds first) then
      let others := (← getThe Store).active.filter (· != number)
      let goesOn := !(← holds last)
      modifyThe Store fun store =>
        { store with active := if goesOn then number :: others else others }
      return true
    else return false
  | _ => return false

/-- Take a record through the rules. -/
def goThroughRules (s : Setting) : List (Rule × Nat) → Acting Unit
  | [] => return ()
  | (rule, number) :: rest => do
    if ← applies s number rule.pattern then act s rule
    goThroughRules s rest

/-- Take all records through the rules. -/
def goThroughRecords (s : Setting) (rules : List (Rule × Nat)) (allowance : Nat) : Acting Unit :=
  match allowance with
  | 0 => return ()
  | n + 1 => do
    match ← nextRecord 1000 with
    | none => return ()
    | some record =>
      countRecord true
      setRecord record
      tryCatch (goThroughRules s rules) fun jump =>
        match jump with
        | .nextRecord => return ()
        | .nextFile => modifyThe Store fun store => { store with input? := none }
        | jump => throw jump
      goThroughRecords s rules n

/-- Whether a rule is for the start. -/
def Rule.isAtStart (rule : Rule) : Bool :=
  match rule.pattern with
  | .atStart => true
  | _ => false

/-- Whether a rule is for the end. -/
def Rule.isAtEnd (rule : Rule) : Bool :=
  match rule.pattern with
  | .atEnd => true
  | _ => false

/-- Do something up to the statement that ends the script, if it comes; whether
it came. -/
def upToExit (body : Acting Unit) : Acting Bool :=
  tryCatch (do
    body
    return false) fun jump =>
      match jump with
      | .exit => return true
      | .fault message => throw (.fault message)
      | _ => return false

/-- Carry out a script; the exit code. -/
def carryOut (runner : Runner) (script : Script) : Acting Nat := do
  let s : Setting := { runner, functions := script.functions }
  let atStart := script.rules.filter Rule.isAtStart
  let atEnd := script.rules.filter Rule.isAtEnd
  let others := script.rules.filter fun rule => !rule.isAtStart && !rule.isAtEnd
  let hasEnded ← upToExit (atStart.forM (act s))
  if !hasEnded && !(others.isEmpty && atEnd.isEmpty) then
    let _ ← upToExit (goThroughRecords s others.zipIdx 10000000)
  let _ ← upToExit (atEnd.forM (act s))
  closeAll runner
  return (← getThe Store).code

end GuardCost.Utility.Record
