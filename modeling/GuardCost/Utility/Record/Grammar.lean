/-
GuardCost/Utility/Record/Grammar.lean

Reading scripts.  Operators bind in levels, from the one that asks whether one
of two conditions holds to the power; two expressions that stand next to each
other are joined.  An assignment is read as soon as something stands there that
can be assigned to.

Every reader is given an allowance, which it passes on less one.
-/
import GuardCost.Utility.Record.Script
import GuardCost.Utility.Record.Token

namespace GuardCost.Utility.Record

/-! ### Readers -/

/-- A reader of part of a script. -/
abbrev Read := StateT (List (Token × Nat)) (Except Fault)

/-- The next token. -/
def ahead? : Read (Option Token) := do return ((← get).head?.map (·.1))

/-- Drop the next token. -/
def skip : Read Unit := modify List.tail

/-- Fail because of the next token. -/
def complain {α : Type} : Read α := do
  match ← get with
  | (t, line) :: _ => throw ⟨line, "syntax error at or near " ++ t.shown⟩
  | [] => throw ⟨0, "missing \x7d near end of file"⟩

/-- Whether the next token is a sign. -/
def isAhead (sign : String) : Read Bool := do
  match ← ahead? with
  | some (.sign s) => return s == sign
  | _ => return false

/-- Whether the next token is a keyword. -/
def isKeywordAhead (name : String) : Read Bool := do
  match ← ahead? with
  | some (.keyword s) => return s == name
  | _ => return false

/-- Take a sign, if it is next. -/
def accept (sign : String) : Read Bool := do
  if ← isAhead sign then
    skip
    return true
  else return false

/-- Take a sign that has to be there. -/
def expect (sign : String) : Read Unit := do
  if !(← accept sign) then complain

/-- Take a keyword, if it is next. -/
def acceptKeyword (name : String) : Read Bool := do
  if ← isKeywordAhead name then
    skip
    return true
  else return false

/-- Take a name that has to be there. -/
def expectName : Read String := do
  match ← ahead? with
  | some (.name s) =>
    skip
    return s
  | _ => complain

/-- Drop line ends. -/
def skipNewlines : Read Unit :=
  modify fun ts => ts.dropWhile fun (t, _) =>
    match t with
    | .newline => true
    | _ => false

/-- Drop line ends and semicolons. -/
def skipEmpty : Read Unit :=
  modify fun ts => ts.dropWhile fun (t, _) =>
    match t with
    | .newline => true
    | .sign s => s == ";"
    | _ => false

/-! ### Operators -/

/-- How a sign reckons with two numbers, on some level. -/
def signOf? (level : Nat) (s : String) : Option Sign :=
  match level, s with
  | 7, "+" => some .plus
  | 7, "-" => some .minus
  | 8, "*" => some .times
  | 8, "/" => some .over
  | 8, "%" => some .remainder
  | _, _ => none

/-- How a sign compares. -/
def comparisonOf? (s : String) : Option Comparison :=
  match s with
  | "<" => some .less
  | "<=" => some .atMost
  | "==" => some .equal
  | "!=" => some .unequal
  | ">=" => some .atLeast
  | ">" => some .greater
  | _ => none

/-- The sign of an assignment: what is done with the old value. -/
def assignmentOf? (s : String) : Option (Option Sign) :=
  match s with
  | "=" => some none
  | "+=" => some (some .plus)
  | "-=" => some (some .minus)
  | "*=" => some (some .times)
  | "/=" => some (some .over)
  | "%=" => some (some .remainder)
  | "^=" => some (some .power)
  | _ => none

/-- Whether an expression that is joined to another one can start with a
token. -/
def startsJoined : Token → Bool
  | .number _ => true
  | .text _ => true
  | .pattern _ => true
  | .name _ => true
  | .call _ => true
  | .function _ => true
  | .sign s => s == "$" || s == "!" || s == "(" || s == "-" || s == "+" || s == "++" || s == "--"
  | _ => false

/-- Whether an expression can start with a token. -/
def startsExpression : Token → Bool
  | .keyword s => s == "getline"
  | t => startsJoined t

/-! ### Expressions -/

/-- A reader of expressions on a level; `greater` says whether the sign for
greater compares there. -/
abbrev ReadLevel := (level : Nat) → (greater : Bool) → Read Expr

/-- Read what follows an expression on a level, again and again. -/
def readFollowing (next : Expr → Read (Option Expr)) (allowance : Nat) (e : Expr) : Read Expr :=
  match allowance with
  | 0 => return e
  | n + 1 => do
    match ← next e with
    | some e => readFollowing next n e
    | none => return e

/-- Read some expressions with commas between them. -/
def readItems (expression : Read Expr) (allowance : Nat) : Read (List Expr) :=
  match allowance with
  | 0 => complain
  | n + 1 => do
    let e ← expression
    if ← accept "," then
      skipNewlines
      return e :: (← readItems expression n)
    else return [e]

/-- Read the arguments of a call after the opening parenthesis. -/
def readArguments (expression : Read Expr) (allowance : Nat) : Read (List Expr) := do
  if ← accept ")" then return []
  else
    let items ← readItems expression allowance
    expect ")"
    return items

/-- Read what can be assigned to, if it comes next. -/
def readTarget? (level : ReadLevel) : Read (Option Expr) := do
  match ← ahead? with
  | some (.name _) => return some (← level 12 false)
  | some (.sign "$") => return some (← level 12 false)
  | _ => return none

/-- Read what can follow an expression on a level. -/
def readOperator (level : ReadLevel) (rank : Nat) (greater : Bool) (e : Expr) :
    Read (Option Expr) := do
  match rank, ← ahead? with
  | 1, some (.sign "||") =>
    skip
    skipNewlines
    return some (.either e (← level 2 greater))
  | 2, some (.sign "&&") =>
    skip
    skipNewlines
    return some (.both e (← level 3 greater))
  | 3, some (.keyword "in") =>
    skip
    let name ← expectName
    return some (.isKey (match e with
      | .tuple keys => keys
      | e => [e]) name)
  | 4, some (.sign "~") =>
    skip
    return some (.fits e (← level 5 greater))
  | 4, some (.sign "!~") =>
    skip
    return some (.negated (.fits e (← level 5 greater)))
  | 5, some (.sign "|") =>
    match (← get).drop 1 with
    | (.keyword "getline", _) :: _ =>
      skip
      skip
      return some (.readCommand e (← readTarget? level))
    | _ => return none
  | 5, some (.sign s) =>
    match if s == ">" && !greater then none else comparisonOf? s with
    | some how =>
      skip
      return some (.compare how e (← level 6 greater))
    | none => return none
  | 6, some t =>
    if startsJoined t then return some (.join e (← level 7 greater)) else return none
  | 10, some (.sign "^") =>
    skip
    return some (.reckon .power e (← level 9 greater))
  | rank, some (.sign s) =>
    match signOf? rank s with
    | some sign =>
      skip
      return some (.reckon sign e (← level (rank + 1) greater))
    | none => return none
  | _, _ => return none

/-- Read an expression that starts with a sign, a name or a text. -/
def readPrimary (level : ReadLevel) (expression : Read Expr) (allowance : Nat) : Read Expr := do
  match ← ahead? with
  | some (.number x) =>
    skip
    return .number x
  | some (.text s) =>
    skip
    return .text s
  | some (.pattern s) =>
    skip
    return .pattern s
  | some (.name s) =>
    skip
    if ← accept "[" then
      let keys ← readItems expression allowance
      expect "]"
      return .element s keys
    else return .named s
  | some (.call s) =>
    skip
    skip
    return .call s (← readArguments expression allowance)
  | some (.function s) =>
    skip
    if ← accept "(" then return .ask s (← readArguments expression allowance)
    else if s == "length" then return .ask s []
    else complain
  | some (.sign "$") =>
    skip
    -- what follows the number of a field is done to the field
    match ← ahead? with
    | some (.sign s) => return .field (← level (if s == "(" || s == "$" then 12 else 11) false)
    | _ => return .field (← level 12 false)
  | some (.sign "(") =>
    skip
    match ← readItems expression allowance with
    | [e] =>
      expect ")"
      return .tuple [e]
    | items =>
      expect ")"
      return .tuple items
  | some (.keyword "getline") =>
    skip
    let target? ← readTarget? level
    if ← accept "<" then return .readFile (← level 11 false) target?
    else return .readNext target?
  | _ => complain

/-- Read an expression on a level.  Level zero is a whole expression; from level
nine on signs stand in front, and level twelve has neither signs nor
assignments. -/
def readLevel (allowance : Nat) (rank : Nat) (greater : Bool) : Read Expr :=
  match allowance with
  | 0 => complain
  | n + 1 => do
    let level : ReadLevel := readLevel n
    let expression : Read Expr := level 0 true
    let room := (← get).length + 1
    if rank = 0 then
      let e ← level 1 greater
      if ← accept "?" then
        skipNewlines
        let yes ← level 0 greater
        skipNewlines
        expect ":"
        skipNewlines
        return .choose e yes (← level 0 greater)
      else return e
    else if rank < 9 then
      readFollowing (readOperator level rank greater) room (← level (rank + 1) greater)
    else if rank = 9 then
      match ← ahead? with
      | some (.sign "!") =>
        skip
        return .negated (← level 9 greater)
      | some (.sign "-") =>
        skip
        return .minus (← level 9 greater)
      | some (.sign "+") =>
        skip
        return .plus (← level 9 greater)
      | _ => level 10 greater
    else if rank = 10 then
      let e ← level 11 true
      let assignment? := match ← ahead? with
        | some (.sign s) => if e.isPlace then assignmentOf? s else none
        | _ => none
      match assignment? with
      | some sign? =>
        skip
        skipNewlines
        return .assign e sign? (← level 0 greater)
      | none => return (← readOperator level 10 greater e).getD e
    else if rank = 11 then
      if ← accept "++" then return .step false true (← level 12 true)
      else if ← accept "--" then return .step false false (← level 12 true)
      else
        match ← ahead? with
        | some (.sign "-") =>
          skip
          return .minus (← level 11 greater)
        | some (.sign "+") =>
          skip
          return .plus (← level 11 greater)
        | some (.sign "!") =>
          skip
          return .negated (← level 11 greater)
        | _ =>
          let e ← level 12 true
          if !e.isPlace then return e
          else if ← accept "++" then return .step true true e
          else if ← accept "--" then return .step true false e
          else return e
    else readPrimary level expression room

/-- Read an expression. -/
def readExpression (greater : Bool) : Read Expr := do
  readLevel (30 * (← get).length + 100) 0 greater

/-! ### Statements -/

/-- Take the end of a statement; a closing brace ends one too, and stays. -/
def readEnd : Read Unit := do
  match ← ahead? with
  | some .newline => skip
  | some (.sign ";") => skip
  | some (.sign "\x7d") => return ()
  | none => return ()
  | _ => complain

/-- Read where output goes. -/
def readOutlet? : Read (Option Outlet) := do
  let target := readExpression false
  if ← accept ">" then return some (.file (← target))
  else if ← accept ">>" then return some (.addedTo (← target))
  else if ← accept "|" then return some (.command (← target))
  else return none

/-- Read the items of an output. -/
def readOutput : Read (List Expr) := do
  match ← ahead? with
  | some t =>
    if startsExpression t then
      match ← readItems (readExpression false) ((← get).length + 1) with
      | [.tuple items] => return items
      | items => return items
    else return []
  | none => return []

/-- Read a statement that holds no other one, without its end. -/
def readSimple : Read Statement := do
  match ← ahead? with
  | some (.keyword "print") =>
    skip
    let items ← readOutput
    return .write items (← readOutlet?)
  | some (.keyword "printf") =>
    skip
    let items ← readOutput
    return .writeFormatted items (← readOutlet?)
  | some (.keyword "next") =>
    skip
    return .nextRecord
  | some (.keyword "nextfile") =>
    skip
    return .nextFile
  | some (.keyword "break") =>
    skip
    return .leaveLoop
  | some (.keyword "continue") =>
    skip
    return .nextRound
  | some (.keyword "exit") =>
    skip
    return .exit (← value?)
  | some (.keyword "return") =>
    skip
    return .giveBack (← value?)
  | some (.keyword "delete") =>
    skip
    let name ← expectName
    if ← accept "[" then
      let keys ← readItems (readExpression true) ((← get).length + 1)
      expect "]"
      return .delete name keys
    else return .delete name []
  | _ => return .expression (← readExpression true)
where
  value? : Read (Option Expr) := do
    match ← ahead? with
    | some t => if startsExpression t then return some (← readExpression true) else return none
    | none => return none

/-- Read what goes on after a first statement, if it is an alternative. -/
def readElse (statement : Read Statement) : Read Statement := do
  let before ← get
  skipEmpty
  if ← acceptKeyword "else" then
    skipNewlines
    statement
  else
    set before
    return .nothing

/-- Read the statements of a block after its opening brace. -/
def readBlock (statement : Read Statement) (allowance : Nat) : Read Statement :=
  match allowance with
  | 0 => complain
  | n + 1 => do
    skipEmpty
    if ← accept "\x7d" then return .nothing
    else
      let first ← statement
      return .andThen first (← readBlock statement n)

/-- Read a loop from its parenthesis on. -/
def readFor (statement : Read Statement) : Read Statement := do
  match ← get with
  | (.name name, _) :: (.keyword "in", _) :: (.name table, _) :: (.sign ")", _) :: rest =>
    set rest
    skipNewlines
    return .forKeys name table (← statement)
  | _ =>
    let first ← if ← isAhead ";" then pure .nothing else readSimple
    expect ";"
    skipNewlines
    let test? ← if ← isAhead ";" then pure none else some <$> readExpression true
    expect ";"
    skipNewlines
    let next ← if ← isAhead ")" then pure .nothing else readSimple
    expect ")"
    return .count first test? next (← body)
where
  body : Read Statement := do
    if ← accept ";" then return .nothing
    else
      skipNewlines
      statement

/-- Read a statement with its end. -/
def readStatement (allowance : Nat) : Read Statement :=
  match allowance with
  | 0 => complain
  | n + 1 => do
    let condition : Read Expr := do
      expect "("
      let e ← readExpression true
      expect ")"
      return e
    let body : Read Statement := do
      if ← accept ";" then return .nothing
      else
        skipNewlines
        readStatement n
    match ← ahead? with
    | some (.sign "\x7b") =>
      skip
      readBlock (readStatement n) ((← get).length + 1)
    | some (.sign ";") =>
      skip
      return .nothing
    | some (.keyword "if") =>
      skip
      let test ← condition
      let yes ← body
      return .choice test yes (← readElse (readStatement n))
    | some (.keyword "while") =>
      skip
      let test ← condition
      return .loop test (← body)
    | some (.keyword "do") =>
      skip
      skipNewlines
      let body ← readStatement n
      skipEmpty
      if !(← acceptKeyword "while") then complain
      let test ← condition
      readEnd
      return .loopAfter body test
    | some (.keyword "for") =>
      skip
      expect "("
      readFor (readStatement n)
    | _ =>
      let s ← readSimple
      readEnd
      return s

/-! ### Rules -/

/-- Read an action from its opening brace on. -/
def readAction : Read Statement := do
  expect "\x7b"
  readBlock (readStatement ((← get).length + 1)) ((← get).length + 1)

/-- Read the parameters of a function after the opening parenthesis. -/
def readParameters (allowance : Nat) : Read (List String) :=
  match allowance with
  | 0 => complain
  | n + 1 => do
    if ← accept ")" then return []
    else
      let name ← expectName
      skipNewlines
      if ← accept "," then
        skipNewlines
        return name :: (← readParameters n)
      else
        expect ")"
        return [name]

/-- Read a function after its keyword. -/
def readFunction : Read Function := do
  let name ← match ← ahead? with
    | some (.name s) => pure s
    | some (.call s) => pure s
    | _ => complain
  skip
  expect "("
  let parameters ← readParameters ((← get).length + 1)
  skipNewlines
  return { name, parameters, body := ← readAction }

/-- Read a rule. -/
def readRule : Read Rule := do
  if ← acceptKeyword "BEGIN" then
    skipNewlines
    return { pattern := .atStart, action? := some (← readAction) }
  else if ← acceptKeyword "END" then
    skipNewlines
    return { pattern := .atEnd, action? := some (← readAction) }
  else if ← isAhead "\x7b" then return { pattern := .always, action? := some (← readAction) }
  else
    let e ← readExpression true
    let pattern ←
      if ← accept "," then
        skipNewlines
        pure (.range e (← readExpression true))
      else pure (.fits e)
    return { pattern, action? := ← if ← isAhead "\x7b" then some <$> readAction else pure none }

/-- Read the rules and functions of a script. -/
def readScript (allowance : Nat) : Read Script :=
  match allowance with
  | 0 => return {}
  | n + 1 => do
    skipEmpty
    match ← ahead? with
    | none => return {}
    | some (.keyword "function") =>
      skip
      let f ← readFunction
      let rest ← readScript n
      return { rest with functions := f :: rest.functions }
    | some _ =>
      let rule ← readRule
      let rest ← readScript n
      return { rest with rules := rule :: rest.rules }

/-- The functions that are called. -/
def callsIn (tokens : List (Token × Nat)) : List String :=
  tokens.filterMap fun (t, _) =>
    match t with
    | .call name => some name
    | _ => none

/-- The script that a text is; every function that it calls has to be there. -/
def scriptOf (s : String) : Except Fault Script := do
  let tokens ← tokensOf s
  let lastLine := tokens.getLast?.elim 1 (·.2)
  match (readScript (tokens.length + 1)).run tokens with
  | .ok (script, _) =>
    let isMissing := fun (name : String) => !(script.functions.any fun f => f.name == name)
    match (callsIn tokens).find? isMissing with
    | some name => throw ⟨lastLine + 1, "function " ++ name ++ " never defined"⟩
    | none => return script
  | .error ⟨0, message⟩ => throw ⟨lastLine + 1, message⟩
  | .error fault => throw fault

end GuardCost.Utility.Record
