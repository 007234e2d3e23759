/-
GuardCost/Shell/Reckoning.lean

The arithmetic of the extended dialect.  Beside the operators of the plain one
there are powers, lists of expressions with commas, steps by one before and
after a variable, numbers in any base up to sixty-four, and values of lists.  A
variable can hold an expression, which is evaluated in its turn.

An expression is evaluated while it is read.  What does not count is read
without effect.  A complaint names the expression and the text from the token
that was read last.
-/
import GuardCost.Shell.Arithmetic
import GuardCost.Shell.Source

namespace GuardCost.Shell.Reckoning

open Arithmetic (wrap truth plainOperators)

/-! ### Tokens -/

/-- A token of an expression. -/
inductive Token where
  | number (cs : List Char)
  /-- A variable, or a value of a list with the text of its subscript. -/
  | place (name : String) (subscript? : Option String)
  | sign (s : String)
  /-- A character that means nothing. -/
  | unknown
  deriving DecidableEq, Repr

/-- The signs of more than one character, the longer first. -/
def longSigns : List String :=
  ["<<=", ">>=", "++", "--", "**", "+=", "-=", "*=", "/=", "%=", "&=", "|=", "^=", "<<", ">>",
    "<=", ">=", "==", "!=", "&&", "||"]

/-- The signs of one character. -/
def shortSigns : List Char :=
  ['+', '-', '*', '/', '%', '&', '|', '^', '<', '>', '=', '!', '~', '?', ':', ',', '(', ')']

/-- Whether a character can stand in a number. -/
def continuesNumber (c : Char) : Bool := c.isAlphanum || c == '#' || c == '@' || c == '_'

/-- The text of a subscript up to its closing bracket, and what follows. -/
def subscriptText? : Nat → List Char → Option (List Char × List Char)
  | _, [] => none
  | depth, c :: rest =>
    if c == ']' && depth = 0 then some ([], rest)
    else
      let depth := if c == '[' then depth + 1 else if c == ']' then depth - 1 else depth
      (subscriptText? depth rest).map fun (text, after) => (c :: text, after)

/-- The token at the front of a text without blanks in front, and what follows
it. -/
def token (cs : List Char) : Token × List Char :=
  match cs with
  | [] => (.unknown, [])
  | c :: rest =>
    if c.isDigit then (.number (cs.takeWhile continuesNumber), cs.dropWhile continuesNumber)
    else if startsName c then
      let name := String.ofList (cs.takeWhile continuesName)
      match cs.dropWhile continuesName with
      | '[' :: after =>
        match subscriptText? 0 after with
        | some (text, after) => (.place name (some (String.ofList text)), after)
        | none => (.place name none, '[' :: after)
      | after => (.place name none, after)
    else match longSigns.find? fun s => s.toList.isPrefixOf cs with
      | some s => (.sign s, cs.drop s.length)
      | none => (if shortSigns.contains c then .sign c.toString else .unknown, rest)

/-- The tokens of a text, each with the text from it on. -/
def tokens (allowance : Nat) (cs : List Char) : List (Token × List Char) :=
  match allowance, Arithmetic.dropSpace cs with
  | 0, _ => []
  | _, [] => []
  | n + 1, cs =>
    let (t, rest) := token cs
    (t, cs) :: tokens n rest

/-! ### State -/

/-- Why an expression has no value. -/
structure Complaint where
  message : String
  /-- The expression, and the text from the token that was read last; there is
  none where no token is at fault. -/
  places? : Option (String × String) := none

/-- A complaint in words. -/
def Complaint.text (c : Complaint) : String :=
  match c.places? with
  | some (expression, token) =>
    expression ++ ": " ++ c.message ++ " (error token is \"" ++ token ++ "\")"
  | none => c.message

/-- What an expression finds among the variables. -/
structure Lookup where
  /-- The value of a variable or, by its key, of a list. -/
  value? : String → Option String → Option String
  /-- Whether a variable is a list with texts for keys. -/
  isNamed : String → Bool
  /-- Whether a variable has to have a value. -/
  strict : Bool := false

/-- What is known while an expression is evaluated. -/
structure State where
  expression : List Char
  tokens : List (Token × List Char)
  /-- The text from the token that was read last. -/
  last : List Char := []
  /-- The variables that were changed, the newest first. -/
  changes : List ((String × Option String) × Int) := []

/-- An evaluation. -/
abbrev Evaluation := StateT State (Except Complaint)

/-- Fail at the token that was read last. -/
def fail {α : Type} (message : String) : Evaluation α := do
  let s ← get
  let expression := Arithmetic.dropSpace s.expression
  throw { message, places? := some (String.ofList expression, String.ofList s.last) }

/-- The next token. -/
def next? : Evaluation (Option Token) := do
  match (← get).tokens with
  | [] => return none
  | (.unknown, _) :: _ => fail "syntax error: invalid arithmetic operator"
  | (t, _) :: _ => return some t

/-- Note where the next token is. -/
def note (s : State) : State :=
  match s.tokens with
  | (_, text) :: _ => { s with last := text }
  | [] => s

/-- Go to the next token. -/
def advance : Evaluation Unit := modify fun s => note { s with tokens := s.tokens.tail }

/-- Whether the next token is a sign. -/
def isAt (sign : String) : Evaluation Bool := do
  return (← next?) == some (.sign sign)

/-! ### Numbers -/

/-- The value of a digit in a base. -/
def digit? (base : Nat) (c : Char) : Option Nat :=
  let value? :=
    if c.isDigit then some (c.toNat - '0'.toNat)
    else if c.isLower then some (c.toNat - 'a'.toNat + 10)
    else if c.isUpper then some (c.toNat - 'A'.toNat + if base ≤ 36 then 10 else 36)
    else if c == '@' then some 62
    else if c == '_' then some 63
    else none
  value?.filter (· < base)

/-- The number that digits write in a base. -/
def numberIn (base : Nat) (ds : List Char) : Except String Nat :=
  ds.foldlM (fun n d => match digit? base d with
    | some k => .ok (n * base + k)
    | none => .error "value too great for base") 0

/-- The number that some characters write. -/
def numberOf (cs : List Char) : Except String Nat :=
  match splitFirst? '#' cs with
  | some (base, ds) => do
    let b ← numberIn 10 base
    if b < 2 || 64 < b then throw "invalid arithmetic base"
    else if ds.isEmpty then throw "invalid integer constant"
    else numberIn b ds
  | none =>
    match cs with
    | '0' :: x :: ds => if x == 'x' || x == 'X' then numberIn 16 ds else numberIn 8 (x :: ds)
    | cs => numberIn 10 cs

/-! ### Operators -/

/-- The operators between two numbers, from the loosest level to the
tightest. -/
def levels : List (List String) :=
  [["|"], ["^"], ["&"], ["==", "!="], ["<=", ">=", "<", ">"], ["<<", ">>"], ["+", "-"],
    ["*", "/", "%"]]

/-- What an operator makes of two numbers. -/
def apply (sign : String) (a b : Int) : Except String Int :=
  match sign with
  | "==" => .ok (truth (a == b))
  | "!=" => .ok (truth (a != b))
  | "<=" => .ok (truth (a ≤ b))
  | ">=" => .ok (truth (b ≤ a))
  | "<" => .ok (truth (a < b))
  | ">" => .ok (truth (b < a))
  | sign =>
    match plainOperators.lookup sign with
    | some f => (f a b).mapError fun _ => "division by 0"
    | none => .ok a

/-- Apply an operator to what stands from a text on. -/
def applyFrom (live : Bool) (start : List Char) (sign : String) (a b : Int) : Evaluation Int := do
  match apply sign a b with
  | .ok n => return n
  | .error message =>
    if live then
      modify fun s => { s with last := start }
      fail message
    else return 0

/-- A power. -/
def power (a : Int) : Nat → Int
  | 0 => 1
  | n + 1 =>
    let half := power a ((n + 1) / 2)
    let square := wrap (half * half)
    if (n + 1) % 2 = 0 then square else wrap (square * a)
termination_by n => n
decreasing_by omega

/-! ### Expressions -/

mutual

/-- Evaluate a text. -/
def valueOfText (v : Lookup) (allowance : Nat) (text : String) : Evaluation Int :=
  match allowance with
  | 0 => fail "expression recursion level exceeded"
  | n + 1 => do
    let outer ← get
    let cs := text.toList
    let ts := tokens (cs.length + 1) cs
    set (note { outer with expression := cs, tokens := ts, last := [] })
    let result ← if ts.isEmpty then pure 0 else expressions v n true
    if (← next?).isSome then fail "syntax error in expression"
    modify fun s =>
      { s with expression := outer.expression, tokens := outer.tokens, last := outer.last }
    return result

/-- The key of a value of a list. -/
def keyOf (v : Lookup) (allowance : Nat) (name : String) (subscript? : Option String) :
    Evaluation (Option String) :=
  match allowance, subscript? with
  | _, none => return none
  | 0, some text => return some text
  | n + 1, some text => do
    if v.isNamed name then return some text
    else return some (toString (← valueOfText v n text))

/-- The value of a variable. -/
def valueOf (v : Lookup) (allowance : Nat) (name : String) (key? : Option String) :
    Evaluation Int :=
  match allowance with
  | 0 => fail "expression recursion level exceeded"
  | n + 1 => do
    match (← get).changes.lookup (name, key?) with
    | some k => return k
    | none =>
      match v.value? name key? with
      | some text => valueOfText v n text
      | none =>
        if v.strict then throw { message := name ++ ": unbound variable" } else return 0

/-- Evaluate expressions with commas between them. -/
def expressions (v : Lookup) (allowance : Nat) (live : Bool) : Evaluation Int :=
  match allowance with
  | 0 => fail "expression recursion level exceeded"
  | n + 1 => do
    let value ← assigned v n live
    if ← isAt "," then
      advance
      expressions v n live
    else return value

/-- Evaluate an assignment or less. -/
def assigned (v : Lookup) (allowance : Nat) (live : Bool) : Evaluation Int :=
  match allowance with
  | 0 => fail "expression recursion level exceeded"
  | n + 1 => do
    match (← get).tokens with
    | (.place name subscript?, _) :: (.sign sign, _) :: _ =>
      let operator? := (sign.toList.getLast?.filter (· == '=')).map fun _ =>
        String.ofList sign.toList.dropLast
      match operator? with
      | some operator =>
        if operator != "" && (plainOperators.lookup operator).isNone then choice v n live
        else
          advance
          advance
          let start := (← get).last
          let key? ← if live then keyOf v n name subscript? else pure none
          let b ← assigned v n live
          if !live then return 0
          let value ←
            if operator == "" then pure b
            else do
              let a ← valueOf v n name key?
              applyFrom live start operator a b
          modify fun s => { s with changes := ((name, key?), value) :: s.changes }
          return value
      | none => choice v n live
    | _ => choice v n live

/-- Evaluate a choice or less. -/
def choice (v : Lookup) (allowance : Nat) (live : Bool) : Evaluation Int :=
  match allowance with
  | 0 => fail "expression recursion level exceeded"
  | n + 1 => do
    let test ← alternatives v n live
    if ← isAt "?" then
      advance
      if (← next?).isNone || (← isAt ":") then fail "expression expected"
      let yes ← expressions v n (live && test != 0)
      if !(← isAt ":") then fail "\x60:' expected for conditional expression"
      advance
      if (← next?).isNone then fail "expression expected"
      let no ← choice v n (live && test == 0)
      return if test != 0 then yes else no
    else
      match ← next? with
      | some (.sign sign) =>
        if sign == "=" || (sign.length > 1 && sign.toList.getLast? == some '='
            && !(["==", "!=", "<=", ">="].contains sign)) then
          fail "attempted assignment to non-variable"
        else return test
      | _ => return test

/-- Evaluate expressions with pairs of bars between them. -/
def alternatives (v : Lookup) (allowance : Nat) (live : Bool) : Evaluation Int :=
  match allowance with
  | 0 => fail "expression recursion level exceeded"
  | n + 1 => do
    let a ← conjunction v n live
    if ← isAt "||" then
      advance
      let b ← alternatives v n (live && a == 0)
      return truth (a != 0 || b != 0)
    else return a

/-- Evaluate expressions with pairs of ampersands between them. -/
def conjunction (v : Lookup) (allowance : Nat) (live : Bool) : Evaluation Int :=
  match allowance with
  | 0 => fail "expression recursion level exceeded"
  | n + 1 => do
    let a ← level v n live levels
    if ← isAt "&&" then
      advance
      let b ← conjunction v n (live && a != 0)
      return truth (a != 0 && b != 0)
    else return a

/-- Evaluate an expression of some levels. -/
def level (v : Lookup) (allowance : Nat) (live : Bool) (ls : List (List String)) :
    Evaluation Int :=
  match allowance with
  | 0 => fail "expression recursion level exceeded"
  | n + 1 =>
    match ls with
    | [] => raised v n live
    | signs :: tighter => do
      let a ← level v n live tighter
      continued v n live signs tighter a

/-- Evaluate what follows the first operand of a level. -/
def continued (v : Lookup) (allowance : Nat) (live : Bool) (signs : List String)
    (tighter : List (List String)) (a : Int) : Evaluation Int :=
  match allowance with
  | 0 => fail "expression recursion level exceeded"
  | n + 1 => do
    match ← next? with
    | some (.sign sign) =>
      if signs.contains sign then
        advance
        let start := (← get).last
        let b ← level v n live tighter
        continued v n live signs tighter (← applyFrom live start sign a b)
      else return a
    | _ => return a

/-- Evaluate a power or less. -/
def raised (v : Lookup) (allowance : Nat) (live : Bool) : Evaluation Int :=
  match allowance with
  | 0 => fail "expression recursion level exceeded"
  | n + 1 => do
    let a ← single v n live
    if ← isAt "**" then
      advance
      let b ← raised v n live
      if b < 0 then if live then fail "exponent less than 0" else return 0
      else return power a b.toNat
    else return a

/-- Evaluate a number, a variable, or an expression behind a sign or in
parentheses. -/
def single (v : Lookup) (allowance : Nat) (live : Bool) : Evaluation Int :=
  match allowance with
  | 0 => fail "expression recursion level exceeded"
  | n + 1 => do
    match ← next? with
    | some (.number cs) =>
      match numberOf cs with
      | .ok k =>
        advance
        return wrap k
      | .error message => fail message
    | some (.place name subscript?) =>
      advance
      if !live then
        if (← isAt "++") || (← isAt "--") then advance
        return 0
      let key? ← keyOf v n name subscript?
      let value ← valueOf v n name key?
      let step := fun (k : Int) => do
        advance
        modify fun s => { s with changes := ((name, key?), wrap (value + k)) :: s.changes }
        return value
      if ← isAt "++" then step 1 else if ← isAt "--" then step (-1) else return value
    | some (.sign "(") =>
      advance
      let value ← expressions v n live
      if !(← isAt ")") then fail "missing \x60)'"
      advance
      return value
    | some (.sign "-") => advance; return wrap (-(← single v n live))
    | some (.sign "+") => advance; single v n live
    | some (.sign "!") => advance; return truth ((← single v n live) == 0)
    | some (.sign "~") => advance; return -(← single v n live) - 1
    | some (.sign "++") => stepped v n live 1
    | some (.sign "--") => stepped v n live (-1)
    | _ => fail "syntax error: operand expected"

/-- Evaluate a variable behind a step by one; before anything else two signs
are there. -/
def stepped (v : Lookup) (allowance : Nat) (live : Bool) (k : Int) : Evaluation Int :=
  match allowance with
  | 0 => fail "expression recursion level exceeded"
  | n + 1 => do
    advance
    match ← next? with
    | some (.place name subscript?) =>
      advance
      if !live then return 0
      let key? ← keyOf v n name subscript?
      let value := wrap ((← valueOf v n name key?) + k)
      modify fun s => { s with changes := ((name, key?), value) :: s.changes }
      return value
    | _ => single v n live

end

/-- The value of an expression and the variables that it changes, the oldest
change first. -/
def evaluate (v : Lookup) (text : String) :
    Except Complaint (Int × List ((String × Option String) × Int)) := do
  let start : State := { expression := text.toList, tokens := [] }
  let (n, s) ← (valueOfText v (40 * text.length + 4000) text).run start
  return (n, s.changes.reverse)

end GuardCost.Shell.Reckoning
