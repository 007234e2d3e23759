/-
GuardCost/Shell/Arithmetic.lean

Arithmetic expressions of a script: whole numbers of 64 bits with wrap-around,
variables, assignments, the usual operators, and parentheses.  An expression
is read as a tree first, so that a part that is not evaluated changes no
variable.
-/
namespace GuardCost.Shell.Arithmetic

/-! ### Numbers -/

/-- A number within 64 bits, wrapped around. -/
def wrap (n : Int) : Int := n.bmod UInt64.size

/-- The greatest number of 64 bits. -/
def greatest : Nat := 0x7FFFFFFFFFFFFFFF

/-- One if a condition holds, else zero. -/
def truth (b : Bool) : Int := if b then 1 else 0

/-- Whether a character is white space. -/
def isSpace (c : Char) : Bool := c == ' ' || ('\t' ≤ c && c ≤ '\r')

/-- Drop white space. -/
def dropSpace (cs : List Char) : List Char := cs.dropWhile isSpace

/-- The value of a digit in any base up to sixteen. -/
def digit? (c : Char) : Option Nat :=
  if c.isDigit then some (c.toNat - '0'.toNat)
  else if 'a' ≤ c && c ≤ 'f' then some (c.toNat - 'a'.toNat + 10)
  else if 'A' ≤ c && c ≤ 'F' then some (c.toNat - 'A'.toNat + 10)
  else none

/-- Whether a character is a digit in a base. -/
def isDigitIn (base : Nat) (c : Char) : Bool := (digit? c).any (· < base)

/-- The number that digits write in a base. -/
def ofDigits (base : Nat) (cs : List Char) : Nat :=
  cs.foldl (fun n c => n * base + (digit? c).getD 0) 0

/-- The number at the front of some characters, decimal, octal after a zero,
or hexadecimal after a zero and an x, and what follows it. -/
def leadingNatural? (cs : List Char) : Option (Nat × List Char) :=
  let take := fun base (cs : List Char) =>
    (ofDigits base (cs.takeWhile (isDigitIn base)), cs.dropWhile (isDigitIn base))
  match cs with
  | '0' :: x :: d :: rest =>
    if (x == 'x' || x == 'X') && isDigitIn 16 d then some (take 16 (d :: rest))
    else some (take 8 cs)
  | c :: _ => if c == '0' then some (take 8 cs) else if c.isDigit then some (take 10 cs) else none
  | [] => none

/-- The number at the front of a text after white space and a sign, within 64
bits, whether it is within them, and what follows it. -/
def leadingInteger? (cs : List Char) : Option (Int × Bool × List Char) :=
  let bounded := fun (negative : Bool) (cs : List Char) =>
    (leadingNatural? cs).map fun (n, rest) =>
      let limit := if negative then greatest + 1 else greatest
      let m : Int := min n limit
      (if negative then -m else m, decide (n ≤ limit), rest)
  match dropSpace cs with
  | '-' :: rest => bounded true rest
  | '+' :: rest => bounded false rest
  | rest => bounded false rest

/-- A whole number with nothing but white space around it. -/
def integer? (s : String) : Option Int :=
  match leadingInteger? s.toList with
  | some (n, true, rest) => if (dropSpace rest).isEmpty then some n else none
  | _ => none

/-! ### Tokens -/

/-- A token of an expression. -/
inductive Token where
  | number (n : Int)
  | name (s : String)
  | sign (s : String)
  deriving DecidableEq, Repr

/-- The signs of more than one character, the longer first. -/
def longSigns : List String :=
  ["<<=", ">>=", "+=", "-=", "*=", "/=", "%=", "&=", "|=", "^=", "<<", ">>", "<=", ">=", "==",
    "!=", "&&", "||"]

/-- Whether a character can stand in a name. -/
def isNameChar (c : Char) : Bool := c.isAlphanum || c == '_'

/-- The tokens of an expression. -/
def tokens (allowance : Nat) (cs : List Char) : List Token :=
  match allowance, dropSpace cs with
  | 0, _ => []
  | _, [] => []
  | n + 1, c :: rest =>
    match leadingNatural? (c :: rest) with
    | some (k, rest) => .number (min k greatest : Nat) :: tokens n rest
    | none =>
      if isNameChar c then
        let name := (c :: rest).takeWhile isNameChar
        .name (String.ofList name) :: tokens n ((c :: rest).drop name.length)
      else match longSigns.find? fun s => s.toList.isPrefixOf (c :: rest) with
        | some s => .sign s :: tokens n ((c :: rest).drop s.length)
        | none => .sign c.toString :: tokens n rest

/-! ### Trees -/

/-- An expression. -/
inductive Expr where
  | number (n : Int)
  | name (s : String)
  | unary (f : Int → Int) (a : Expr)
  | binary (f : Int → Int → Except String Int) (a b : Expr)
  | both (a b : Expr)
  | either (a b : Expr)
  | choice (test yes no : Expr)
  /-- Set a variable to what an expression comes to, or to what an operator
  makes of its old number and that. -/
  | assign (v : String) (f? : Option (Int → Int → Except String Int)) (a : Expr)

/-- An operator between two expressions. -/
structure Operator where
  sign : String
  build : Expr → Expr → Expr

/-- An operator that always has a result. -/
def total (f : Int → Int → Int) (a b : Int) : Except String Int := .ok (wrap (f a b))

/-- An operator without a result for zero on its right. -/
def exceptAtZero (f : Int → Int → Int) (a b : Int) : Except String Int :=
  if b = 0 then .error "division by zero" else .ok (wrap (f a b))

/-- An operator on the bits of two numbers. -/
def onBits (f : UInt64 → UInt64 → UInt64) (a b : Int) : Int :=
  (f (UInt64.ofInt a) (UInt64.ofInt b)).toNat

/-- Shift a number to the left; only the low six bits of the amount count. -/
def shiftLeft (a b : Int) : Int := a * Nat.pow 2 (b % 64).toNat

/-- Shift a number to the right; only the low six bits of the amount count. -/
def shiftRight (a b : Int) : Int := Int.fdiv a (Nat.pow 2 (b % 64).toNat)

/-- The operators that can also be part of an assignment. -/
def plainOperators : List (String × (Int → Int → Except String Int)) :=
  [("*", total (· * ·)), ("/", exceptAtZero Int.tdiv), ("%", exceptAtZero Int.tmod),
    ("+", total (· + ·)), ("-", total (· - ·)), ("<<", total shiftLeft), (">>", total shiftRight),
    ("&", total (onBits (· &&& ·))), ("^", total (onBits (· ^^^ ·))),
    ("|", total (onBits (· ||| ·)))]

/-- The operator of a sign. -/
def operatorOf (sign : String) : Operator :=
  let compare := fun f : Int → Int → Bool => Operator.mk sign (.binary (total fun a b => truth (f a b)))
  match sign with
  | "||" => ⟨sign, .either⟩
  | "&&" => ⟨sign, .both⟩
  | "==" => compare (· == ·)
  | "!=" => compare (· != ·)
  | "<" => compare (· < ·)
  | ">" => compare fun a b => b < a
  | "<=" => compare (· ≤ ·)
  | ">=" => compare fun a b => b ≤ a
  | sign => ⟨sign, .binary ((plainOperators.lookup sign).getD (total fun a _ => a))⟩

/-- The operators, from the loosest level to the tightest. -/
def levels : List (List Operator) :=
  [["||"], ["&&"], ["|"], ["^"], ["&"], ["==", "!="], ["<", ">", "<=", ">="], ["<<", ">>"],
    ["+", "-"], ["*", "/", "%"]].map fun signs => signs.map operatorOf

/-- The operator in the sign of an assignment, if it is one. -/
def assignment? (sign : String) : Option (Option (Int → Int → Except String Int)) :=
  if sign == "=" then some none
  else if sign.toList.getLast? == some '=' then
    (plainOperators.lookup (String.ofList sign.toList.dropLast)).map some
  else none

/-- The parsed part of an expression and the tokens that are left. -/
abbrev Parsed := Except String (Expr × List Token)

/-- Complain that a number or a variable is missing. -/
def expectingPrimary {α : Type} : Except String α := .error "expecting primary"

mutual

/-- Read an assignment or a choice. -/
def readAssignment (allowance : Nat) (ts : List Token) : Parsed :=
  match allowance with
  | 0 => expectingPrimary
  | n + 1 =>
    match ts with
    | .name s :: .sign sign :: rest =>
      match assignment? sign with
      | some f? => do
        let (a, rest) ← readAssignment n rest
        return (.assign s f? a, rest)
      | none => readChoice n ts
    | _ => readChoice n ts

/-- Read a choice or less. -/
def readChoice (allowance : Nat) (ts : List Token) : Parsed :=
  match allowance with
  | 0 => expectingPrimary
  | n + 1 => do
    let (test, rest) ← readLevel n levels ts
    match rest with
    | .sign "?" :: rest =>
      let (yes, rest) ← readAssignment n rest
      match rest with
      | .sign ":" :: rest =>
        let (no, rest) ← readChoice n rest
        return (.choice test yes no, rest)
      | _ => throw "expecting ':'"
    | rest => return (test, rest)

/-- Read an expression of some levels. -/
def readLevel (allowance : Nat) (ls : List (List Operator)) (ts : List Token) : Parsed :=
  match allowance with
  | 0 => expectingPrimary
  | n + 1 =>
    match ls with
    | [] => readUnit n ts
    | level :: tighter => do
      let (a, rest) ← readLevel n tighter ts
      continueLevel n level tighter a rest

/-- Read what follows the first operand of a level. -/
def continueLevel (allowance : Nat) (level : List Operator) (tighter : List (List Operator))
    (a : Expr) (ts : List Token) : Parsed :=
  match allowance with
  | 0 => expectingPrimary
  | n + 1 =>
    match ts with
    | .sign s :: rest =>
      match level.find? (·.sign == s) with
      | none => .ok (a, ts)
      | some o => do
        let (b, rest) ← readLevel n tighter rest
        continueLevel n level tighter (o.build a b) rest
    | _ => .ok (a, ts)

/-- Read a number, a variable, or an expression behind a sign or in
parentheses. -/
def readUnit (allowance : Nat) (ts : List Token) : Parsed :=
  match allowance with
  | 0 => expectingPrimary
  | n + 1 =>
    match ts with
    | .number k :: rest => .ok (.number k, rest)
    | .name s :: rest => .ok (.name s, rest)
    | .sign "-" :: rest => (readUnit n rest).map fun (a, r) => (.unary (fun x => wrap (-x)) a, r)
    | .sign "+" :: rest => readUnit n rest
    | .sign "!" :: rest => (readUnit n rest).map fun (a, r) => (.unary (fun x => truth (x == 0)) a, r)
    | .sign "~" :: rest => (readUnit n rest).map fun (a, r) => (.unary (fun x => -x - 1) a, r)
    | .sign "(" :: rest => do
      let (a, rest) ← readAssignment n rest
      match rest with
      | .sign ")" :: rest => return (a, rest)
      | _ => throw "expecting ')'"
    | _ => expectingPrimary

end

/-! ### Values -/

/-- Why an expression has no value. -/
inductive Fault where
  /-- Something is wrong with the expression. -/
  | expression (message : String)
  /-- Something is wrong with a variable. -/
  | variable (message : String)
  deriving DecidableEq, Repr

/-- An evaluation; it collects the variables that it changes, the newest
first. -/
abbrev Evaluation := StateT (List (String × Int)) (Except Fault)

/-- The number in a variable. -/
def lookUp (value : String → String) (name : String) : Evaluation Int := do
  match (← get).lookup name with
  | some n => return n
  | none =>
    let s := value name
    if (dropSpace s.toList).isEmpty then return 0
    else match integer? s with
      | some n => return n
      | none => throw (.variable ("Illegal number: " ++ s))

/-- Evaluate an expression, given the texts of the variables. -/
def Expr.evaluate (value : String → String) : Expr → Evaluation Int
  | .number n => return n
  | .name s => lookUp value s
  | .unary f a => do return f (← a.evaluate value)
  | .binary f a b => do
    let x ← a.evaluate value
    let y ← b.evaluate value
    match f x y with
    | .ok n => return n
    | .error message => throw (.expression message)
  | .both a b => do
    if (← a.evaluate value) = 0 then return 0 else return truth ((← b.evaluate value) != 0)
  | .either a b => do
    if (← a.evaluate value) = 0 then return truth ((← b.evaluate value) != 0) else return 1
  | .choice test yes no => do
    if (← test.evaluate value) = 0 then no.evaluate value else yes.evaluate value
  | .assign v none a => do
    let n ← a.evaluate value
    modify fun changes => (v, n) :: changes
    return n
  | .assign v (some f) a => do
    let y ← a.evaluate value
    let x ← lookUp value v
    match f x y with
    | .ok n =>
      modify fun changes => (v, n) :: changes
      return n
    | .error message => throw (.expression message)

/-- Read a whole expression. -/
def parse (s : String) : Except String Expr := do
  let ts := tokens (s.length + 1) s.toList
  let (a, rest) ← readAssignment (16 * ts.length + 32) ts
  if rest.isEmpty then return a else throw "expecting EOF"

/-- The value of an expression and the variables that it changes, the oldest
change first, given the texts of the variables. -/
def evaluateAll (value : String → String) (s : String) :
    Except Fault (Int × List (String × Int)) := do
  let a ← (parse s).mapError .expression
  let (n, changes) ← (a.evaluate value).run []
  return (n, changes.reverse)

end GuardCost.Shell.Arithmetic
