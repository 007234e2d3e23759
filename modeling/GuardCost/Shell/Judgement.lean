/-
GuardCost/Shell/Judgement.lean

Reading the conditions that are commands.  Between their double brackets
blanks and line ends only separate words; a pair of bars binds less than a
pair of ampersands, and that less than an exclamation mark.
-/
import GuardCost.Shell.Assignment
import GuardCost.Shell.Condition

namespace GuardCost.Shell

/-! ### Marks -/

/-- A part of a condition. -/
inductive Mark where
  | sign (s : String)
  | word (w : Word)
  /-- The closing brackets. -/
  | closing

/-- The signs that end a word of a condition, the longer first. -/
def markSigns : List String := ["&&", "||", "(", ")", "<", ">"]

/-- Read the next part of a condition; the word after some signs is a regular
expression. -/
def readMark (nested : Read Script) (inExpression : Bool) : Read Mark := do
  let cs ← ahead
  skipLines (cs.length - (dropSpace cs).length)
  let cs ← ahead
  match if inExpression then none else markSigns.find? fun s => s.toList.isPrefixOf cs with
  | some s =>
    skip s.length
    return .sign s
  | none =>
    match cs with
    | [] => fail "syntax error: unexpected end of file"
    | ';' :: _ => complainOf (.operator ";") none
    | '!' :: c :: _ =>
      if c == ' ' || c == '\t' || c == '\n' || c == '(' then
        skip 1
        return .sign "!"
      else asWord
    | _ => asWord
where
  asWord : Read Mark := do
    match ← readWordIn nested { inExpression } with
    | [.text false "]]"] => return .closing
    | [] => complainOf (.operator (String.ofList ((← ahead).take 1))) none
    | w => return .word w

/-! ### Conditions -/

/-- The signs of questions about two texts that are words. -/
def betweenSigns : List String :=
  ["=", "==", "!=", "=~", "-eq", "-ne", "-lt", "-le", "-gt", "-ge", "-nt", "-ot", "-ef"]

/-- The signs of questions about one text. -/
def aboutSigns : List String :=
  ["a", "b", "c", "d", "e", "f", "g", "h", "k", "n", "o", "p", "r", "s", "t", "u", "v", "w", "x",
    "z", "G", "L", "N", "O", "R", "S"].map ("-" ++ ·)

/-- The text of a word that is a single unquoted one. -/
def plainWord? : Word → Option String
  | [.text false s] => some s
  | _ => none

/-- The sign between two texts that a part of a condition is. -/
def betweenSign? : Mark → Option String
  | .sign "<" => some "<"
  | .sign ">" => some ">"
  | .word w => (plainWord? w).filter betweenSigns.contains
  | _ => none

/-- A part of a condition as it stands in a script. -/
def Mark.source : Mark → String
  | .sign s => s
  | .word w => (Token.word w).source
  | .closing => "]]"

/-- Fail because of a part of a condition, for a reason if there is one to
tell. -/
def complainOfMark {α : Type} (reason? : Option String) (m : Mark) : Read α :=
  fail (reason?.elim "" (· ++ "\n") ++ "syntax error near \x60" ++ m.source ++ "'")

/-- Fail because no text can be where a part of a condition is. -/
def complainOfOperand {α : Type} (kind : String) (m : Mark) : Read α :=
  complainOfMark (some ("unexpected argument \x60" ++ m.source ++ "' to conditional " ++ kind
    ++ " operator")) m

/-- Fail because a condition has ended before a part. -/
def complainOfRest {α : Type} (m : Mark) : Read α :=
  let reason := "syntax error in conditional expression"
  complainOfMark (some (match m with
    | .sign s => reason ++ ": unexpected token \x60" ++ s ++ "'"
    | _ => reason)) m

/-- Read a question that starts with a word. -/
def readQuestion (nested : Read Script) (w : Word) : Read Judgement := do
  let start ← get
  let next ← readMark nested false
  match (plainWord? w).filter aboutSigns.contains, betweenSign? next, next with
  | some sign, _, .word operand => return .about sign operand
  | some _, _, m => complainOfOperand "unary" m
  | none, some sign, _ =>
    match ← readMark nested (sign == "=~") with
    | .word right => return .between sign w right
    | m => complainOfOperand "binary" m
  | none, none, .word _ => complainOfMark (some "conditional binary operator expected") next
  | none, none, _ =>
    set start
    return .something w

mutual

/-- Read a condition up to the sign that ends it, which is given too. -/
def readEither (nested : Read Script) (allowance : Nat) : Read (Judgement × Mark) :=
  match allowance with
  | 0 => fail "syntax error in conditional expression"
  | n + 1 => do
    let (a, m) ← readBoth nested n
    match m with
    | .sign "||" =>
      let (b, m) ← readEither nested n
      return (.either a b, m)
    | m => return (a, m)

/-- Read a condition without a pair of bars. -/
def readBoth (nested : Read Script) (allowance : Nat) : Read (Judgement × Mark) :=
  match allowance with
  | 0 => fail "syntax error in conditional expression"
  | n + 1 => do
    let a ← readSingle nested n
    match ← readMark nested false with
    | .sign "&&" =>
      let (b, m) ← readBoth nested n
      return (.both a b, m)
    | m => return (a, m)

/-- Read a condition without a pair of bars or ampersands. -/
def readSingle (nested : Read Script) (allowance : Nat) : Read Judgement :=
  match allowance with
  | 0 => fail "syntax error in conditional expression"
  | n + 1 => do
    match ← readMark nested false with
    | .sign "!" => return .negated (← readSingle nested n)
    | .sign "(" =>
      match ← readEither nested n with
      | (a, .sign ")") => return a
      | (_, m) =>
        complainOfMark (some ("unexpected token \x60" ++ m.source ++ "', expected \x60)'")) m
    | .word w => readQuestion nested w
    | m => complainOfMark none m

end

/-- Read a condition up to its closing brackets. -/
def readJudgement (nested : Read Script) : Read Judgement := do
  match ← readEither nested (4 * (← ahead).length + 8) with
  | (a, .closing) => return a
  | (_, m) => complainOfRest m

end GuardCost.Shell
