/-
GuardCost/Utility/Expression.lean

Expressions that are given as the words of a command.  From the loosest to the
tightest, operators are alternatives, conjunctions, comparisons, sums,
products and matches; each of them goes from the left to the right.
-/
import GuardCost.Utility.Edit

namespace GuardCost.Utility.Expression

open Process
open Text (Regex)

/-- How a value is worked out: a mistake, or the value and the words that are
left, together with the word before them. -/
abbrev Result := Except String (String × List String × String)

/-- The number that a text stands for. -/
def number? (s : String) : Option Int :=
  match s.toList with
  | '-' :: ds => (natural? (String.ofList ds)).map fun n => -(n : Int)
  | _ => (natural? s).map fun n => (n : Int)

/-- Whether a value counts as nothing. -/
def isNull (s : String) : Bool :=
  let digits := match s.toList with
    | '-' :: ds => ds
    | ds => ds
  s.isEmpty || (!digits.isEmpty && digits.all (· == '0'))

/-- What is wrong where a word is missing. -/
def missingAfter (before : String) : String :=
  "syntax error: missing argument after " ++ quoteWord before

/-- The number that a text has to be. -/
def number (s : String) : Except String Int :=
  match number? s with
  | some n => .ok n
  | none => .error "non-integer argument"

/-- The result of a comparison. -/
def compareWords (sign a b : String) : Bool :=
  let order := match number? a, number? b with
    | some x, some y => compare x y
    | _, _ => compareChars a.toList b.toList
  match sign with
  | "<" => order == .lt
  | "<=" => order != .gt
  | ">" => order == .gt
  | ">=" => order != .lt
  | "!=" => order != .eq
  | _ => order == .eq

/-- The part of a text that a pattern at its start matches: its first group, or
else how long it is. -/
def matchStart (s pattern : String) : Except String String := do
  let (r, groups) ← Regex.ofText .basic pattern
  match Regex.matchAt? {} r { index := 0, before? := none, rest := s.toList } with
  | some found =>
    if groups = 0 then return toString found.length
    else return (found.groups.find? fun g => g.1 == 1).elim "" fun g => String.ofList g.2.2
  | none => return if groups = 0 then "0" else ""

/-- The levels of operators, the loosest first. -/
def levels : List (List String) :=
  [["|"], ["&"], ["<", "<=", "=", "==", "!=", ">=", ">"], ["+", "-"], ["*", "/", "%"], [":"]]

/-- Apply an operator. -/
def apply (sign a b : String) : Except String String := do
  match sign with
  | "|" => return if !isNull a then a else if !isNull b then b else "0"
  | "&" => return if isNull a || isNull b then "0" else a
  | "+" => return toString ((← number a) + (← number b))
  | "-" => return toString ((← number a) - (← number b))
  | "*" => return toString ((← number a) * (← number b))
  | "/" =>
    let (x, y) := (← number a, ← number b)
    if y = 0 then throw "division by zero" else return toString (x.tdiv y)
  | "%" =>
    let (x, y) := (← number a, ← number b)
    if y = 0 then throw "division by zero" else return toString (x.tmod y)
  | ":" => matchStart a b
  | sign => return if compareWords sign a b then "1" else "0"

/-- Work out a value; where it does not count, only its form matters. -/
def operand (allowance : Nat) (counts : Bool) (level : List (List String)) (words : List String)
    (before : String) : Result :=
  match allowance with
  | 0 => .error "syntax error"
  | n + 1 =>
    match level with
    | signs :: tighter => do
      let first ← operand n counts tighter words before
      chain n counts signs tighter first
    | [] =>
      match words with
      | [] => .error (missingAfter before)
      | "+" :: rest =>
        match rest with
        | word :: rest => .ok (word, rest, word)
        | [] => .error (missingAfter "+")
      | "(" :: rest => do
        let (value, rest, last) ← operand n counts levels rest "("
        match rest with
        | ")" :: rest => return (value, rest, ")")
        | [] => throw ("syntax error: expecting ')' after " ++ quoteWord last)
        | word :: _ => throw ("syntax error: expecting ')' instead of " ++ quoteWord word)
      | ")" :: _ => .error "syntax error: unexpected ')'"
      | "length" :: rest => do
        let (value, rest, last) ← operand n counts [] rest "length"
        return (toString value.length, rest, last)
      | "match" :: rest => do
        let (a, rest, last) ← operand n counts [] rest "match"
        let (b, rest, last) ← operand n counts [] rest last
        return (← if counts then matchStart a b else pure "", rest, last)
      | "index" :: rest => do
        let (a, rest, last) ← operand n counts [] rest "index"
        let (b, rest, last) ← operand n counts [] rest last
        let place := (a.toList.findIdx? b.toList.contains).elim 0 (· + 1)
        return (toString place, rest, last)
      | "substr" :: rest => do
        let (a, rest, last) ← operand n counts [] rest "substr"
        let (start, rest, last) ← operand n counts [] rest last
        let (count, rest, last) ← operand n counts [] rest last
        let part := match number? start, number? count with
          | some i, some k =>
            if i ≤ 0 || k ≤ 0 then "" else
              String.ofList ((a.toList.drop (i.toNat - 1)).take k.toNat)
          | _, _ => ""
        return (part, rest, last)
      | word :: rest => .ok (word, rest, word)
where
  /-- Go on with the operators of a level. -/
  chain (n : Nat) (counts : Bool) (signs : List String) (tighter : List (List String))
      (state : String × List String × String) : Result :=
    match n with
    | 0 => .ok state
    | n + 1 =>
      let (value, words, last) := state
      match words with
      | sign :: rest =>
        if signs.contains sign then do
          let matters := counts && (if sign == "|" then isNull value
            else if sign == "&" then !isNull value else true)
          let (other, rest, last) ← operand n matters tighter rest sign
          let other := if matters || !counts then other else "0"
          let value ← if counts then apply sign value other else pure value
          chain n counts signs tighter (value, rest, last)
        else .ok (value, words, last)
      | [] => .ok (value, [], last)

/-- Write the value of an expression. -/
def writeValue : Tool := fun _ arguments => do
  let words := if arguments.head? == some "--" then arguments.tail else arguments
  match words with
  | [] => missingOperand 2 []
  | _ =>
    if words == ["--help"] || words == ["--version"] then quit 0
    match operand (20 * words.length + 20) true levels words "" with
    | .error mistake => fatal 2 mistake
    | .ok (value, rest, _) =>
      match rest with
      | extra :: _ => fatal 2 ("syntax error: unexpected argument " ++ quoteWord extra)
      | [] =>
        emitLine value
        return if isNull value then 1 else 0

end GuardCost.Utility.Expression
