/-
GuardCost/Shell/Assignment.lean

Reading assignments.  A word with a name in front of an equals sign is one.
In the extended dialect the sign can be a plus and an equals sign, the name
can have a subscript, and the value can be a list of values between
parentheses; such assignments are read where a word could start.
-/
import GuardCost.Shell.Word

namespace GuardCost.Shell

/-! ### Words as assignments -/

/-- The assignment that a word is, if it is one. -/
def assignment? (extended : Bool) (w : Word) : Option Assignment :=
  match w with
  | .text false s :: rest =>
    match splitFirst? '=' s.toList with
    | none => none
    | some (name, value) =>
      let adds := extended && name.getLast? == some '+'
      let name := String.ofList (if adds then name.dropLast else name)
      if isName name then
        let value := String.ofList value
        some (.whole name adds (if value.isEmpty then rest else .text false value :: rest))
      else none
  | _ => none

/-- An assignment as a word. -/
def Assignment.asWord : Assignment → Word
  | .whole name adds value => mergeTexts (.text false (name ++ sign adds) :: value)
  | .part name subscript adds value =>
    mergeTexts (.text false (name ++ "[") :: subscript ++ .text false ("]" ++ sign adds) :: value)
where
  sign (adds : Bool) : String := if adds then "+=" else "="

/-! ### Subscripts and lists -/

/-- What follows the bracket that closes so many open ones, on the same
line. -/
def afterBrackets? : Nat → List Char → Option (List Char)
  | _, [] => none
  | _, '\n' :: _ => none
  | n, '\\' :: _ :: rest => afterBrackets? n rest
  | n, '[' :: rest => afterBrackets? (n + 1) rest
  | n, ']' :: rest => if n ≤ 1 then some rest else afterBrackets? (n - 1) rest
  | n, _ :: rest => afterBrackets? n rest

/-- The length of the sign of an assignment that comes next, and whether it
adds to the old value. -/
def assigningSign? : List Char → Option (Nat × Bool)
  | '=' :: _ => some (1, false)
  | '+' :: '=' :: _ => some (2, true)
  | _ => none

/-- Whether a subscript with an assignment comes next. -/
def startsPart (cs : List Char) : Bool :=
  match cs with
  | '[' :: rest => ((afterBrackets? 1 rest).bind assigningSign?).isSome
  | _ => false

/-- Whether a list of values comes next. -/
def startsList (cs : List Char) : Bool :=
  match assigningSign? cs with
  | some (k, _) => (cs.drop k).head? == some '('
  | none => false

/-- Whether an assignment comes next that no word can be. -/
def startsAssignment (cs : List Char) : Bool :=
  let rest := cs.dropWhile continuesName
  cs.head?.any startsName && (startsPart rest || startsList rest)

/-- Read a subscript from its opening bracket on. -/
def readSubscript (nested : Read Script) : Read Word := do
  skip 1
  let subscript ← readWordIn nested { bracketed := true, line := (← get).line }
  skip 1
  return subscript

/-- Drop blanks, line ends and comments. -/
def dropSpace : List Char → List Char
  | ' ' :: rest => dropSpace rest
  | '\t' :: rest => dropSpace rest
  | '\n' :: rest => dropSpace rest
  | '\\' :: '\n' :: rest => dropSpace rest
  | '#' :: rest => dropComment rest
  | rest => rest
where
  dropComment : List Char → List Char
    | '\n' :: rest => dropSpace rest
    | _ :: rest => dropComment rest
    | [] => []

/-- Read the values of a list that starts on some line, up to its closing
parenthesis. -/
def readItems (nested : Read Script) (line allowance : Nat) : Read (List (Word × Word)) :=
  match allowance with
  | 0 => return []
  | n + 1 => do
    let cs ← ahead
    skipLines (cs.length - (dropSpace cs).length)
    match ← ahead with
    | ')' :: _ =>
      skip 1
      return []
    | [] => complainOpen line ')' "Missing ')'"
    | cs =>
      if startsPart cs then
        let key ← readSubscript nested
        skip 1
        let value ← readWord nested
        return (key, value) :: (← readItems nested line n)
      else
        let value ← readWord nested
        if value.isEmpty then complainOf (.operator (String.ofList (cs.take 1))) none
        return ([], value) :: (← readItems nested line n)

/-- Read an assignment that no word can be. -/
def readAssignment (nested : Read Script) : Read Assignment := do
  let name ← takeWhile continuesName
  let subscript? ←
    if startsPart (← ahead) then some <$> readSubscript nested else pure none
  let (k, adds) := (assigningSign? (← ahead)).getD (0, false)
  skip k
  let value ←
    match ← ahead with
    | '(' :: _ => do
      skip 1
      let items ← tryCatch (readItems nested (← get).line ((← ahead).length + 2)) fun e =>
        throw { e with code := 1 }
      pure [Piece.list items]
    | _ => readWord nested
  return match subscript? with
    | some subscript => .part name subscript adds value
    | none => .whole name adds value

end GuardCost.Shell
