/-
GuardCost/Toml/Document.lean

Documents.  A document is read in two steps: its text becomes a list of
statements, and the statements become a table (`Tree`).  The scanners here
take an allowance that each of them passes on less one; every step reads at
least one character, so an allowance of twice the length of the text is never
used up.  Arrays and inline tables nest at most seventy-nine deep, and a key
has at most as many parts.
-/
import GuardCost.Toml.Scalar
import GuardCost.Toml.Tree

namespace GuardCost.Toml

/-! ### Blanks, comments, keys -/

/-- One more than the deepest nesting of values, and than the longest key. -/
def depthLimit : Nat := 80

/-- Drop a comment up to the end of its line; a control character is not
allowed in it. -/
def skipComment : List Char → Option (List Char)
  | [] => some []
  | '\n' :: rest => some ('\n' :: rest)
  | '\r' :: '\n' :: rest => some ('\r' :: '\n' :: rest)
  | c :: rest => if isPlain c then skipComment rest else none

/-- Drop what may follow a statement on its line, and the line break. -/
def skipLineEnd (cs : List Char) : Option (List Char) :=
  let rest := skipSpace cs
  let after :=
    match rest with
    | '#' :: comment => skipComment comment
    | _ => some rest
  after.bind fun left => if left.isEmpty then some [] else newline? left

/-- Drop blanks, line breaks and comments. -/
def skipFill (inComment : Bool) : List Char → Option (List Char)
  | [] => some []
  | '\n' :: rest => skipFill false rest
  | '\r' :: '\n' :: rest => skipFill false rest
  | c :: rest =>
    if inComment then if isPlain c then skipFill true rest else none
    else if isSpace c then skipFill false rest
    else if c = '#' then skipFill true rest
    else some (c :: rest)

/-- A character of a key without quotes. -/
def isKeyChar (c : Char) : Bool := c.isAlphanum || c == '-' || c == '_'

/-- A key without dots. -/
def scanSimpleKey (cs : List Char) : Option (String × List Char) :=
  match cs with
  | '"' :: _ => scanShortString cs
  | '\'' :: _ => scanShortString cs
  | _ =>
    let key := cs.takeWhile isKeyChar
    if key.isEmpty then none else some (String.ofList key, cs.drop key.length)

/-- The parts of a key, with the blanks around them. -/
def scanKeyParts : (allowance : Nat) → Scan (List String)
  | 0, _ => none
  | allowance + 1, cs =>
    (scanSimpleKey (skipSpace cs)).bind fun (part, left) =>
      match skipSpace left with
      | '.' :: rest =>
        (scanKeyParts allowance rest).map fun (parts, left) => (part :: parts, left)
      | left => some ([part], left)

/-- A key as path and last part. -/
def scanKey (cs : List Char) : Option ((List String × String) × List Char) :=
  (scanKeyParts (depthLimit - 1) cs).bind fun (parts, left) =>
    parts.getLast?.map fun key => ((parts.dropLast, key), left)

/-! ### Values -/

mutual

/-- A value at a depth of nesting. -/
def scanValue (allowance depth : Nat) (cs : List Char) : Option (Value × List Char) :=
  match allowance with
  | 0 => none
  | allowance + 1 =>
    match cs with
    | '"' :: _ => (scanString cs).map fun (s, left) => (.text s, left)
    | '\'' :: _ => (scanString cs).map fun (s, left) => (.text s, left)
    | '[' :: rest =>
      if depth + 1 < depthLimit then
        (scanItems allowance (depth + 1) rest).map fun (items, left) => (.array items, left)
      else none
    | '\x7b' :: rest =>
      if depth + 1 < depthLimit then
        (scanPairs allowance (depth + 1) true rest).bind fun (pairs, left) =>
          (entriesOfPairs? pairs).map fun entries => (.table entries, left)
      else none
    | 't' :: 'r' :: 'u' :: 'e' :: left => some (.boolean true, left)
    | 'f' :: 'a' :: 'l' :: 's' :: 'e' :: left => some (.boolean false, left)
    | _ => scanNumber cs

/-- The items of an array and its closing bracket. -/
def scanItems (allowance depth : Nat) (cs : List Char) : Option (List Value × List Char) :=
  match allowance with
  | 0 => none
  | allowance + 1 =>
    match skipFill false cs with
    | none => none
    | some (']' :: left) => some ([], left)
    | some cs =>
      (scanValue allowance depth cs).bind fun (item, left) =>
        match skipFill false left with
        | some (']' :: left) => some ([item], left)
        | some (',' :: left) =>
          (scanItems allowance depth left).map fun (items, left) => (item :: items, left)
        | _ => none

/-- The pairs of an inline table and its closing brace. -/
def scanPairs (allowance depth : Nat) (first : Bool) (cs : List Char) :
    Option (List Pair × List Char) :=
  match allowance with
  | 0 => none
  | allowance + 1 =>
    match first, skipSpace cs with
    | true, '\x7d' :: left => some ([], left)
    | _, cs =>
      (scanKey cs).bind fun ((path, key), left) =>
        (expect '=' left).bind fun left =>
          (scanValue allowance depth (skipSpace left)).bind fun (v, left) =>
            match skipSpace left with
            | '\x7d' :: left => some ([(path, key, v)], left)
            | ',' :: left =>
              (scanPairs allowance depth false left).map fun (pairs, left) =>
                ((path, key, v) :: pairs, left)
            | _ => none

end

/-! ### Statements -/

/-- A statement and the rest of its line; `none` within for an empty line. -/
def scanStatement (cs : List Char) : Option (Option Statement × List Char) :=
  match cs with
  | '#' :: _ => (skipLineEnd cs).map fun left => (none, left)
  | '\n' :: left => some (none, left)
  | '\r' :: '\n' :: left => some (none, left)
  | '[' :: '[' :: rest =>
    (scanKey rest).bind fun ((path, key), left) =>
      (expect ']' left).bind fun left =>
        (expect ']' left).bind fun left =>
          (skipLineEnd left).map fun left => (some (.arrayHeader path key), left)
  | '[' :: rest =>
    (scanKey rest).bind fun ((path, key), left) =>
      (expect ']' left).bind fun left =>
        (skipLineEnd left).map fun left => (some (.header path key), left)
  | _ =>
    (scanKey cs).bind fun ((path, key), left) =>
      (expect '=' left).bind fun left =>
        (scanValue (2 * left.length + 2) 0 (skipSpace left)).bind fun (v, left) =>
          (skipLineEnd left).map fun left => (some (.pair path key v), left)

/-- All statements of a text. -/
def scanStatements : (allowance : Nat) → List Char → Option (List Statement)
  | 0, _ => none
  | allowance + 1, cs =>
    match skipSpace cs with
    | [] => some []
    | cs =>
      (scanStatement cs).bind fun (statement?, left) =>
        (scanStatements allowance left).map fun statements =>
          statement?.toList ++ statements

/-- A text without a byte order mark at its start. -/
def skipMark : List Char → List Char
  | '\uFEFF' :: rest => rest
  | cs => cs

/-- The table of a document; `none` if the text is no document. -/
def parse? (s : String) : Option (List (String × Value)) :=
  let cs := skipMark s.toList
  (scanStatements (cs.length + 1) cs).bind documentOfStatements?

end GuardCost.Toml
