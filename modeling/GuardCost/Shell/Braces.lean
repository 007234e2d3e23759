/-
GuardCost/Shell/Braces.lean

Words with braces.  Between braces stand alternatives with commas between
them, or the two ends of a row of numbers or letters; the word stands for as
many words as there are alternatives.  Braces that hold neither stand for
themselves, and so do quoted ones.
-/
import GuardCost.Shell.Arithmetic
import GuardCost.Shell.Script

namespace GuardCost.Shell.Braces

/-! ### Cells -/

/-- A part of a word: a character that is not quoted, or a piece that holds no
braces. -/
inductive Cell where
  | char (c : Char)
  | piece (p : Piece)

/-- The parts of a word. -/
def cellsOf (w : Word) : List Cell :=
  w.flatMap fun
    | .text false s => s.toList.map .char
    | p => [.piece p]

/-- Some parts as a word. -/
def wordOf : List Cell → Word
  | [] => []
  | .piece p :: rest => p :: wordOf rest
  | .char c :: rest =>
    match wordOf rest with
    | .text false s :: more => .text false (c.toString ++ s) :: more
    | more => .text false c.toString :: more

/-- Whether a part is this character. -/
def Cell.isChar (cell : Cell) (c : Char) : Bool :=
  match cell with
  | .char d => c == d
  | .piece _ => false

/-- The alternatives up to the closing brace, and what follows it. -/
def alternatives? : Nat → List Cell → Option (List (List Cell) × List Cell)
  | _, [] => none
  | depth, cell :: rest =>
    if cell.isChar '\x7d' && depth = 0 then some ([[]], rest)
    else if cell.isChar ',' && depth = 0 then
      (alternatives? 0 rest).map fun (parts, after) => ([] :: parts, after)
    else
      let depth :=
        if cell.isChar '\x7b' then depth + 1
        else if cell.isChar '\x7d' then depth - 1
        else depth
      (alternatives? depth rest).map fun (parts, after) =>
        match parts with
        | part :: parts => ((cell :: part) :: parts, after)
        | [] => ([[cell]], after)

/-! ### Rows -/

/-- The plain text of some parts, if they are nothing else. -/
def plainText? : List Cell → Option (List Char)
  | [] => some []
  | .char c :: rest => (plainText? rest).map (c :: ·)
  | .piece _ :: _ => none

/-- Cut a text at pairs of dots. -/
def cutAtDots : List Char → List (List Char)
  | '.' :: '.' :: rest => [] :: cutAtDots rest
  | c :: rest =>
    match cutAtDots rest with
    | part :: parts => (c :: part) :: parts
    | [] => [[c]]
  | [] => [[]]

/-- A whole number with an optional sign. -/
def integer? (cs : List Char) : Option Int :=
  let digits? := fun (ds : List Char) =>
    if !ds.isEmpty && ds.all Char.isDigit then some (Arithmetic.ofDigits 10 ds) else none
  match cs with
  | '-' :: ds => (digits? ds).map fun n => -(n : Int)
  | '+' :: ds => (digits? ds).map fun n => (n : Int)
  | ds => (digits? ds).map fun n => (n : Int)

/-- The numbers from one to another by a step. -/
def numbers (low high : Int) (step : Nat) : List Int :=
  let count := (high - low).natAbs / step + 1
  (List.range count).map fun i =>
    if low ≤ high then low + (i * step : Nat) else low - (i * step : Nat)

/-- Whether a number is written with zeros in front. -/
def isPadded (cs : List Char) : Bool :=
  match cs with
  | '0' :: _ :: _ => true
  | '-' :: '0' :: _ :: _ => true
  | _ => false

/-- A number with zeros in front, up to a width. -/
def padded (width : Nat) (n : Int) : List Char :=
  let digits := (toString n.natAbs).toList
  let sign := if n < 0 then ['-'] else []
  sign ++ List.replicate (width - digits.length - sign.length) '0' ++ digits

/-- The texts of a row. -/
def row? (cs : List Char) : Option (List (List Char)) :=
  let between := fun (a b : List Char) (step : Nat) =>
    match integer? a, integer? b with
    | some low, some high =>
      let width := if isPadded a || isPadded b then max a.length b.length else 0
      some ((numbers low high step).map (padded width))
    | _, _ =>
      match a, b with
      | [x], [y] =>
        if x.isAlpha && y.isAlpha then
          some ((numbers x.toNat y.toNat step).map fun n => [Char.ofNat n.toNat])
        else none
      | _, _ => none
  match cutAtDots cs with
  | [a, b] => between a b 1
  | [a, b, step] => (integer? step).bind fun n => between a b (max 1 n.natAbs)
  | _ => none

/-! ### Words -/

/-- The alternatives between two braces, if there are some, and what follows
them. -/
def choices? (cells : List Cell) : Option (List (List Cell) × List Cell) :=
  match alternatives? 0 cells with
  | none => none
  | some ([part], after) =>
    ((plainText? part).bind row?).map fun texts => (texts.map fun cs => cs.map .char, after)
  | some (parts, after) => some (parts, after)

/-- The words that some parts stand for. -/
def expandCells (allowance : Nat) (cells : List Cell) : List (List Cell) :=
  match allowance, cells with
  | 0, cells => [cells]
  | _, [] => [[]]
  | n + 1, cell :: rest =>
    match if cell.isChar '\x7b' then choices? rest else none with
    | some (parts, after) =>
      let ends := expandCells n after
      (parts.flatMap (expandCells n)).flatMap fun start => ends.map fun w => start ++ w
    | none => (expandCells n rest).map fun w => cell :: w

/-- Whether a word can hold braces. -/
def holdsBrace (w : Word) : Bool :=
  w.any fun
    | .text false s => s.toList.contains '\x7b'
    | _ => false

/-- The words that a word with braces stands for. -/
def expand (w : Word) : List Word :=
  if holdsBrace w then
    let cells := cellsOf w
    ((expandCells (cells.length + 1) cells).filter (!·.isEmpty)).map wordOf
  else [w]

end GuardCost.Shell.Braces
