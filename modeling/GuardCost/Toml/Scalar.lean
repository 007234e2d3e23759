/-
GuardCost/Toml/Scalar.lean

The spelling of strings, numbers and dates.  A scanner takes the characters
that remain and answers what it has read together with what is left; `none`
means that no document continues this way.

The four kinds of strings share one loop, `scanBody`: they differ only in
what a character does (`Piece`), which either adds to the text or ends it.
-/
import GuardCost.Toml.Tree

namespace GuardCost.Toml

/-- A scanner. -/
abbrev Scan (α : Type) := List Char → Option (α × List Char)

/-! ### Characters -/

/-- A blank within a line. -/
def isSpace (c : Char) : Bool := c == ' ' || c == '\t'

/-- A character that may stand in a comment: no control character but the
tab. -/
def isPlain (c : Char) : Bool := c == '\t' || (' ' ≤ c && c != '\x7f')

/-- A character that may stand for itself between double quotes. -/
def isBasic (c : Char) : Bool := isPlain c && c != '"' && c != '\\'

/-- A character that may stand for itself between single quotes. -/
def isLiteral (c : Char) : Bool := isPlain c && c != '\''

/-- A hexadecimal digit. -/
def isHex (c : Char) : Bool :=
  c.isDigit || ('a' ≤ c && c ≤ 'f') || ('A' ≤ c && c ≤ 'F')

/-- An octal digit. -/
def isOctal (c : Char) : Bool := '0' ≤ c && c ≤ '7'

/-- A binary digit. -/
def isBinary (c : Char) : Bool := c == '0' || c == '1'

/-- The value of a digit. -/
def digitValue (c : Char) : Nat :=
  if c.isDigit then c.toNat - '0'.toNat
  else if 'a' ≤ c then c.toNat - 'a'.toNat + 10
  else c.toNat - 'A'.toNat + 10

/-- The value of a row of digits. -/
def digitsValue (base : Nat) (ds : List Char) : Nat :=
  ds.foldl (fun n c => n * base + digitValue c) 0

/-- Drop blanks. -/
def skipSpace (cs : List Char) : List Char := cs.dropWhile isSpace

/-- Drop a line break, if there is one. -/
def newline? : List Char → Option (List Char)
  | '\n' :: rest => some rest
  | '\r' :: '\n' :: rest => some rest
  | _ => none

/-! ### Strings -/

/-- What a character of a string does, and how many characters after it
belong to it. -/
inductive Piece where
  | more (text : List Char) (taken : Nat)
  | close (text : List Char) (taken : Nat)

/-- Read a string up to the piece that closes it. -/
def scanBody (piece : Char → List Char → Option Piece) : Scan (List Char)
  | [] => none
  | c :: rest =>
    match piece c rest with
    | none => none
    | some (.close text taken) => some (text, rest.drop taken)
    | some (.more text taken) =>
      (scanBody piece (rest.drop taken)).map fun (more, left) => (text ++ more, left)
termination_by cs => cs.length
decreasing_by simp only [List.length_drop, List.length_cons]; omega

/-- A character given by `n` hexadecimal digits. -/
def escapedCode (n : Nat) (cs : List Char) : Option Piece :=
  let ds := cs.take n
  let code := digitsValue 16 ds
  if ds.length = n ∧ ds.all isHex then
    if code.isValidChar then some (.more [Char.ofNat code] (n + 1)) else none
  else none

/-- What follows a backslash. -/
def escapePiece : List Char → Option Piece
  | 'b' :: _ => some (.more ['\x08'] 1)
  | 't' :: _ => some (.more ['\t'] 1)
  | 'n' :: _ => some (.more ['\n'] 1)
  | 'f' :: _ => some (.more ['\x0c'] 1)
  | 'r' :: _ => some (.more ['\r'] 1)
  | '"' :: _ => some (.more ['"'] 1)
  | '\\' :: _ => some (.more ['\\'] 1)
  | 'u' :: rest => escapedCode 4 rest
  | 'U' :: rest => escapedCode 8 rest
  | _ => none

/-- A character between double quotes. -/
def basicPiece (c : Char) (rest : List Char) : Option Piece :=
  if c = '"' then some (.close [] 0)
  else if c = '\\' then escapePiece rest
  else if isBasic c then some (.more [c] 0)
  else none

/-- A character between single quotes. -/
def literalPiece (c : Char) (_ : List Char) : Option Piece :=
  if c = '\'' then some (.close [] 0)
  else if isLiteral c then some (.more [c] 0)
  else none

/-- How many blanks and line breaks a text starts with. -/
def fillLength : List Char → Nat
  | ' ' :: rest => fillLength rest + 1
  | '\t' :: rest => fillLength rest + 1
  | '\n' :: rest => fillLength rest + 1
  | '\r' :: '\n' :: rest => fillLength rest + 2
  | _ => 0

/-- A run of quotes in a string of several lines: three close the string,
and up to two before these belong to it. -/
def quoteRun (quote : Char) (rest : List Char) : Option Piece :=
  let n := (rest.takeWhile (· == quote)).length + 1
  if n < 3 then some (.more [quote] 0)
  else if n ≤ 5 then some (.close (List.replicate (n - 3) quote) (n - 1))
  else none

/-- A line break in a string of several lines reads as a line feed. -/
def breakPiece (c : Char) (rest : List Char) : Option Piece :=
  if c = '\n' then some (.more ['\n'] 0)
  else if c = '\r' ∧ rest.head? = some '\n' then some (.more ['\n'] 1)
  else none

/-- A character between triple double quotes.  A backslash at the end of a
line takes away everything up to the next visible character. -/
def longBasicPiece (c : Char) (rest : List Char) : Option Piece :=
  if c = '"' then quoteRun '"' rest
  else if c = '\\' then
    let blanks := rest.takeWhile isSpace
    if (newline? (rest.drop blanks.length)).isSome then some (.more [] (fillLength rest))
    else escapePiece rest
  else if isBasic c then some (.more [c] 0)
  else breakPiece c rest

/-- A character between triple single quotes. -/
def longLiteralPiece (c : Char) (rest : List Char) : Option Piece :=
  if c = '\'' then quoteRun '\'' rest
  else if isLiteral c then some (.more [c] 0)
  else breakPiece c rest

/-- A string of one line, its quotes included. -/
def scanShortString : Scan String
  | '"' :: rest => (scanBody basicPiece rest).map fun (cs, left) => (String.ofList cs, left)
  | '\'' :: rest => (scanBody literalPiece rest).map fun (cs, left) => (String.ofList cs, left)
  | _ => none

/-- A string, its quotes included.  A line break just after triple quotes
does not count. -/
def scanString : Scan String
  | '"' :: '"' :: '"' :: rest =>
    (scanBody longBasicPiece ((newline? rest).getD rest)).map
      fun (cs, left) => (String.ofList cs, left)
  | '\'' :: '\'' :: '\'' :: rest =>
    (scanBody longLiteralPiece ((newline? rest).getD rest)).map
      fun (cs, left) => (String.ofList cs, left)
  | cs => scanShortString cs

/-! ### Numbers -/

/-- Digits that continue a row; an underscore must stand between two of
them. -/
def moreDigits (isDigit : Char → Bool) : Scan (List Char)
  | [] => some ([], [])
  | ['_'] => none
  | '_' :: c :: rest =>
    if isDigit c then (moreDigits isDigit rest).map fun (ds, left) => (c :: ds, left)
    else none
  | c :: rest =>
    if isDigit c then (moreDigits isDigit rest).map fun (ds, left) => (c :: ds, left)
    else some ([], c :: rest)

/-- A row of digits. -/
def someDigits (isDigit : Char → Bool) : Scan (List Char)
  | c :: rest =>
    if isDigit c then (moreDigits isDigit rest).map fun (ds, left) => (c :: ds, left)
    else none
  | [] => none

/-- A sign, if there is one; whether it is a minus. -/
def sign : List Char → Bool × List Char
  | '+' :: rest => (false, rest)
  | '-' :: rest => (true, rest)
  | cs => (false, cs)

/-- The digits of a whole number, which starts with zero only if it is
zero. -/
def wholeDigits : Scan (List Char)
  | '0' :: rest => some (['0'], rest)
  | cs => someDigits Char.isDigit cs

/-- An integer that fits into 64 bits. -/
def fitting (n : Int) (left : List Char) : Option (Value × List Char) :=
  if Int64.minValue.toInt ≤ n ∧ n ≤ Int64.maxValue.toInt then some (.integer n, left) else none

/-- An integer in base 2, 8, 10 or 16. -/
def scanInteger : Scan Value
  | '0' :: 'x' :: rest =>
    (someDigits isHex rest).bind fun (ds, left) => fitting (digitsValue 16 ds) left
  | '0' :: 'o' :: rest =>
    (someDigits isOctal rest).bind fun (ds, left) => fitting (digitsValue 8 ds) left
  | '0' :: 'b' :: rest =>
    (someDigits isBinary rest).bind fun (ds, left) => fitting (digitsValue 2 ds) left
  | cs =>
    let (negative, rest) := sign cs
    (wholeDigits rest).bind fun (ds, left) =>
      let n : Int := digitsValue 10 ds
      fitting (if negative then -n else n) left

/-- The double nearest to `± m · 10 ^ e`, where `m` has `size` digits.
Outside the range of doubles the exponent does not matter. -/
def doubleOf (negative : Bool) (m size : Nat) (e : Int) : Float :=
  let e := max (min e 1000) (-(2000 + size))
  let x := Float.ofScientific m (decide (e < 0)) e.natAbs
  if negative then -x else x

/-- The exponent of a number. -/
def scanExponent (cs : List Char) : Option (Int × List Char) :=
  let (negative, rest) := sign cs
  (someDigits Char.isDigit rest).map fun (ds, left) =>
    let n : Int := digitsValue 10 ds
    (if negative then -n else n, left)

/-- What follows the whole part of a number with a fraction or an exponent:
the digits after the point, and the exponent. -/
def scanFraction : Scan (List Char × Int)
  | '.' :: rest =>
    (someDigits Char.isDigit rest).bind fun (ds, left) =>
      match left with
      | 'e' :: more => (scanExponent more).map fun (e, left) => ((ds, e), left)
      | 'E' :: more => (scanExponent more).map fun (e, left) => ((ds, e), left)
      | _ => some ((ds, 0), left)
  | 'e' :: rest => (scanExponent rest).map fun (e, left) => (([], e), left)
  | 'E' :: rest => (scanExponent rest).map fun (e, left) => (([], e), left)
  | _ => none

/-- A number that is no integer.  One too large for a double is refused. -/
def scanFloat (cs : List Char) : Option (Value × List Char) :=
  let (negative, rest) := sign cs
  match rest with
  | 'i' :: 'n' :: 'f' :: left =>
    let x := Float.ofBits 0x7FF0000000000000
    some (.float (if negative then -x else x), left)
  | 'n' :: 'a' :: 'n' :: left => some (.float (0.0 / 0.0), left)
  | _ =>
    (wholeDigits rest).bind fun (whole, more) =>
      (scanFraction more).bind fun ((places, e), left) =>
        let ds := whole ++ places
        let x := doubleOf negative (digitsValue 10 ds) ds.length (e - places.length)
        if x.isInf && !negative then none else some (.float x, left)

/-! ### Dates -/

/-- A number of exactly `n` digits between two bounds. -/
def scanField (n low high : Nat) (cs : List Char) : Option (Nat × List Char) :=
  let ds := cs.take n
  let value := digitsValue 10 ds
  if ds.length = n ∧ ds.all Char.isDigit ∧ low ≤ value ∧ value ≤ high then
    some (value, cs.drop n)
  else none

/-- A given character. -/
def expect (c : Char) : List Char → Option (List Char)
  | d :: rest => if d = c then some rest else none
  | [] => none

/-- The number of days of a month. -/
def daysOfMonth (year month : Nat) : Nat :=
  if month = 2 then
    if year % 4 = 0 ∧ (year % 100 ≠ 0 ∨ year % 400 = 0) then 29 else 28
  else if month = 4 ∨ month = 6 ∨ month = 9 ∨ month = 11 then 30
  else 31

/-- Year, month and day. -/
def skipDay (cs : List Char) : Option (List Char) := do
  let (year, cs) ← scanField 4 0 9999 cs
  let cs ← expect '-' cs
  let (month, cs) ← scanField 2 1 12 cs
  let cs ← expect '-' cs
  let (_, cs) ← scanField 2 1 (daysOfMonth year month) cs
  return cs

/-- Hours, minutes and seconds. -/
def skipTime (cs : List Char) : Option (List Char) := do
  let (_, cs) ← scanField 2 0 23 cs
  let cs ← expect ':' cs
  let (_, cs) ← scanField 2 0 59 cs
  let cs ← expect ':' cs
  let (_, cs) ← scanField 2 0 60 cs
  match cs with
  | '.' :: rest =>
    if (rest.head?.any Char.isDigit) then return rest.dropWhile Char.isDigit else none
  | _ => return cs

/-- The distance to universal time, if it is given. -/
def skipZone (cs : List Char) : List Char :=
  match cs with
  | 'Z' :: rest => rest
  | 'z' :: rest => rest
  | c :: rest =>
    if c = '+' ∨ c = '-' then
      ((scanField 2 0 23 rest).bind fun (_, more) =>
        (expect ':' more).bind fun more =>
          (scanField 2 0 59 more).map fun (_, left) => left).getD cs
    else cs
  | [] => []

/-- A date, a time, or both. -/
def scanDate (cs : List Char) : Option (Value × List Char) :=
  match skipDay cs with
  | some rest =>
    match rest with
    | c :: more =>
      if c = 'T' ∨ c = 't' ∨ c = ' ' then
        match skipTime more with
        | some left => some (.date, skipZone left)
        | none => some (.date, rest)
      else some (.date, rest)
    | [] => some (.date, [])
  | none => (skipTime cs).map fun left => (.date, left)

/-- A number or a date. -/
def scanNumber (cs : List Char) : Option (Value × List Char) :=
  scanDate cs <|> scanFloat cs <|> scanInteger cs

end GuardCost.Toml
