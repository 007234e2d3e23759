/-
GuardCost/Shell/Word.lean

Reading words.  A word ends at a blank or at a sign of the shell that is not
quoted.  Inside double quotes only dollar signs, backquotes and some
backslashes count; between braces after a dollar sign a word goes on until
the closing brace.  A script inside a word is read by `nested`, which stops
at the closing parenthesis.

The readers that call each other take an allowance that every call uses up;
one for each character is always enough.
-/
import GuardCost.Shell.Escape
import GuardCost.Shell.Source

namespace GuardCost.Shell

/-- Where a piece of a word stands. -/
structure Place where
  /-- Between double quotes. -/
  quoted : Bool := false
  /-- Between braces after a dollar sign. -/
  braced : Bool := false
  /-- In a text of its own, where a double quote does not count. -/
  inDocument : Bool := false
  /-- Between the brackets after the name of a list. -/
  bracketed : Bool := false
  /-- In a regular expression, where only a blank ends the word. -/
  inExpression : Bool := false
  /-- The line on which it starts. -/
  line : Nat := 0

/-! ### Characters -/

/-- Whether a character ends an unquoted word. -/
def endsWord (c : Char) : Bool :=
  c == ' ' || c == '\t' || c == '\n' || c == ';' || c == '&' || c == '|' || c == '<' || c == '>'
    || c == '(' || c == ')'

/-- Whether a script can stand for a file in a place. -/
def Place.holdsStreams (p : Place) : Bool :=
  !p.quoted && !p.braced && !p.inDocument && !p.bracketed && !p.inExpression

/-- Whether a character stands for itself in a place. -/
def Place.isPlain (p : Place) (c : Char) : Bool :=
  if c == '$' || c == '\\' || c == '\x60' || c == '\n' then false
  else if c == ']' && p.bracketed then false
  else if c == '\x7d' then !p.braced
  else if c == '"' then p.inDocument && !p.braced
  else if p.quoted then true
  else c != '\'' && (p.braced || p.bracketed || !endsWord c
    || (p.inExpression && c != ' ' && c != '\t'))

/-- Whether a backslash between double quotes goes away before a character. -/
def Place.escapes (p : Place) (c : Char) : Bool :=
  c == '\\' || c == '\x60' || c == '$' || (c == '"' && (!p.inDocument || p.braced))
    || (c == '\x7d' && p.braced)

/-- Put neighbouring texts together. -/
def mergeTexts : List Piece → List Piece
  | .text q s :: rest =>
    match mergeTexts rest with
    | .text q' s' :: rest' =>
      if q == q' then .text q (s ++ s') :: rest' else .text q s :: .text q' s' :: rest'
    | rest' => .text q s :: rest'
  | p :: rest => p :: mergeTexts rest
  | [] => []

/-- The parameter that a single character stands for. -/
def specialParameter? (c : Char) : Option Parameter :=
  match c with
  | '*' => some .allArguments
  | '@' => some .eachArgument
  | '#' => some .argumentCount
  | '?' => some .status
  | '$' => some .process
  | '!' => some .lastJob
  | '-' => some .options
  | c => if c.isDigit then some (.argument (c.toNat - '0'.toNat)) else none

/-! ### Scripts in words -/

/-- Read what follows some characters in place of what is left, and go on
after them. -/
def readApart {α : Type} (chars : List Char) (read : Read α) : Read α := do
  let s ← get
  set { s with chars, returned? := none, awaited := [], inside := [] }
  let result ← read
  let t ← get
  set { s with documents := t.documents, nextDocument := t.nextDocument }
  return result

/-- Read a script up to its closing parenthesis. -/
def readNested (nested : Read Script) : Read Script := do
  let s ← get
  set { s with returned? := none, awaited := [] }
  let script ← tryCatch nested fun e =>
    throw (if e.line = 0 then { e with message := unclosed ')' } else e)
  modify fun t => { t with returned? := none, awaited := s.awaited }
  return script

/-- The text up to the next backquote, and how long it is in the script. -/
def backquoted (quoted : Bool) : List Char → Option (List Char × Nat)
  | [] => none
  | '\x60' :: _ => some ([], 1)
  | '\\' :: '\n' :: rest => (backquoted quoted rest).map fun (cs, n) => (cs, n + 2)
  | '\\' :: c :: rest =>
    let drops := c == '\\' || c == '\x60' || c == '$' || (quoted && c == '"')
    (backquoted quoted rest).map fun (cs, n) => (if drops then c :: cs else '\\' :: c :: cs, n + 2)
  | c :: rest => (backquoted quoted rest).map fun (cs, n) => (c :: cs, n + 1)

/-- Read the script between backquotes. -/
def readBackquoted (nested : Read Script) (quoted : Bool) : Read Script := do
  match backquoted quoted (← ahead) with
  | none =>
    let line := (← get).line
    skipLines (← ahead).length
    complainOpen line '\x60' "EOF in backquote substitution"
  | some (cs, n) =>
    let script ← readApart (cs ++ ['\n', ')']) nested
    skipLines n
    return script

/-! ### Parameters -/

/-- What may follow the name of a parameter between braces. -/
inductive Sign where
  | closing
  | word (make : List Piece → Use)
  | pattern (make : List Piece → Use)
  /-- Two words with a character between them; the second may be missing. -/
  | two (separator : Char) (make : List Piece → Option (List Piece) → Use)
  | letter (c : Char)
  | none

/-- The sign of a use that only the extended dialect has, and its length. -/
def extendedSign? (cs : List Char) : Option (Sign × Nat) :=
  let replacing := fun (coverage : Coverage) =>
    Sign.two '/' fun pattern replacement? => .replace coverage pattern (replacement?.getD [])
  match cs with
  | ':' :: c :: _ =>
    if ['-', '=', '?', '+'].contains c then none
    else some (.two ':' fun offset length? =>
      .slice offset length?.isSome (length?.getD []), 1)
  | '/' :: '/' :: _ => some (replacing .every, 2)
  | '/' :: '#' :: _ => some (replacing .start, 2)
  | '/' :: '%' :: _ => some (replacing .finish, 2)
  | '/' :: _ => some (replacing .first, 1)
  | '^' :: '^' :: _ => some (.pattern (.recase true true), 2)
  | '^' :: _ => some (.pattern (.recase true false), 1)
  | ',' :: ',' :: _ => some (.pattern (.recase false true), 2)
  | ',' :: _ => some (.pattern (.recase false false), 1)
  | '@' :: c :: '\x7d' :: _ => some (.letter c, 3)
  | _ => none

/-- The sign that comes next, and its length. -/
def signAhead (extended : Bool) (cs : List Char) : Sign × Nat :=
  let standIn := fun (orEmpty : Bool) (c : Char) =>
    match c with
    | '-' => Sign.word (.otherwise orEmpty)
    | '=' => Sign.word (.assign orEmpty)
    | '?' => Sign.word (.insist orEmpty)
    | '+' => Sign.word (.instead orEmpty)
    | _ => Sign.none
  match if extended then extendedSign? cs else none with
  | some found => found
  | none =>
    match cs with
    | '\x7d' :: _ => (.closing, 1)
    | '%' :: '%' :: _ => (.pattern (.without true true), 2)
    | '%' :: _ => (.pattern (.without true false), 1)
    | '#' :: '#' :: _ => (.pattern (.without false true), 2)
    | '#' :: _ => (.pattern (.without false false), 1)
    | ':' :: c :: _ => (standIn true c, 2)
    | c :: _ => (standIn false c, 1)
    | [] => (.none, 0)

/-- Split pieces at the first separator in what fits. -/
def splitPieces (fits : Bool → Bool) (separator : Char) :
    List Piece → List Piece × Option (List Piece)
  | [] => ([], none)
  | .text quoted s :: rest =>
    match if fits quoted then splitFirst? separator s.toList else none with
    | some (a, b) =>
      ([.text quoted (String.ofList a)], some (.text quoted (String.ofList b) :: rest))
    | none =>
      let (before, after?) := splitPieces fits separator rest
      (.text quoted s :: before, after?)
  | piece :: rest =>
    let (before, after?) := splitPieces fits separator rest
    (piece :: before, after?)

/-- Read the name of a parameter between braces. -/
def readParameterName : Read (Option Parameter) := do
  match ← aheadContinued with
  | c :: _ =>
    if startsName c then return some (.named (← takeWhile continuesName))
    else if c.isDigit then
      return some (.argument ((← takeWhile Char.isDigit).toNat?.getD 0))
    else match specialParameter? c with
      | some p =>
        skip 1
        return some p
      | none => return none
  | [] => return none

/-- Whether an exclamation mark between braces stands in front of the name of
a parameter. -/
def asksIndirect : List Char → Bool
  | '!' :: c :: _ => continuesName c || c == '#'
  | _ => false

/-- The parameter for all variables that start like a name, if what follows the
name asks for it. -/
def stemAhead? : Option Parameter → List Char → Option Parameter
  | some (.named stem), '*' :: '\x7d' :: _ => some (.names stem true)
  | some (.named stem), '@' :: '\x7d' :: _ => some (.names stem false)
  | _, _ => none

/-- Whether a subscript stands for all values of a list, and whether they are
one text then. -/
def allElements? : List Piece → Option Bool
  | [.text _ "@"] => some false
  | [.text _ "*"] => some true
  | _ => none

/-- The piece for a use of a parameter between braces. -/
def bracedPiece (quoted isIndirect : Bool) (p : Parameter) (subscript? : Option (List Piece))
    (use : Use) : Piece :=
  match p, subscript? with
  | .named name, some subscript =>
    match allElements? subscript with
    | some joined =>
      .parameter quoted (if isIndirect then .keys name joined else .elements name joined) use
    | none => .element quoted name subscript use
  | p, _ => if isIndirect then .indirect quoted p use else .parameter quoted p use

/-- Whether a sharp between braces asks for a length: the name of a parameter
follows, and not a sign. -/
def asksLength : List Char → Bool
  | '#' :: '\x7d' :: _ => false
  | '#' :: c :: d :: _ =>
    continuesName c || ((specialParameter? c).isSome && d == '\x7d')
  | '#' :: c :: [] => continuesName c
  | _ => false

/-! ### Pieces -/

mutual

/-- Read what follows a dollar sign. -/
def readDollar (nested : Read Script) (allowance : Nat) (quoted : Bool) : Read Piece :=
  match allowance with
  | 0 => complain "end of file unexpected"
  | n + 1 => do
    match ← aheadContinued with
    | '\x7b' :: _ =>
      skip 1
      readBraced nested n quoted
    | '(' :: '(' :: _ =>
      skip 2
      return .arithmetic quoted (mergeTexts (← readArithmetic nested (← get).line n 0))
    | '(' :: _ =>
      skip 1
      return .output quoted (← readNested nested)
    | c :: cs =>
      let extended ← readsExtended
      if c == '\'' && extended && !quoted then
        match Escape.quotedText? (cs.length + 1) cs with
        | some (text, k) =>
          skipLines (k + 1)
          return .text true (String.ofList text)
        | none => complainOpen (← get).line '\'' "Unterminated quoted string"
      else if c == '"' && extended && !quoted then return .text true ""
      else if c == '[' && extended then
        let line := (← get).line
        skip 1
        let pieces ← readPieces nested n { bracketed := true, line }
        skip 1
        return .arithmetic quoted (mergeTexts pieces)
      else if startsName c then
        return .parameter quoted (.named (← takeWhile continuesName)) .value
      else match specialParameter? c with
        | some p =>
          skip 1
          return .parameter quoted p .value
        | none => return .text quoted "$"
    | [] => return .text quoted "$"

/-- Read a parameter between braces, after the opening one. -/
def readBraced (nested : Read Script) (allowance : Nat) (quoted : Bool) : Read Piece :=
  match allowance with
  | 0 => complain "end of file unexpected"
  | n + 1 => do
    let extended ← readsExtended
    let line := (← get).line
    let whole ← ahead
    let isIndirect := extended && asksIndirect (← aheadContinued)
    if isIndirect then skip 1
    let wantsLength := asksLength (← aheadContinued)
    if wantsLength then skip 1
    let name? ← readParameterName
    let bad : Read Piece := do
      let _ ← readPieces nested n { quoted, braced := true, line }
      skip 1
      let spelled := whole.take (whole.length - (← ahead).length)
      return .parameter quoted (name?.getD .status) (.bad ("$\x7b" ++ String.ofList spelled))
    let rest ← ahead
    match if isIndirect then stemAhead? name? rest else none with
    | some names =>
      skip 2
      return .parameter quoted names .value
    | none => pure ()
    match name? with
    | none => bad
    | some p =>
      let hasSubscript := match p, ← ahead with
        | .named _, '[' :: _ => extended
        | _, _ => false
      let subscript? ←
        if hasSubscript then do
          skip 1
          let subscript ← readPieces nested n { bracketed := true, line }
          skip 1
          pure (some (mergeTexts subscript))
        else pure none
      let piece := bracedPiece quoted isIndirect p subscript?
      match signAhead extended (← aheadContinued) with
      | (.closing, k) =>
        skip k
        return piece (if wantsLength then .length else .value)
      | (.word make, k) =>
        if wantsLength then bad
        else
          skip k
          let word ← readPieces nested n { quoted, braced := true, line }
          skip 1
          return piece (make (mergeTexts word))
      | (.pattern make, k) =>
        if wantsLength then bad
        else
          skip k
          let word ← readPieces nested n { braced := true, line }
          skip 1
          return piece (make (mergeTexts word))
      | (.two separator make, k) =>
        if wantsLength then bad
        else
          skip k
          let word ← readPieces nested n { braced := true, line }
          skip 1
          let (first, second?) := splitPieces not separator (mergeTexts word)
          return piece (make first second?)
      | (.letter c, k) =>
        skip k
        return piece (.transform c)
      | (.none, _) => bad

/-- Read the pieces of an arithmetic expression that starts on some line, inside
some parentheses. -/
def readArithmetic (nested : Read Script) (line allowance depth : Nat) : Read (List Piece) :=
  match allowance with
  | 0 => complain "Missing '))'"
  | n + 1 => do
    match ← aheadContinued with
    | ')' :: ')' :: _ =>
      if depth = 0 then
        skip 2
        return []
      else
        skip 1
        return .text true ")" :: (← readArithmetic nested line n (depth - 1))
    | ')' :: _ =>
      skip 1
      return .text true ")" :: (← readArithmetic nested line n (depth - 1))
    | '(' :: _ =>
      skip 1
      return .text true "(" :: (← readArithmetic nested line n (depth + 1))
    | '$' :: _ =>
      skip 1
      let piece ← readDollar nested n true
      return piece :: (← readArithmetic nested line n depth)
    | '\x60' :: _ =>
      skip 1
      let script ← readBackquoted nested true
      return .output true script :: (← readArithmetic nested line n depth)
    | '"' :: _ =>
      skip 1
      readArithmetic nested line n depth
    | '\\' :: c :: _ =>
      skipLines 2
      let s := if ({ quoted := true } : Place).escapes c then c.toString else "\\" ++ c.toString
      return .text true s :: (← readArithmetic nested line n depth)
    | c :: _ =>
      skipLines 1
      return .text true c.toString :: (← readArithmetic nested line n depth)
    | [] => complainOpen line ')' "Missing '))'"

/-- Read pieces up to the end of a place; what ends it is left. -/
def readPieces (nested : Read Script) (allowance : Nat) (p : Place) : Read (List Piece) :=
  match allowance with
  | 0 => complain "Unterminated quoted string"
  | n + 1 => do
    match ← ahead with
    | [] =>
      if p.quoted && !p.inDocument then
        complainOpen p.line '"' "Unterminated quoted string"
      else if p.braced then complainOpen p.line '\x7d' "Missing '\x7d'"
      else if p.bracketed then complainOpen p.line ']' "Missing ']'"
      else return []
    | '<' :: '(' :: _ =>
      if p.holdsStreams && (← readsExtended) then
        skip 2
        let script ← readNested nested
        return .stream script :: (← readPieces nested n p)
      else if p.braced || p.quoted || p.bracketed || p.inExpression then
        skip 1
        return .text p.quoted "<" :: (← readPieces nested n p)
      else return []
    | '\\' :: '\n' :: _ =>
      skipLines 2
      readPieces nested n p
    | ['\\'] =>
      skip 1
      return .text true "\\" :: (← readPieces nested n p)
    | '\\' :: c :: _ =>
      skip 2
      let s := if !p.quoted || p.escapes c then c.toString else "\\" ++ c.toString
      return .text true s :: (← readPieces nested n p)
    | '$' :: _ =>
      skip 1
      let piece ← readDollar nested n p.quoted
      return piece :: (← readPieces nested n p)
    | '\x60' :: _ =>
      skip 1
      let script ← readBackquoted nested p.quoted
      return .output p.quoted script :: (← readPieces nested n p)
    | '\n' :: _ =>
      if p.quoted || p.braced || p.bracketed then
        skipLines 1
        return .text p.quoted "\n" :: (← readPieces nested n p)
      else return []
    | '"' :: _ =>
      if p.quoted && !p.braced && !p.inDocument then return []
      else
        skip 1
        let line := (← get).line
        let inner ← readPieces nested n { quoted := true, line }
        skip 1
        let inner := if inner.isEmpty then [Piece.text true ""] else inner
        return inner ++ (← readPieces nested n p)
    | '\'' :: cs =>
      if p.quoted then
        skip 1
        return .text true "'" :: (← readPieces nested n p)
      else
        let s := cs.takeWhile (· != '\'')
        let line := (← get).line
        skipLines (s.length + 2)
        if s.length = cs.length then complainOpen line '\'' "Unterminated quoted string"
        return .text true (String.ofList s) :: (← readPieces nested n p)
    | c :: cs =>
      if p.isPlain c then
        let s := (c :: cs).takeWhile p.isPlain
        skip s.length
        return .text p.quoted (String.ofList s) :: (← readPieces nested n p)
      else if p.braced && c != '\x7d' then
        skip 1
        return .text p.quoted c.toString :: (← readPieces nested n p)
      else return []

end

/-- Read a word in a place. -/
def readWordIn (nested : Read Script) (p : Place) : Read Word := do
  return mergeTexts (← readPieces nested ((← ahead).length + 2) p)

/-- Read a word. -/
def readWord (nested : Read Script) : Read Word := readWordIn nested {}

/-! ### Documents -/

/-- The text of a word that is not expanded, and whether any of it was
quoted. -/
def literalText (w : Word) : String × Bool :=
  (String.join (w.map fun
      | .text _ s => s
      | .parameter _ p _ => "$" ++ p.text
      | _ => ""),
    w.any fun
      | .text quoted _ => quoted
      | _ => false)

/-- The lines of a document up to its delimiter, and how many characters and
lines of the script they take. -/
def documentLines (a : Awaited) (allowance : Nat) (cs : List Char) : List Char × List Char × Nat :=
  match allowance, cs with
  | 0, _ => ([], cs, 0)
  | _, [] => ([], [], 0)
  | n + 1, cs =>
    let cs := if a.withoutTabs then cs.dropWhile (· == '\t') else cs
    let line := cs.takeWhile (· != '\n')
    let rest := cs.drop line.length
    if line == a.delimiter.toList then (([], rest.drop 1, if rest.isEmpty then 0 else 1))
    else
      let (more, after, count) := documentLines a n (rest.drop 1)
      (line ++ rest.take 1 ++ more, after, count + if rest.isEmpty then 0 else 1)

/-- Whether the last line of a text is this one. -/
def endsWith (line text : List Char) : Bool :=
  let text := (text.reverse.dropWhile (· == '\n')).reverse
  ((text.reverse.takeWhile (· != '\n')).reverse.dropWhile (· == '\t')) == line

/-- Read one document that is awaited. -/
def readDocument (nested : Read Script) (a : Awaited) : Read Unit := do
  let s ← get
  let warning := "warning: here-document at line " ++ toString a.line
    ++ " delimited by end-of-file (wanted \x60" ++ a.delimiter ++ "')"
  let (text, rest, count) := documentLines a (s.chars.length + 1) s.chars
  let word ←
    if a.quoted then pure [Piece.text true (String.ofList text)]
    else readApart text do
      return mergeTexts (← readPieces nested (text.length + 2) { quoted := true, inDocument := true })
  let isOpen := (text.isEmpty && s.chars.isEmpty)
    || (rest.isEmpty && !endsWith (a.delimiter.toList) s.chars)
  modify fun t =>
    { t with
      chars := rest
      line := s.line + count
      warnings := if isOpen then (s.line + count - 1, warning) :: t.warnings else t.warnings
      documents := (a.number, .text true "" :: word) :: t.documents }

/-- Read some documents in order. -/
def readDocumentsOf (nested : Read Script) : List Awaited → Read Unit
  | [] => return ()
  | a :: rest => do
    readDocument nested a
    readDocumentsOf nested rest

/-- Read the documents that are awaited at the end of a line. -/
def readDocuments (nested : Read Script) : Read Unit := do
  let s ← get
  set { s with awaited := [] }
  readDocumentsOf nested s.awaited

end GuardCost.Shell
