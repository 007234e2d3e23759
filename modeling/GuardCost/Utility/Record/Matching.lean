/-
GuardCost/Utility/Record/Matching.lean

What scripts that go through records do with texts: split them, look for
regular expressions in them and replace what is found, cut pieces out, and fill
formats with values.
-/
import GuardCost.Text.Parts
import GuardCost.Text.Regex
import GuardCost.Utility.Record.Token
import GuardCost.Utility.Record.Value

namespace GuardCost.Utility.Record

open Text (Regex)

/-! ### Regular expressions -/

/-- A regular expression with the escapes of control characters and of
quotation marks carried out. -/
def plainPattern : List Char → List Char
  | '\\' :: c :: rest =>
    let carriedOut := match c with
      | 'n' => some '\n'
      | 't' => some '\t'
      | 'r' => some '\r'
      | 'f' => some '\x0c'
      | 'v' => some '\x0b'
      | 'a' => some '\x07'
      | '/' => some '/'
      | '"' => some '"'
      | _ => none
    match carriedOut with
    | some d => d :: plainPattern rest
    | none => '\\' :: c :: plainPattern rest
  | c :: rest => c :: plainPattern rest
  | [] => []

/-- The regular expression that a text writes; one that cannot be read stands for
itself. -/
def regexOf (s : String) : Regex :=
  match Regex.ofText .extended (String.ofList (plainPattern s.toList)) with
  | .ok (r, _) => r
  | .error _ => Regex.exactly s

/-- The first match in a text: where it starts, and how long it is. -/
def findIn (r : Regex) (cs : List Char) : Option (Nat × Nat) :=
  (Regex.find? {} r 0 none cs).map fun m => (m.start, m.length)

/-! ### Splitting -/

/-- Split at runs of blanks and line ends. -/
def splitAtBlanks (cs : List Char) : List String :=
  let isSpace := fun c => c == ' ' || c == '\t' || c == '\n'
  let (words, word) := cs.foldr (fun c (words, word) =>
    if isSpace c then (if word.isEmpty then (words, []) else (word :: words, []))
    else (words, c :: word)) (([] : List (List Char)), ([] : List Char))
  ((if word.isEmpty then words else word :: words).map String.ofList)

/-- Split at every match of a regular expression that is not empty. -/
def splitAtMatches (r : Regex) (allowance : Nat) (before? : Option Char) (cs : List Char) :
    List (List Char) :=
  match allowance with
  | 0 => [cs]
  | n + 1 =>
    match Regex.find? {} r 0 before? cs with
    | some m =>
      if m.length = 0 then [cs]
      else
        let rest := cs.drop (m.start + m.length)
        cs.take m.start :: splitAtMatches r n (cs[m.start + m.length - 1]?) rest
    | none => [cs]

/-- Split a text into fields, with a line end between fields too if asked. -/
def splitFields (separator : String) (atLines : Bool) (s : String) : List String :=
  let cs := s.toList
  if cs.isEmpty then []
  else match separator.toList with
  | [' '] => splitAtBlanks cs
  | [] => cs.map Char.toString
  | [c] =>
    let cs := if atLines then cs.map fun d => if d == '\n' then c else d else cs
    (partsAt c cs).map String.ofList
  | _ => (splitAtMatches (regexOf separator) (cs.length + 1) none cs).map String.ofList

/-! ### Replacing -/

/-- The replacement for a match: an ampersand stands for the match, unless a
backslash stands before it. -/
def replacement (found : List Char) : List Char → List Char
  | '\\' :: '&' :: rest => '&' :: replacement found rest
  | '\\' :: '\\' :: rest => '\\' :: replacement found rest
  | '&' :: rest => found ++ replacement found rest
  | c :: rest => c :: replacement found rest
  | [] => []

/-- Replace the first match, or all of them; how many were replaced. -/
def replaceMatches (r : Regex) (model : List Char) (all : Bool) (allowance : Nat)
    (before? : Option Char) (afterMatch : Bool) (cs : List Char) : List Char × Nat :=
  match allowance with
  | 0 => (cs, 0)
  | n + 1 =>
    match Regex.find? {} r 0 before? cs with
    | none => (cs, 0)
    | some m =>
      let lead := cs.take m.start
      let found := (cs.drop m.start).take m.length
      let rest := cs.drop (m.start + m.length)
      if m.length = 0 then
        -- an empty match just after another match does not count
        let counts := !(afterMatch && m.start = 0)
        let middle := if counts then replacement [] model else []
        let k := if counts then 1 else 0
        match rest with
        | [] => (lead ++ middle, k)
        | c :: tail =>
          if counts && !all then (lead ++ middle ++ rest, k)
          else
            let (more, l) := replaceMatches r model all n (some c) false tail
            (lead ++ middle ++ c :: more, k + l)
      else
        let middle := replacement found model
        if !all || rest.isEmpty then (lead ++ middle ++ rest, 1)
        else
          let (more, k) := replaceMatches r model all n found.getLast? true rest
          (lead ++ middle ++ more, k + 1)

/-- Replace matches in a text. -/
def replaceIn (r : Regex) (model : String) (all : Bool) (s : String) : String × Nat :=
  let (cs, n) := replaceMatches r model.toList all (2 * s.length + 2) none false s.toList
  (String.ofList cs, n)

/-! ### Pieces -/

/-- Round to the nearest whole number, a half to the even neighbour. -/
def rounded (x : Float) : Int :=
  let low := x.floor
  let n := wholeOf low
  let d := x - low
  if d < 0.5 then n else if 0.5 < d then n + 1 else if n % 2 = 0 then n else n + 1

/-- The characters of a text from a place on, counted from one; so many, if that
is said. -/
def pieceOf (s : String) (start : Float) (length? : Option Float) : String :=
  let cs := s.toList
  let first := rounded start
  let last : Int := match length? with
    | none => cs.length
    | some n => if n.isNaN then 0 else first + rounded n - 1
  let low := max first 1
  let high := min last cs.length
  if high < low then ""
  else String.ofList ((cs.drop (low - 1).toNat).take (high - low + 1).toNat)

/-- Where a text occurs in another one, counted from one, or zero. -/
def placeOf (part : List Char) (i : Nat) : List Char → Nat
  | [] => if part.isEmpty then i else 0
  | c :: rest => if part.isPrefixOf (c :: rest) then i else placeOf part (i + 1) rest

/-! ### Formats -/

/-- Write a value as a conversion says. -/
def convert (c : Text.Conversion) (v : Value) : String :=
  match c.letter with
  | 'd' => signed
  | 'i' => signed
  | 'o' => unsigned
  | 'x' => unsigned
  | 'X' => unsigned
  | 'u' => unsigned
  | 'c' =>
    match v with
    | .text s => c.pad (s.toList.headD '\x00').toString
    | .nothing => c.pad "\x00"
    | v => c.pad (Char.ofNat ((wholeOf v.toNumber) % 256).toNat).toString
  | 's' => c.text (v.toText "%.6g")
  | _ => c.double v.toNumber
where
  signed : String :=
    let x := v.toNumber
    if x.isNaN || x.isInf then c.double x else c.signed (wholeOf x)
  unsigned : String :=
    let n := wholeOf v.toNumber
    c.unsigned (n % 0x10000000000000000).toNat

/-- Fill a format with values; without a result there are too few of them. -/
def fillFormat (allowance : Nat) (values : List Value) : List Char → Option (List String)
  | [] => some []
  | '%' :: '%' :: rest =>
    match allowance with
    | 0 => some []
    | n + 1 => (fillFormat n values rest).map ("%" :: ·)
  | '%' :: rest =>
    match allowance with
    | 0 => some []
    | n + 1 =>
      let stars := Text.Conversion.starsAhead rest
      let numbers := (values.take stars).map fun v => wholeOf v.toNumber
      let values := values.drop stars
      let (c, _, rest) := Text.Conversion.read rest numbers
      let rest := rest.dropWhile fun c => c == 'l' || c == 'h'
      match rest with
      | [] => some ["%"]
      | letter :: rest =>
        if ['d', 'i', 'o', 'x', 'X', 'u', 'c', 's', 'e', 'E', 'f', 'F', 'g', 'G'].contains letter then
          match values with
          | [] => none
          | v :: values => (fillFormat n values rest).map (convert { c with letter } v :: ·)
        else (fillFormat n values rest).map (("%" ++ letter.toString) :: ·)
  | c :: rest =>
    match allowance with
    | 0 => some []
    | n + 1 => (fillFormat n values rest).map (c.toString :: ·)

/-- A format filled with values. -/
def formatted? (format : String) (values : List Value) : Option String :=
  (fillFormat (format.length + 1) values format.toList).map String.join

end GuardCost.Utility.Record
