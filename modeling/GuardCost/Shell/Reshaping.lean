/-
GuardCost/Shell/Reshaping.lean

New texts from old ones: letters made great or small, parts that fit a pattern
replaced, parts taken out, and the ways to quote a text so that a shell reads
it back.
-/
import GuardCost.Shell.Escape
import GuardCost.Shell.Pattern
import GuardCost.Shell.Script

namespace GuardCost.Shell.Reshaping

/-! ### Letters -/

/-- A text with the letters that fit a pattern made great or small: all of
them, or only the first character.  An empty pattern fits every letter. -/
def recase (great all : Bool) (pattern : List Marked) (cs : List Char) : List Char :=
  let parts := Wildcard.ofMarked pattern
  let change := fun (c : Char) =>
    if parts.isEmpty || Wildcard.fits parts [c] then if great then c.toUpper else c.toLower else c
  match cs with
  | [] => []
  | c :: rest => change c :: if all then rest.map change else rest

/-! ### Parts -/

/-- What stands in place of a text that fitted; an ampersand that was not
quoted stands for that text. -/
def replacementFor (replacement : List Marked) (fitted : List Char) : List Char :=
  replacement.flatMap fun (c, quoted) => if c == '&' && !quoted then fitted else [c]

/-- Replace what fits a pattern, from left to right, and the longest text
first. -/
def replaceFrom (every : Bool) (pattern replacement : List Marked) (allowance : Nat)
    (cs : List Char) : List Char :=
  match allowance with
  | 0 => cs
  | n + 1 =>
    match startThatFits? true pattern cs, cs with
    | some (k + 1), cs =>
      let rest := cs.drop (k + 1)
      replacementFor replacement (cs.take (k + 1))
        ++ if every then replaceFrom every pattern replacement n rest else rest
    | some 0, [] => replacementFor replacement []
    | _, c :: rest => c :: replaceFrom every pattern replacement n rest
    | none, [] => []

/-- Replace what fits a pattern. -/
def replace (coverage : Coverage) (pattern replacement : List Marked) (cs : List Char) :
    List Char :=
  match coverage with
  | .start =>
    match startThatFits? true pattern cs with
    | some k => replacementFor replacement (cs.take k) ++ cs.drop k
    | none => cs
  | .finish =>
    match restBeforeEnd? true pattern cs with
    | some k => cs.take k ++ replacementFor replacement (cs.drop k)
    | none => cs
  | coverage =>
    if pattern.isEmpty then cs
    else replaceFrom (coverage == .every) pattern replacement (cs.length + 1) cs

/-- Where a part of so many items starts and how long it is; there is none if
its end is before its start. -/
def bounds? (size : Nat) (offset : Int) (length? : Option Int) : Option (Nat × Nat) :=
  let start := if offset < 0 then (size : Int) + offset else offset
  if start < 0 || (size : Int) < start then some (0, 0)
  else
    let start := start.toNat
    match length? with
    | none => some (start, size - start)
    | some length =>
      if 0 ≤ length then some (start, min length.toNat (size - start))
      else
        let final := (size : Int) + length
        if final < start then none else some (start, final.toNat - start)

/-! ### Quoting -/

/-- Whether a character has to be written as an escape. -/
def isHidden (c : Char) : Bool := c < ' ' || '\x7e' < c

/-- A text between single quotation marks. -/
def betweenMarks (s : String) : String :=
  "'" ++ String.join (s.toList.map fun c => if c == '\'' then "'\\''" else c.toString) ++ "'"

/-- The escape for a character. -/
def escapeFor (c : Char) : String :=
  match c with
  | '\x07' => "\\a"
  | '\x08' => "\\b"
  | '\t' => "\\t"
  | '\n' => "\\n"
  | '\x0b' => "\\v"
  | '\x0c' => "\\f"
  | '\r' => "\\r"
  | '\x1b' => "\\E"
  | '\\' => "\\\\"
  | '\'' => "\\'"
  | c =>
    if isHidden c then
      let ds := String.ofList (Nat.toDigits 8 c.toNat)
      "\\" ++ String.ofList (List.replicate (3 - ds.length) '0') ++ ds
    else c.toString

/-- A text between single quotation marks with escapes. -/
def withEscapes (s : String) : String := "$'" ++ String.join (s.toList.map escapeFor) ++ "'"

/-- A text between single quotation marks, with escapes where it needs them. -/
def quoted (s : String) : String := if s.toList.any isHidden then withEscapes s else betweenMarks s

/-- The characters that mean something to a shell. -/
def meaningful : List Char := " \t\n!\"$&'()*,;<>?[\\]^\x60\x7b|\x7d".toList

/-- A text with a backslash in front of what would not stand for itself. -/
def backslashed (s : String) : String :=
  if s.isEmpty then "''"
  else if s.toList.any isHidden then withEscapes s
  else
    let escaped := fun (first : Bool) (c : Char) =>
      if meaningful.contains c || (first && (c == '~' || c == '#')) then "\\" ++ c.toString
      else c.toString
    match s.toList with
    | c :: rest => escaped true c ++ String.join (rest.map (escaped false))
    | [] => ""

/-- A text between double quotation marks. -/
def betweenDoubleMarks (s : String) : String :=
  if s.toList.any isHidden then withEscapes s
  else
    let escaped := fun c : Char =>
      if ['"', '$', '\\', '\x60'].contains c then "\\" ++ c.toString else c.toString
    "\"" ++ String.join (s.toList.map escaped) ++ "\""

/-- A word of a command as it is shown when it is carried out. -/
def shown (s : String) : String :=
  if s.isEmpty then "''"
  else if s.toList.any isHidden then withEscapes s
  else if s.toList.any fun c => meaningful.contains c && c != ',' then betweenMarks s
  else if s.toList.head? == some '#' || s.toList.head? == some '~' then betweenMarks s
  else s

/-! ### Other forms -/

/-- A value in the form that a letter names. -/
def transform (letter : Char) (s : String) : String :=
  match letter with
  | 'Q' => quoted s
  | 'U' => s.toUpper
  | 'L' => s.toLower
  | 'u' => String.ofList (recase true false [] s.toList)
  | 'E' =>
    match Escape.quotedText? (s.length + 2) (s.toList.filter (· != '\'') ++ ['\'']) with
    | some (cs, _) => String.ofList cs
    | none => s
  | _ => s

end GuardCost.Shell.Reshaping
