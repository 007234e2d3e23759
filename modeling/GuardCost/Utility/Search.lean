/-
GuardCost/Utility/Search.lean

Searching files for lines that match patterns.
-/
import GuardCost.Shell.Pattern
import GuardCost.Utility.Sorting

namespace GuardCost.Utility

open Process
open Text (Regex RegexForm)
open Text.Regex (Manner Match)

/-! ### Patterns -/

/-- What lines are searched for. -/
structure Wanted where
  patterns : List Regex
  manner : Manner

/-- The better one of two matches: the earlier one, or else the longer
one. -/
def betterMatch (a b : Match) : Match :=
  if b.start < a.start || (b.start == a.start && b.length > a.length) then b else a

/-- The first match of some patterns in a text from a place on. -/
def Wanted.find? (w : Wanted) (index : Nat) (before? : Option Char) (cs : List Char) :
    Option Match :=
  (w.patterns.filterMap fun r => Regex.find? w.manner r index before? cs).foldl
    (fun best? found => some (best?.elim found (betterMatch · found))) none

/-- Whether some pattern matches in a line. -/
def Wanted.occurs (w : Wanted) (line : String) : Bool := (w.find? 0 none line.toList).isSome

/-- All matches in a line that take something: where they start, and their
texts. -/
def Wanted.all (w : Wanted) (allowance index : Nat) (before? : Option Char) (cs : List Char) :
    List (Nat × String) :=
  match allowance with
  | 0 => []
  | n + 1 =>
    match w.find? index before? cs with
    | none => []
    | some found =>
      let skipped := found.start - index
      let taken := (cs.drop skipped).take found.length
      match cs.drop (skipped + found.length) with
      | [] => if taken.isEmpty then [] else [(found.start, String.ofList taken)]
      | c :: rest =>
        if taken.isEmpty then w.all n (found.start + 1) (some c) rest
        else (found.start, String.ofList taken)
          :: w.all n (found.start + found.length) taken.getLast? (c :: rest)

/-! ### Searching -/

/-- What is shown of the lines that match. -/
structure SearchManner where
  inverted : Bool
  counted : Bool
  numbered : Bool
  /-- Whether offsets are shown. -/
  placed : Bool
  onlyMatches : Bool
  /-- Whether only names of files are shown, with a match or without. -/
  names? : Option Bool
  quiet : Bool
  most? : Option Nat
  before : Nat
  after : Nat
  /-- Whether lines are shown under the names of their files. -/
  titled : Bool
  /-- Whether groups of lines stand apart. -/
  grouped : Bool
  asText : Bool

/-- A line with its number and its offset. -/
structure Row where
  text : String
  number : Nat
  offset : Nat

/-- The lines of a text with their numbers and their offsets. -/
def rowsOf (text : String) : List Row :=
  let rec go (number offset : Nat) : List String → List Row
    | [] => []
    | row :: rest => ⟨row, number, offset⟩ :: go (number + 1) (offset + row.length + 1) rest
  go 1 0 (bareLines text)

/-- What stands before a line. -/
def SearchManner.label (m : SearchManner) (title mark : String) (number offset : Nat) : String :=
  (if m.titled then title ++ mark else "")
    ++ (if m.numbered then toString number ++ mark else "")
    ++ (if m.placed then toString offset ++ mark else "")

/-- The rows that are shown as they are near to rows that were picked; each
with whether it was picked itself. -/
def nearRows (m : SearchManner) (picked : List Nat) (rows : List Row) : List (Bool × Row) :=
  rows.filterMap fun row =>
    if picked.contains row.number then some (true, row)
    else if picked.any fun n => (row.number < n && n ≤ row.number + m.before)
        || (n < row.number && row.number ≤ n + m.after) then some (false, row)
    else none

/-- Show rows with what is near to them; the result is whether anything was
shown. -/
def showRows (m : SearchManner) (w : Wanted) (title : String) (anyBefore : Bool)
    (shown : List (Bool × Row)) : Doing Bool := do
  let rec go (last? : Option Nat) : List (Bool × Row) → Doing Unit
    | [] => return ()
    | (isPicked, row) :: rest => do
      let apart := match last? with
        | some last => last + 1 < row.number
        | none => anyBefore
      if apart && m.grouped then emitLine "--"
      let mark := if isPicked then ":" else "-"
      if m.onlyMatches then
        if isPicked && !m.inverted then
          for (start, text) in w.all (row.text.length + 1) 0 none row.text.toList do
            emitLine (m.label title mark row.number (row.offset + start) ++ text)
      else emitLine (m.label title mark row.number row.offset ++ row.text)
      go (some row.number) rest
  go none shown
  return anyBefore || !shown.isEmpty

/-- Search one text; the result is whether a line was picked, and whether
anything has been shown. -/
def searchText (m : SearchManner) (w : Wanted) (title text : String) (anyBefore : Bool) :
    Doing (Bool × Bool) := do
  let rows := rowsOf text
  let hits := rows.filter fun row => w.occurs row.text != m.inverted
  let hits := m.most?.elim hits hits.take
  let isFound := !hits.isEmpty
  if m.quiet then return (isFound, anyBefore)
  match m.names? with
  | some withMatch =>
    if isFound == withMatch then emitLine title
    return (isFound, anyBefore)
  | none =>
    if m.counted then
      emitLine ((if m.titled then title ++ ":" else "") ++ toString hits.length)
      return (isFound, anyBefore)
    else if text.toList.contains '\x00' && !m.asText then
      if isFound then complain (title ++ ": binary file matches")
      return (isFound, anyBefore)
    else
      let numbers := hits.map (·.number)
      let rows := match m.most?, numbers.getLast? with
        | some _, some last => rows.filter fun row => row.number ≤ last + m.after
        | _, _ => rows
      let rows := if m.before = 0 && m.after = 0 then hits else rows
      let shown := if m.before = 0 && m.after = 0 then hits.map fun row => (true, row)
        else nearRows m numbers rows
      let anything ← showRows m w title anyBefore shown
      return (isFound, anything)

/-- The files at and below a path. -/
def filesBelow (p : Process) (allowance : Nat) (follow : Bool) (file : String) : List String :=
  match allowance with
  | 0 => []
  | n + 1 =>
    match look p follow file with
    | .ok (_, .directory _) =>
      (namesIn p file).flatMap fun name => filesBelow p n false (below file name)
    | .ok (_, .link _) => if follow then [file] else []
    | _ => [file]

/-! ### The command -/

/-- Complain about how the program was used. -/
def searchMisuse {α : Type} (message? : Option String) : Doing α := do
  match message? with
  | some message => complain message
  | none => pure ()
  let name := (← get).name
  putError ("Usage: " ++ name ++ " [OPTION]... PATTERNS [FILE]...\n")
  pointToHelp
  quit 2

/-- Whether the name of a class stands in a pattern without brackets of its
own. -/
def holdsBareClass (last? : Option Char) : List Char → Bool
  | '[' :: ':' :: cs =>
    let name := cs.takeWhile (· != ']')
    (last? != some '[' && name.getLast? == some ':' && name.length < cs.length)
      || holdsBareClass (some ':') cs
  | c :: cs => holdsBareClass (some c) cs
  | [] => false

/-- Read a pattern, or end the program with a complaint. -/
def readPattern (form? : Option RegexForm) (line : Line) (pattern : String) : Doing Regex := do
  let inner ← match form? with
    | none => pure (Regex.exactly pattern)
    | some form =>
      if holdsBareClass none pattern.toList then
        fatal 2 "character class syntax is [[:space:]], not [:space:]"
      match Regex.ofText form pattern with
      | .ok (r, _) => pure r
      | .error fault => fatal 2 fault
  if line.has "x" then return Regex.between .textStart .textEnd inner
  else if line.has "w" then return Regex.between .afterNoWord .beforeNoWord inner
  else return inner

/-- Replace a number as an option by the option of that meaning. -/
def withoutNumberOption (arguments : List String) : List String :=
  arguments.map fun a =>
    match a.toList with
    | '-' :: c :: cs =>
      if (c :: cs).all Char.isDigit then "-C" ++ String.ofList (c :: cs) else a
    | _ => a

/-- Search files for lines; the form of patterns can be fixed by the name of
the program. -/
def searchFiles (usual? : Option RegexForm) : Tool := fun _ arguments => do
  let known := [switch 'E' "extended-regexp", switch 'F' "fixed-strings",
    switch 'G' "basic-regexp", switch 'P' "perl-regexp", switch 'i' "ignore-case",
    ⟨"i", 'y', none, .nothing⟩, named "no-ignore-case" .nothing, switch 'v' "invert-match",
    switch 'w' "word-regexp", switch 'x' "line-regexp", switch 'c' "count",
    switch 'l' "files-with-matches", switch 'L' "files-without-match", switch 'q' "quiet",
    ⟨"q", none, some "silent", .nothing⟩, switch 's' "no-messages", switch 'o' "only-matching",
    switch 'n' "line-number", switch 'b' "byte-offset", switch 'H' "with-filename",
    switch 'h' "no-filename", switch 'r' "recursive", switch 'R' "dereference-recursive",
    switch 'a' "text", switch 'I' "I", switch 'Z' "null", switch 'z' "null-data",
    switch 'T' "initial-tab", switch 'U' "binary", named "line-buffered" .nothing,
    valued 'e' "regexp", valued 'f' "file", valued 'm' "max-count", valued 'A' "after-context",
    valued 'B' "before-context", valued 'C' "context", valued 'd' "directories",
    valued 'D' "devices", valued 'X' "X", named "include" .value, named "exclude" .value,
    named "exclude-dir" .value, named "label" .value, named "color" .maybe,
    named "colour" .maybe, named "binary-files" .value, named "no-group-separator" .nothing,
    named "group-separator" .value, named "help" .nothing, named "version" .nothing]
  let line ← match readLineWith known true (arguments.length + 1) (withoutNumberOption arguments) with
    | .ok line => pure line
    | .error mistake => searchMisuse (some mistake)
  if line.has "help" || line.has "version" then quit 0
  let number := fun (key : String) => do
    match line.value? key with
    | none => pure none
    | some value =>
      match natural? value with
      | some n => pure (some n)
      | none =>
        if key == "m" then fatal 2 "invalid max count"
        else fatal 2 (value ++ ": invalid context length argument")
  let most? ← number "m"
  let around ← number "C"
  let before ← number "B"
  let after ← number "A"
  let explicit := line.has "e" || line.has "f"
  let fromFiles ← (line.values "f").mapM fun file => do
    match ← readFile file with
    | .ok text => pure (bareLines text)
    | .error cause => fatal 2 (quoteIfNeeded file ++ ": " ++ cause.plainMessage)
  let given ←
    if explicit then pure (line.values "e")
    else match line.operands with
      | pattern :: _ => pure [pattern]
      | [] => searchMisuse none
  let operands := if explicit then line.operands else line.operands.drop 1
  let form? := match line.lastOf? ["E", "F", "G", "P"] with
    | some g =>
      if g.key == "F" then none else if g.key == "G" then some .basic else some .extended
    | none => usual?
  let texts := given.flatMap (fun pattern => (partsAt '\n' pattern.toList).map String.ofList)
    ++ fromFiles.flatten
  let patterns ← texts.mapM (readPattern form? line)
  let ignoreCase := (line.lastOf? ["i", "no-ignore-case"]).any fun g => g.key == "i"
  let wanted : Wanted := { patterns, manner := { ignoreCase } }
  let deep := line.has "r" || line.has "R" || line.value? "d" == some "recurse"
  let p ← get
  let roots := if !operands.isEmpty then operands else if deep then ["."] else ["-"]
  let fits := fun (pattern name : String) =>
    Shell.fitsPattern (Shell.markedText false pattern.toList) name.toList
  let isChosen := fun (file : String) =>
    let name := lastName file
    let included := line.values "include"
    (included.isEmpty || included.any (fits · name))
      && !((line.values "exclude").any (fits · name))
      && !((line.values "exclude-dir").any fun pattern =>
        ((partsAt '/' file.toList).dropLast.any fun part => fits pattern (String.ofList part)))
  let trimmed := fun (file : String) =>
    if operands.isEmpty && file.startsWith "./" then String.ofList (file.toList.drop 2) else file
  let files := if deep then roots.flatMap fun root =>
      if namesDirectory p root then
        ((filesBelow p deepest true root).filter isChosen).map trimmed
      else [root]
    else roots
  let titled := match line.lastOf? ["H", "h"] with
    | some g => g.key == "H"
    | none => roots.length > 1 || (deep && roots.any (namesDirectory p))
  let contextual := (around.isSome || before.isSome || after.isSome) && !line.has "o"
  let m : SearchManner :=
    { inverted := line.has "v", counted := line.has "c", numbered := line.has "n"
      placed := line.has "b", onlyMatches := line.has "o"
      names? := (line.lastOf? ["l", "L"]).map fun g => g.key == "l"
      quiet := line.has "q", most?
      before := if line.has "o" then 0 else before.getD (around.getD 0)
      after := if line.has "o" then 0 else after.getD (around.getD 0)
      titled, grouped := contextual && !line.has "no-group-separator"
      asText := line.has "a" || line.value? "binary-files" == some "text" || line.has "z" }
  let rec go (found failed anything : Bool) : List String → Doing (Bool × Bool)
    | [] => return (found, failed)
    | file :: rest => do
      let title := if file == "-" then (line.value? "label").getD "(standard input)" else file
      let skips := line.value? "d" == some "skip" && namesDirectory (← get) file
      if skips then go found failed anything rest
      else if m.most? == some 0 then go found failed anything rest
      else match ← readFile file with
        | .ok text =>
          let (isFound, anything) ← searchText m wanted title text anything
          if isFound && m.quiet then return (true, failed)
          else go (found || isFound) failed anything rest
        | .error cause =>
          if !line.has "s" then complain (file ++ ": " ++ cause.plainMessage)
          go found true anything rest
  let (found, failed) ← go false false false files
  if failed && !(m.quiet && found) then return 2
  else return if found then 0 else 1

end GuardCost.Utility
