/-
GuardCost/Utility/Compare.lean

Comparing files.  What two files have in common is a longest common
subsequence of their lines; what is between its lines was changed.
-/
import GuardCost.Utility.Listing

namespace GuardCost.Utility.Compare

open Process

/-! ### Bytes -/

/-- Compare files byte by byte. -/
def compareBytes : Tool := fun _ arguments => do
  let known := [switch 's' "quiet", ⟨"s", none, some "silent", .nothing⟩, switch 'l' "verbose",
    switch 'b' "print-bytes", valued 'n' "bytes", valued 'i' "ignore-initial"]
  let line ← match readLineWith known true (arguments.length + 1) arguments with
    | .ok line => pure line
    | .error mistake => badUse mistake
  let (a, b) ← match line.operands with
    | [] => badUse ("missing operand after " ++ quoteWord (← get).name)
    | [a] => pure (a, "-")
    | a :: b :: _ => pure (a, b)
  let skip := fun (i : Nat) =>
    match line.operands[2 + i]?, line.value? "i" with
    | some n, _ => (natural? n).getD 0
    | none, some n => (natural? n).getD 0
    | none, none => 0
  let read := fun (file : String) (i : Nat) => do
    match ← readFile file with
    | .ok text =>
      let cs := text.toList.drop (skip i)
      pure (((line.value? "n").bind natural?).elim cs cs.take)
    | .error cause =>
      if !line.has "s" then complain (file ++ ": " ++ cause.plainMessage)
      quit 2
  if a == b then return 0
  let xs ← read a 0
  let ys ← read b 1
  let different := ((xs.zip ys).zipIdx).filter fun ((x, y), _) => x != y
  let shorter? := if xs.length < ys.length then some (a, xs)
    else if ys.length < xs.length then some (b, ys) else none
  if line.has "s" then return if different.isEmpty && shorter?.isNone then 0 else 1
  let octal := fun (c : Char) => aligned 3 (String.ofList (Nat.toDigits 8 c.toNat))
  let atEnd : Doing Nat := do
    match shorter? with
    | none => return if different.isEmpty then 0 else 1
    | some (name, cs) =>
      flush
      if cs.isEmpty then complain ("EOF on " ++ name ++ " which is empty")
      else
        let lines := (cs.filter (· == '\n')).length
        let place := if line.has "l" then ""
          else if cs.getLast? == some '\n' then ", line " ++ toString lines
          else ", in line " ++ toString (lines + 1)
        complain ("EOF on " ++ name ++ " after byte " ++ toString cs.length ++ place)
      return 1
  if line.has "l" then
    let width := (toString (min xs.length ys.length)).length
    for ((x, y), i) in different do
      emitLine (aligned width (toString (i + 1)) ++ " " ++ octal x ++ " " ++ octal y)
    atEnd
  else match different with
    | ((x, y), i) :: _ =>
      let lines := ((xs.take i).filter (· == '\n')).length
      let bytes := if line.has "b" then
          " is " ++ octal x ++ " " ++ x.toString ++ " " ++ octal y ++ " " ++ y.toString
        else ""
      emitLine (a ++ " " ++ b ++ " differ: " ++ (if line.has "b" then "byte " else "char ")
        ++ toString (i + 1) ++ ", line " ++ toString (lines + 1) ++ bytes)
      return 1
    | [] => atEnd
where
  badUse {α : Type} (message : String) : Doing α := do
    complain message
    let name := (← get).name
    putError (name ++ ": Try '" ++ name ++ " --help' for more information.\n")
    quit 2

/-! ### Lines -/

/-- A line of one file, of the other one, or of both. -/
inductive Edit where
  | keep (line : String)
  | remove (line : String)
  | add (line : String)
  deriving DecidableEq, Repr

/-- A row of the table of lengths of common subsequences, given the row below
it. -/
def lengthRow (eq : String → String → Bool) (x : String) :
    List String → List Nat → List Nat
  | y :: ys, d :: below =>
    let rest := lengthRow eq x ys below
    let diagonal := below.headD 0
    let here := if eq x y then diagonal + 1 else max d (rest.headD 0)
    here :: rest
  | _, _ => [0]

/-- The table of lengths of common subsequences, for all ends of both
lists. -/
def lengthTable (eq : String → String → Bool) (ys : List String) : List String → List (List Nat)
  | [] => [List.replicate (ys.length + 1) 0]
  | x :: xs =>
    let below := lengthTable eq ys xs
    lengthRow eq x ys (below.headD []) :: below

/-- What has to be done to get from one list of lines to the other one. -/
def edits (eq : String → String → Bool) :
    List String → List String → List (List Nat) → List Edit
  | x :: xs, ys, row :: table => across eq x xs row table ys
  | [], ys, _ => ys.map .add
  | xs, [], _ => xs.map .remove
  | _ :: _, _ :: _, [] => []
where
  /-- Go along a row of the table. -/
  across (eq : String → String → Bool) (x : String) (xs : List String) (row : List Nat)
      (table : List (List Nat)) : List String → List Edit
    | [] => .remove x :: (xs.map .remove)
    | y :: ys =>
      let below := table.headD []
      let (down, right) := (below.headD 0, row.tail.headD 0)
      if eq x y then .keep x :: edits eq xs ys (table.map List.tail)
      else if down ≥ right then .remove x :: edits eq xs (y :: ys) table
      else .add y :: across eq x xs row.tail (table.map List.tail) ys

/-- A change: where it starts in both files, what goes and what comes. -/
structure Change where
  oldStart : Nat
  newStart : Nat
  removed : List String
  added : List String

/-- The changes among some edits. -/
def changesOf (old new : Nat) (removed added : List String) : List Edit → List Change
  | .keep _ :: rest =>
    let count := removed.length
    let fresh := added.length
    let more := changesOf (old + count + 1) (new + fresh + 1) [] [] rest
    if count = 0 && fresh = 0 then more
    else ⟨old, new, removed.reverse, added.reverse⟩ :: more
  | .remove line :: rest => changesOf old new (line :: removed) added rest
  | .add line :: rest => changesOf old new removed (line :: added) rest
  | [] =>
    if removed.isEmpty && added.isEmpty then []
    else [⟨old, new, removed.reverse, added.reverse⟩]

/-- A range of lines. -/
def spanText (start count : Nat) : String :=
  if count = 0 then toString start
  else if count = 1 then toString (start + 1)
  else toString (start + 1) ++ "," ++ toString (start + count)

/-- A line with a sign; one without a line break is pointed out. -/
def signedLine (sign line : String) : String :=
  if line.endsWith "\n" then sign ++ line else sign ++ line ++ "\n\\ No newline at end of file\n"

/-- A change in the plain form. -/
def Change.plainText (c : Change) : String :=
  let letter := if c.removed.isEmpty then "a" else if c.added.isEmpty then "d" else "c"
  spanText c.oldStart c.removed.length ++ letter ++ spanText c.newStart c.added.length ++ "\n"
    ++ String.join (c.removed.map (signedLine "< "))
    ++ (if !c.removed.isEmpty && !c.added.isEmpty then "---\n" else "")
    ++ String.join (c.added.map (signedLine "> "))

/-- Groups of changes that are near to each other. -/
def nearby (width : Nat) : List Change → List (List Change)
  | [] => []
  | c :: rest =>
    match nearby width rest with
    | (d :: ds) :: groups =>
      if d.oldStart ≤ c.oldStart + c.removed.length + 2 * width then (c :: d :: ds) :: groups
      else [c] :: (d :: ds) :: groups
    | groups => [c] :: groups

/-- A range of lines in the form with context. -/
def contextSpan (start count : Nat) : String :=
  if count = 1 then toString (start + 1)
  else (if count = 0 then toString start else toString (start + 1)) ++ "," ++ toString count

/-- A group of changes with the lines around them. -/
def groupText (width : Nat) (old : List String) (group : List Change) : String :=
  match group.head?, group.getLast? with
  | some first, some last =>
    let start := first.oldStart - width
    let stop := min old.length (last.oldStart + last.removed.length + width)
    let lead := first.oldStart - start
    let newStart := first.newStart - lead
    let newCount := (stop - start)
      + (group.map fun c => c.added.length).foldl (· + ·) 0
      - (group.map fun c => c.removed.length).foldl (· + ·) 0
    let (body, place) := group.foldl (fun (state : String × Nat) c =>
      let kept := (old.drop state.2).take (c.oldStart - state.2)
      (state.1 ++ String.join (kept.map (signedLine " "))
        ++ String.join (c.removed.map (signedLine "-"))
        ++ String.join (c.added.map (signedLine "+")), c.oldStart + c.removed.length)) ("", start)
    let tail := (old.drop place).take (stop - place)
    "@@ -" ++ contextSpan start (stop - start) ++ " +" ++ contextSpan newStart newCount ++ " @@\n"
      ++ body ++ String.join (tail.map (signedLine " "))
  | _, _ => ""

/-- How lines are compared. -/
structure LineManner where
  ignoreCase : Bool
  ignoreSpace : Bool
  ignoreChange : Bool

/-- A line as it is compared. -/
def LineManner.form (m : LineManner) (line : String) : String :=
  let cs := line.toList
  let isSpace := fun (c : Char) => c == ' ' || c == '\t' || c == '\n' || c == '\r'
  let cs := if m.ignoreSpace then cs.filter fun c => !isSpace c
    else if m.ignoreChange then
      let trimmed := (cs.reverse.dropWhile isSpace).reverse
      squeeze (· == ' ') none (trimmed.map fun c => if isSpace c then ' ' else c)
    else cs
  String.ofList (if m.ignoreCase then cs.map Char.toLower else cs)

/-- Show how files differ. -/
def showDifferences : Tool := fun _ arguments => do
  let known := [switch 'q' "brief", switch 's' "report-identical-files",
    ⟨"u", 'u', none, .nothing⟩, valued 'U' "U", ⟨"U", none, some "unified", .maybe⟩,
    switch 'i' "ignore-case", switch 'w' "ignore-all-space", switch 'b' "ignore-space-change",
    switch 'B' "ignore-blank-lines", switch 'N' "new-file", switch 'r' "recursive",
    switch 'a' "text", switch 'd' "minimal", named "normal" .nothing, valued 'L' "label",
    named "color" .maybe, named "strip-trailing-cr" .nothing, valued 'x' "exclude"]
  let line ← match readLineWith known true (arguments.length + 1) arguments with
    | .ok line => pure line
    | .error mistake => compareBytes.badUse mistake
  let (a, b) ← match line.operands with
    | [] => compareBytes.badUse ("missing operand after " ++ quoteWord (← get).name)
    | [a] => compareBytes.badUse ("missing operand after " ++ quoteWord a)
    | [a, b] => pure (a, b)
    | _ :: _ :: extra :: _ => compareBytes.badUse ("extra operand " ++ quoteWord extra)
  let width? := if line.has "U" then some (((line.value? "U").bind natural?).getD 3)
    else if line.has "u" then some 3 else none
  let manner : LineManner :=
    { ignoreCase := line.has "i", ignoreSpace := line.has "w", ignoreChange := line.has "b" }
  let codes ← pairs (line.has "N") (line.has "r") deepest a b (compareTwo line width? manner)
  return codes.foldl max 0
where
  /-- Compare two files. -/
  compareTwo (line : Line) (width? : Option Nat) (manner : LineManner) (title? : Option String)
      (a b : String) : Doing Nat := do
    let read := fun (file : String) => do
      match ← readFile file with
      | .ok text => pure (some text)
      | .error cause =>
        if line.has "N" && cause = .notFound then pure (some "")
        else
          complain (file ++ ": " ++ cause.plainMessage)
          pure none
    match ← read a, ← read b with
    | some old, some new =>
      let isBinary := fun (s : String) => s.toList.contains '\x00'
      if old == new then
        if line.has "s" then emitLine ("Files " ++ a ++ " and " ++ b ++ " are identical")
        return 0
      else if (isBinary old || isBinary new) && !line.has "a" then
        emitLine ((if line.has "q" then "Files " else "Binary files ") ++ a ++ " and " ++ b
          ++ " differ")
        return 1
      else
        let (oldLines, newLines) := (linesOf old, linesOf new)
        let eq := fun (x y : String) => manner.form x == manner.form y
        let blank := fun (c : Change) =>
          line.has "B" && (c.removed ++ c.added).all fun l => l == "\n"
        let changes := (changesOf 0 0 [] [] (edits eq oldLines newLines
          (lengthTable eq newLines oldLines))).filter fun c => !blank c
        if changes.isEmpty then return 0
        else if line.has "q" then
          emitLine ("Files " ++ a ++ " and " ++ b ++ " differ")
          return 1
        else
          match title? with
          | some title => emitLine title
          | none => pure ()
          match width? with
          | none => emit (String.join (changes.map Change.plainText))
          | some width =>
            let p ← get
            let stamp := fun (i : Nat) (file : String) =>
              match (line.values "L")[i]? with
              | some label => label
              | none =>
                let time := (p.machine.files.modified? p.directory (pathOf file)).getD
                  p.machine.clock
                let m := Moment.ofSeconds (time / perSecond)
                file ++ "\t" ++ m.numbers ++ " " ++ m.clock ++ "."
                  ++ Moment.digits 9 (time % perSecond) ++ " +0000"
            emitLine ("--- " ++ stamp 0 a)
            emitLine ("+++ " ++ stamp 1 b)
            emit (String.join ((nearby width changes).map (groupText width oldLines)))
          return 1
    | _, _ => return 2
  /-- The files that are compared for two paths. -/
  pairs (fresh deep : Bool) (allowance : Nat) (a b : String)
      (compareTwo : Option String → String → String → Doing Nat) : Doing (List Nat) := do
    match allowance with
    | 0 => return []
    | n + 1 =>
      let p ← get
      match namesDirectory p a, namesDirectory p b with
      | false, false => return [← compareTwo none a b]
      | true, false => return [← compareTwo none (below a (lastName b)) b]
      | false, true => return [← compareTwo none a (below b (lastName a))]
      | true, true =>
        let names := ((namesIn p a ++ namesIn p b).eraseDups).mergeSort fun x y => !decide (y < x)
        let codes ← names.mapM fun name => do
          let (x, y) := (below a name, below b name)
          match isThere p x, isThere p y with
          | true, true =>
            if namesDirectory p x && namesDirectory p y then
              if deep then pairs fresh deep n x y compareTwo
              else
                emitLine ("Common subdirectories: " ++ x ++ " and " ++ y)
                return [0]
            else
              return [← compareTwo (some ("diff " ++ (if deep then "-r " else "") ++ x ++ " " ++ y))
                x y]
          | true, false =>
            emitLine ("Only in " ++ a ++ ": " ++ name)
            return [1]
          | false, _ =>
            emitLine ("Only in " ++ b ++ ": " ++ name)
            return [1]
        return codes.flatten

end GuardCost.Utility.Compare
