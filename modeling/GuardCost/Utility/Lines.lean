/-
GuardCost/Utility/Lines.lean

Utilities that show the lines of their input: all of them, the first or the
last ones, turned around, numbered, folded or counted.
-/
import GuardCost.Utility.Files

namespace GuardCost.Utility

open Process

/-! ### Whole files -/

/-- A byte in a form that can be shown. -/
def visibleByte (c : Char) : String :=
  let n := c.toNat
  let low := fun (n : Nat) =>
    if n < 32 then "^" ++ (Char.ofNat (n + 64)).toString
    else if n = 127 then "^?" else (Char.ofNat n).toString
  if n < 128 then low n else "M-" ++ low (n - 128)

/-- How the lines of files are shown. -/
structure Showing where
  /-- Whether lines are numbered; `some true` leaves empty ones out. -/
  numbered? : Option Bool := none
  squeezed : Bool := false
  ends : Bool := false
  tabs : Bool := false
  hidden : Bool := false

namespace Showing

/-- One line, without its line break. -/
def line (s : Showing) (cs : List Char) : String :=
  String.join (cs.map fun c =>
    if c == '\t' then (if s.tabs then "^I" else "\t")
    else if s.hidden then visibleByte c else c.toString)

/-- Show a text, given the number of the next line, how many empty lines came
before it, and whether it starts a line. -/
def lines (s : Showing) (number blanks : Nat) (fresh : Bool) :
    List String → List String × Nat × Nat × Bool
  | [] => ([], number, blanks, fresh)
  | line :: rest =>
    let cs := line.toList
    let whole := cs.getLast? == some '\n'
    let content := if whole then cs.dropLast else cs
    let isBlank := content.isEmpty && fresh
    if isBlank && s.squeezed && blanks ≥ 1 then s.lines number (blanks + 1) true rest
    else
      let counts := fresh && s.numbered?.any fun nonblank => !(nonblank && isBlank)
      let label := if counts then aligned 6 (toString number) ++ "\t" else ""
      let shown := label ++ s.line content
        ++ (if whole then (if s.ends then "$" else "") ++ "\n" else "")
      let (more, state) := s.lines (if counts then number + 1 else number)
        (if isBlank then blanks + 1 else 0) whole rest
      (shown :: more, state)

end Showing

/-- Whether reading a file would meet what is written to the output. -/
def isOwnOutput (p : Process) (file : String) : Bool :=
  let placeOf := fun (descriptor : Nat) => ((p.channelNumber? descriptor).bind p.machine.channel?)
  match placeOf 1 with
  | none => false
  | some output =>
    match output.target with
    | .file place =>
      let size := match p.machine.files.lookup? place with
        | some (.file content ..) => content.length
        | _ => 0
      let position := if output.appends then size else output.offset
      if file == "-" then
        match placeOf 0 with
        | some input => input.target == .file place && input.offset < position
        | none => false
      else match look p true file with
        | .ok (other, _) => other == place && 0 < position
        | .error _ => false
    | _ => false

/-- Show files one after the other. -/
def showFiles : Tool := fun _ arguments => do
  let known := [switch 'n' "number", switch 'b' "number-nonblank", switch 's' "squeeze-blank",
    switch 'E' "show-ends", switch 'T' "show-tabs", switch 'v' "show-nonprinting",
    switch 'A' "show-all"] ++ letters "etu"
  let line ← parse known true 1 arguments
  let some_ := fun (keys : List String) => keys.any line.has
  let showing : Showing :=
    { numbered? := if line.has "b" then some true else if line.has "n" then some false else none
      squeezed := line.has "s"
      ends := some_ ["E", "A", "e"]
      tabs := some_ ["T", "A", "t"]
      hidden := some_ ["v", "A", "e", "t"] }
  let plain := arguments.all fun a => !a.startsWith "-" || a == "-" || a == "-u"
  let files := if line.operands.isEmpty then ["-"] else line.operands
  let rec go (number blanks : Nat) (fresh good : Bool) : List String → Doing Bool
    | [] => return good
    | file :: rest => do
      if isOwnOutput (← get) file then
        complain (quoteIfNeeded file ++ ": input file is output file")
        go number blanks fresh false rest
      else match ← readFile file with
        | .error cause =>
          complain (quoteIfNeeded file ++ ": " ++ cause.plainMessage)
          if file == "-" && cause = .badDescriptor then
            complain "closing standard input: Bad file descriptor"
          go number blanks fresh false rest
        | .ok text =>
          if plain then
            put text
            go number blanks fresh good rest
          else
            let (shown, number, blanks, fresh) :=
              showing.lines number blanks fresh (linesOf text)
            put (String.join shown)
            go number blanks fresh good rest
  return if ← go 1 0 true true files then 0 else 1

/-- Show the lines of files, the last one first. -/
def showBackwards : Tool := fun _ arguments => do
  let known := [switch 'b' "before", switch 'r' "regex", valued 's' "separator"]
  let line ← parse known true 1 arguments
  let results ← (if line.operands.isEmpty then ["-"] else line.operands).mapM fun file => do
    match ← readFile file with
    | .ok text =>
      emit (String.join (linesOf text).reverse)
      return true
    | .error cause =>
      if cause = .isDirectory then complain (quoteIfNeeded file ++ ": read error: Invalid argument")
      else complain ("failed to open " ++ quoteForShell file ++ " for reading: "
        ++ cause.plainMessage)
      return false
  return codeOfAll results

/-- Show the characters of each line backwards. -/
def showReversed : Tool := fun _ arguments => do
  let line ← parse [] true 1 arguments
  let results ← (if line.operands.isEmpty then ["-"] else line.operands).mapM fun file => do
    match ← readFile file with
    | .ok text =>
      for row in linesOf text do
        let cs := row.toList
        if cs.getLast? == some '\n' then emitLine (String.ofList cs.dropLast.reverse)
        else emit (String.ofList cs.reverse)
      return true
    | .error cause =>
      complain ("cannot open " ++ file ++ ": " ++ cause.plainMessage)
      return false
  return codeOfAll results

/-! ### Parts of files -/

/-- How much is shown of a file. -/
structure Share where
  /-- Whether bytes are counted, not lines. -/
  bytes : Bool
  /-- Whether the count is from the other side. -/
  other : Bool
  count : Nat

/-- The first lines, or all but the last ones. -/
def Share.first (s : Share) (text : String) : String :=
  let part := fun {α : Type} (xs : List α) =>
    xs.take (if s.other then xs.length - s.count else s.count)
  if s.bytes then String.ofList (part text.toList) else String.join (part (linesOf text))

/-- The last lines, or all from one of them on. -/
def Share.last (s : Share) (text : String) : String :=
  let part := fun {α : Type} (xs : List α) =>
    xs.drop (if s.other then s.count - 1 else xs.length - s.count)
  if s.bytes then String.ofList (part text.toList) else String.join (part (linesOf text))

/-- The options that say how much to show; an old form is a dash and a
number. -/
def shareOptions : List Known :=
  [valued 'n' "lines", valued 'c' "bytes", switch 'q' "quiet", ⟨"q", none, some "silent", .nothing⟩,
    switch 'v' "verbose", switch 'z' "zero-terminated", ⟨"f", 'f', some "follow", .maybe⟩,
    switch 'F' "F", valued 's' "sleep-interval", named "pid" .value, named "retry" .nothing]

/-- The old form of the options, in the new one. -/
def withoutOldForm (arguments : List String) : List String :=
  match arguments with
  | first :: rest =>
    match first.toList with
    | '-' :: c :: cs =>
      if c.isDigit then
        let digits := c :: cs.takeWhile Char.isDigit
        let after := cs.dropWhile Char.isDigit
        let unit := if after.contains 'c' then "-c" else "-n"
        let more := after.filter fun c => c == 'q' || c == 'v'
        unit :: String.ofList digits
          :: (if more.isEmpty then rest else String.ofList ('-' :: more) :: rest)
      else arguments
    | _ => arguments
  | [] => arguments

/-- How much was asked for; `sign` is what asks for the other side. -/
def shareOf (line : Line) (sign : Char) : Doing Share := do
  match line.lastOf? ["n", "c"] with
  | none => return ⟨false, false, 10⟩
  | some given =>
    let value := given.value?.getD ""
    let (other, digits) := match value.toList with
      | c :: ds => if c == sign then (true, ds) else if c == '-' then (false, ds) else (false, c :: ds)
      | [] => (false, [])
    match sizeOf? (String.ofList digits) with
    | some n => return ⟨given.key == "c", other, n⟩
    | none =>
      let unit := if given.key == "c" then "bytes" else "lines"
      fatal 1 ("invalid number of " ++ unit ++ ": " ++ quoteWord value)

/-- Take some lines from the input, and leave the others in it if it is a
file. -/
def takeLines (count : Nat) : Doing String := do
  match count with
  | 0 => return ""
  | n + 1 =>
    let line ← readLine 0
    if line.isEmpty then return ""
    else return String.ofList line ++ (← takeLines n)

/-- Whether the input is a file. -/
def isFileInput (p : Process) : Bool :=
  match (p.channelNumber? 0).bind p.machine.channel? with
  | some { target := .file _, .. } => true
  | _ => false

/-- The characters up to the end of so many lines, and how many lines are
missing. -/
def linesUpTo (count : Nat) (cs : List Char) : List Char × Nat :=
  match count, cs with
  | 0, _ => ([], 0)
  | n, [] => ([], n)
  | n + 1, c :: rest =>
    let (taken, missing) := linesUpTo (if c == '\n' then n else n + 1) rest
    (c :: taken, missing)

/-- Take some lines from the input, in blocks. -/
def takeBlocks (count : Nat) (allowance : Nat) : Doing (List (List Char)) := do
  match allowance with
  | 0 => return []
  | n + 1 =>
    if count = 0 then return []
    else
      let block ← readSome 0
      if block.isEmpty then return []
      else
        let (taken, missing) := linesUpTo count block
        return taken :: (← takeBlocks missing n)

/-- Take the first part of the input. -/
def takeFirst (s : Share) : Doing String := do
  if s.bytes then return String.ofList (← readUpTo 0 none s.count)
  else if isFileInput (← get) then takeLines s.count
  else return String.ofList (← takeBlocks s.count 1000000).flatten

/-- The first part of a file; no more of the input is read than is needed. -/
def firstOf (s : Share) (file : String) : Doing (Except SystemError String) := do
  let p ← get
  if s.other then return (← readFile file).map s.first
  else if file == "-" then
    match (p.channelNumber? 0).bind p.machine.channel? with
    | none => return .error .badDescriptor
    | some c => if c.target = .directory then return .error .isDirectory else return .ok (← takeFirst s)
  else
    match p.machine.files.find p.directory (pathOf file) with
    | .ok (_, .device .zero) =>
      return .ok (String.ofList (List.replicate (if s.bytes then s.count else endless) '\x00'))
    | _ => return (← readFile file).map s.first

/-- Show parts of files, each under its name if there are more of them. -/
def showParts (line : Line) (partOf : String → Doing (Except SystemError String)) :
    Doing Nat := do
  let files := if line.operands.isEmpty then ["-"] else line.operands
  let titled := line.has "v" || (files.length > 1 && !line.has "q")
  let title := fun (first : Bool) (file : String) =>
    (if first then "" else "\n") ++ "==> " ++ (if file == "-" then "standard input" else file)
      ++ " <==\n"
  let rec go (first good : Bool) : List String → Doing Bool
    | [] => return good
    | file :: rest => do
      match ← partOf file with
      | .ok text =>
        if titled then put (title first file)
        put text
        go false good rest
      | .error cause =>
        if cause = .isDirectory then
          if titled then put (title first file)
          complain ("error reading " ++ quoteForShell file ++ ": " ++ cause.plainMessage)
          go false false rest
        else
          complain ("cannot open " ++ quoteForShell file ++ " for reading: " ++ cause.plainMessage)
          go first false rest
  return if ← go true true files then 0 else 1

/-- Show the first parts of files. -/
def showFirst : Tool := fun _ arguments => do
  let line ← parse shareOptions true 1 (withoutOldForm arguments)
  let share ← shareOf line '-'
  showParts line (firstOf share)

/-- How long a file is followed that nothing is written to any more, in
nanoseconds. -/
def followingTime : Nat := 1000000000000000000

/-- Show the last parts of files. -/
def showLast : Tool := fun _ arguments => do
  let line ← parse shareOptions true 1 (withoutOldForm arguments)
  let share ← shareOf line '+'
  let code ← showParts line fun file => return (← readFile file).map share.last
  if (line.has "f" || line.has "F") && !line.operands.isEmpty then sleep followingTime
  return code

/-! ### Counts -/

/-- What is counted in a text. -/
structure Counts where
  lines : Nat := 0
  words : Nat := 0
  bytes : Nat := 0
  longest : Nat := 0

namespace Counts

/-- The counts of two texts together. -/
def add (a b : Counts) : Counts :=
  ⟨a.lines + b.lines, a.words + b.words, a.bytes + b.bytes, max a.longest b.longest⟩

/-- How wide a line is; tabs go on to the next multiple of eight. -/
def width (cs : List Char) : Nat :=
  cs.foldl (fun n c =>
    if c == '\t' then (n / 8 + 1) * 8 else if isShown c then n + 1 else n) 0

/-- The counts of a text. -/
def of (text : String) : Counts :=
  let cs := text.toList
  let isSpace := fun (c : Char) => c == ' ' || ('\t' ≤ c && c ≤ '\r')
  let words := cs.foldl (fun (state : Nat × Bool) c =>
    if isSpace c then (state.1, false)
    else if state.2 then state else (state.1 + 1, true)) (0, false)
  { lines := (cs.filter (· == '\n')).length
    words := words.1
    bytes := cs.length
    longest := ((bareLines text).map fun line => width line.toList).foldl max 0 }

end Counts

/-- Count lines, words and bytes. -/
def countAll : Tool := fun _ arguments => do
  let known := [switch 'l' "lines", switch 'w' "words", switch 'c' "bytes", switch 'm' "chars",
    switch 'L' "max-line-length", named "total" .value]
  let line ← parse known true 1 arguments
  let usual := !(["l", "w", "c", "m", "L"].any line.has)
  let columns := fun (c : Counts) =>
    (if usual || line.has "l" then [c.lines] else [])
      ++ (if usual || line.has "w" then [c.words] else [])
      ++ (if line.has "m" then [c.bytes] else [])
      ++ (if usual || line.has "c" then [c.bytes] else [])
      ++ (if line.has "L" then [c.longest] else [])
  let single := (columns {}).length = 1
  let p ← get
  let inputSize := match (p.channelNumber? 0).bind p.machine.channel? with
    | some { target := .file place, .. } =>
      match p.machine.files.lookup? place with
      | some (.file content ..) => some content.length
      | _ => none
    | _ => none
  let sizes := line.operands.map fun file =>
    if file == "-" then some inputSize
    else match look p true file with
      | .ok (_, .file content ..) => some (some content.length)
      | .ok _ => some none
      | .error _ => none
  let width :=
    if single && line.operands.length ≤ 1 then 1
    else if line.operands.isEmpty then inputSize.elim 7 fun n => (toString n).length
    else if sizes.head? == some none then 1
    else
      let total := (sizes.filterMap fun size => size.bind id).foldl (· + ·) 0
      max (toString total).length (if sizes.contains (some none) then 7 else 1)
  let row := fun (c : Counts) (name : String) =>
    String.intercalate " " ((columns c).map fun n => aligned width (toString n))
      ++ (if name.isEmpty then "" else " " ++ name)
  let results ← (if line.operands.isEmpty then ["-"] else line.operands).mapM fun file => do
    let name := if line.operands.isEmpty then "" else file
    match ← readFile file with
    | .ok text =>
      let c := Counts.of text
      emitLine (row c name)
      return (c, true)
    | .error cause =>
      complain (quoteIfNeeded file ++ ": " ++ cause.plainMessage)
      if cause = .isDirectory then emitLine (row {} name)
      return ({}, false)
  if line.operands.length > 1 then
    emitLine (row ((results.map (·.1)).foldl Counts.add {}) "total")
  return codeOfAll (results.map (·.2))

/-! ### Copies of the input -/

/-- Write the input to the output and to files. -/
def writeAlso : Tool := fun _ arguments => do
  let known := [switch 'a' "append", switch 'i' "ignore-interrupts",
    ⟨"p", 'p', some "output-error", .maybe⟩]
  let line ← parse known true 1 arguments
  let access : Shell.Access := if line.has "a" then .append else .create
  let opened ← (line.operands.zipIdx).mapM fun (file, i) => do
    match ← openFile access file (100 + i) with
    | .ok () => return some (100 + i)
    | .error cause =>
      complain (quoteIfNeeded file ++ ": " ++ cause.plainMessage)
      return none
  let text ← readAll 0
  put text
  let results ← opened.mapM fun channel? => do
    match channel? with
    | none => return false
    | some n =>
      match ← write n text with
      | .ok () => return true
      | .error _ => return false
  return codeOfAll results

/-! ### Numbers at the start of lines -/

/-- Number the lines of files. -/
def numberLines : Tool := fun _ arguments => do
  let known := [valued 'b' "body-numbering", valued 'v' "starting-line-number",
    valued 'i' "line-increment", valued 'w' "number-width", valued 's' "number-separator",
    valued 'n' "number-format", valued 'h' "header-numbering", valued 'f' "footer-numbering",
    valued 'd' "section-delimiter", valued 'l' "join-blank-lines", switch 'p' "no-renumber"]
  let line ← parse known true 1 arguments
  let (text, good) ← readTogether line.operands
  let number := fun (key : String) (usual : Nat) => ((line.value? key).bind natural?).getD usual
  let width := number "w" 6
  let separator := (line.value? "s").getD "\t"
  let counts := fun (row : String) =>
    match line.value? "b" with
    | some "a" => true
    | some "n" => false
    | _ => !row.isEmpty
  let shown := fun (n : Nat) =>
    let ds := toString n
    match line.value? "n" with
    | some "ln" => ds ++ String.ofList (List.replicate (width - ds.length) ' ')
    | some "rz" => String.ofList (List.replicate (width - ds.length) '0') ++ ds
    | _ => aligned width ds
  let blank := String.ofList (List.replicate (width + separator.length) ' ')
  let rec go (n : Nat) : List String → List String
    | [] => []
    | row :: rest =>
      if counts row then (shown n ++ separator ++ row ++ "\n") :: go (n + number "i" 1) rest
      else (blank ++ row ++ "\n") :: go n rest
  emit (String.join (go (number "v" 1) (bareLines text)))
  return if good then 0 else 1

/-! ### Widths -/

/-- Cut a line where it gets too wide. -/
def foldLine (width : Nat) (bytes atSpaces : Bool) (done : List Char) (column : Nat)
    (cs : List Char) (allowance : Nat) : List Char :=
  match allowance, cs with
  | n + 1, c :: rest =>
    let next := if bytes then column + 1
      else if c == '\t' then (column / 8 + 1) * 8
      else if c == '\x08' then column - 1
      else if c == '\r' then 0 else column + 1
    if next > width && !done.isEmpty then
      let tail := if atSpaces then done.takeWhile (· != ' ') else []
      if atSpaces && tail.length < done.length then
        (done.drop tail.length).reverse
          ++ '\n' :: foldLine width bytes atSpaces [] 0 (tail.reverse ++ c :: rest) n
      else done.reverse ++ '\n' :: foldLine width bytes atSpaces [] 0 (c :: rest) n
    else foldLine width bytes atSpaces (c :: done) next rest n
  | _, _ => done.reverse

/-- Cut the lines of files where they get too wide. -/
def foldLines : Tool := fun _ arguments => do
  let known := [valued 'w' "width", switch 's' "spaces", switch 'b' "bytes"]
  let line ← parse known true 1 arguments
  let value := (line.value? "w").getD "80"
  match natural? value with
  | some (width + 1) =>
    let good ← readEach line.operands fun _ text => do
      for row in linesOf text do
        let cs := row.toList
        let whole := cs.getLast? == some '\n'
        let content := if whole then cs.dropLast else cs
        emit (String.ofList (foldLine (width + 1) (line.has "b") (line.has "s") [] 0 content
          (content.length * content.length + 1)))
        if whole then emit "\n"
    return if good then 0 else 1
  | _ => fatal 1 ("invalid number of columns: " ++ quoteWord value)

/-- Write blanks for tabs, up to the first other character of a line if only
those count. -/
def expandTabs (stop : Nat) (onlyFirst active : Bool) (column : Nat) : List Char → List Char
  | [] => []
  | '\n' :: rest => '\n' :: expandTabs stop onlyFirst true 0 rest
  | c :: rest =>
    if c == '\t' && active then
      let next := (column / stop + 1) * stop
      List.replicate (next - column) ' ' ++ expandTabs stop onlyFirst active next rest
    else c :: expandTabs stop onlyFirst (active && (!onlyFirst || c == ' ')) (column + 1) rest

/-- Write blanks for tabs. -/
def expandAll : Tool := fun _ arguments => do
  let known := [valued 't' "tabs", switch 'i' "initial"]
  let line ← parse known true 1 arguments
  let value := (line.value? "t").getD "8"
  match natural? value with
  | some (stop + 1) =>
    let good ← readEach line.operands fun _ text =>
      emit (String.ofList (expandTabs (stop + 1) (line.has "i") true 0 text.toList))
    return if good then 0 else 1
  | some 0 => fatal 1 "tab size cannot be 0"
  | none => fatal 1 ("tab size contains invalid character(s): " ++ quoteWord value)

end GuardCost.Utility
