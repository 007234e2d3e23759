/-
GuardCost/Utility/Listing.lean

Utilities that show what is in directories, and what is known of files.
-/
import GuardCost.Utility.Calendar

namespace GuardCost.Utility

open Process

/-! ### Facts -/

/-- How long a file is; a link is as long as its target. -/
def sizeOfNode : Node → Nat
  | .file content .. => content.length
  | .link target => target.length
  | .directory _ => 4096
  | .device _ => 0

/-- When a file was last changed. -/
def timeOfNode : Node → Time
  | .file _ _ time => time
  | .directory time => time
  | _ => 0

/-- The letter for the kind of a node. -/
def kindLetter : Node → String
  | .file .. => "-"
  | .link _ => "l"
  | .directory _ => "d"
  | .device _ => "c"

/-- The name of the kind of a node. -/
def kindName : Node → String
  | .file [] _ _ => "regular empty file"
  | .file .. => "regular file"
  | .link _ => "symbolic link"
  | .directory _ => "directory"
  | .device _ => "character special file"

/-- The kibibytes that a node takes up. -/
def blocksOf : Node → Nat
  | .file content .. => (content.length + 4095) / 4096 * 4
  | .directory _ => 4
  | _ => 0

/-- How many names a node has. -/
def nameCount (fs : FileSystem) (place : Location) : Node → Nat
  | .directory _ =>
    2 + ((fs.children place).filter fun name =>
      match fs.lookup? (place ++ [name]) with
      | some (.directory _) => true
      | _ => false).length
  | _ => 1

/-- A number that a file is known by. -/
def fileNumber (place : Location) : Nat :=
  (place.flatten.foldl (fun n b => (n * 31 + b.toNat) % 1000003) 7) + 1000

/-! ### Directories -/

/-- A file in a listing. -/
structure Listed where
  name : String
  place : Location
  node : Node

/-- How files are listed. -/
structure ListingManner where
  all : Bool
  almostAll : Bool
  long : Bool
  showOwner : Bool
  showGroup : Bool
  numeric : Bool
  numbered : Bool
  sized : Bool
  human : Bool
  quoted : Bool
  slashes : Bool
  classified : Bool
  follow : Bool
  deep : Bool
  reversed : Bool
  /-- Letter of what files are sorted by. -/
  order? : Option String
  directoriesFirst : Bool
  skipped : List String
  hidden : List String
  backups : Bool
  commas : Bool
  across : Bool
  fullTime : Bool

/-- The sign after a name that says what it is. -/
def ListingManner.sign (m : ListingManner) (l : Listed) : String :=
  match l.node with
  | .directory _ => if m.slashes || m.classified then "/" else ""
  | .link _ => if m.classified then "@" else ""
  | .file _ rights _ => if m.classified && rights.isRunnable then "*" else ""
  | .device _ => ""

/-- A size in a form for people. -/
def humanSize (n : Nat) : String :=
  let rec go (allowance : Nat) (value : Nat) (scale : Nat) : List String → String
    | [] => toString value
    | unit :: rest =>
      match allowance with
      | 0 => toString value
      | k + 1 =>
        if n < scale * 1024 * 1024 || rest.isEmpty then
          let tenths := (n * 10 + scale * 1024 - 1) / (scale * 1024)
          if tenths < 100 then toString (tenths / 10) ++ "." ++ toString (tenths % 10) ++ unit
          else toString ((n + scale * 1024 - 1) / (scale * 1024)) ++ unit
        else go k value (scale * 1024) rest
  if n < 1024 then toString n else go 5 n 1 ["K", "M", "G", "T"]

/-- The time in a long listing: with the hour if it is not long ago. -/
def listedTime (m : ListingManner) (now time : Time) : String :=
  let seconds := time / perSecond
  let t := Moment.ofSeconds seconds
  if m.fullTime then
    t.numbers ++ " " ++ t.clock ++ "." ++ Moment.digits 9 (time % perSecond) ++ " +0000"
  else
    let date := Moment.short Moment.monthNames t.month ++ " " ++ t.paddedDay ++ " "
    let isRecent := time ≤ now && now - time < 15778476 * perSecond
    if isRecent then date ++ Moment.digits 2 t.hour ++ ":" ++ Moment.digits 2 t.minute
    else date ++ aligned 5 (toString t.year)

/-- Sort files. -/
def ListingManner.sort (m : ListingManner) (files : List Listed) : List Listed :=
  let byName := fun (a b : Listed) => compareChars a.name.toList b.name.toList
  let ending := fun (l : Listed) =>
    match splitLast? '.' l.name.toList with
    | some (_, e) => e
    | none => []
  let order := fun (a b : Listed) =>
    match m.order? with
    | some "t" => (compare (timeOfNode b.node) (timeOfNode a.node)).then (byName a b)
    | some "S" => (compare (sizeOfNode b.node) (sizeOfNode a.node)).then (byName a b)
    | some "X" => (compareChars (ending a) (ending b)).then (byName a b)
    | some "v" =>
      (compareVersions (a.name.length + b.name.length + 1) a.name.toList b.name.toList).then
        (byName a b)
    | _ => byName a b
  let sorted := if m.order? == some "U" then files
    else files.mergeSort fun a b => order a b != .gt
  let sorted := if m.reversed && m.order? != some "U" then sorted.reverse else sorted
  if m.directoriesFirst then
    let (dirs, others) := sorted.partition fun l => isDirectoryNode l.node
    dirs ++ others
  else sorted

/-- The lines of a listing. -/
def ListingManner.rows (m : ListingManner) (p : Process) (files : List Listed) : List String :=
  let shownName := fun (l : Listed) =>
    if m.quoted then "\"" ++ l.name ++ "\"" else l.name
  let size := fun (l : Listed) =>
    match l.node with
    | .device _ => "1, 3"
    | node => if m.human then humanSize (sizeOfNode node) else toString (sizeOfNode node)
  let count := fun (l : Listed) => toString (nameCount p.machine.files l.place l.node)
  let number := fun (l : Listed) => toString (fileNumber l.place)
  let blocks := fun (l : Listed) =>
    if m.human then humanSize (blocksOf l.node * 1024) else toString (blocksOf l.node)
  let widest := fun (f : Listed → String) => (files.map fun l => (f l).length).foldl max 0
  let column := fun (f : Listed → String) (l : Listed) => aligned (widest f) (f l)
  let owner := if m.numeric then "0" else "root"
  files.map fun l =>
    let before := (if m.numbered then column number l ++ " " else "")
      ++ (if m.sized then column blocks l ++ " " else "")
    if m.long then
      let target := match l.node with
        | .link target => " -> " ++ Bytes.widen target
        | _ => ""
      before ++ kindLetter l.node ++ Rights.letters (rightsOf l.node) ++ " " ++ column count l
        ++ " " ++ (if m.showOwner then owner ++ " " else "")
        ++ (if m.showGroup then owner ++ " " else "")
        ++ column size l ++ " " ++ listedTime m p.machine.clock (timeOfNode l.node) ++ " "
        ++ shownName l ++ (match l.node with
          | .link _ => target
          | _ => m.sign l)
    else before ++ shownName l ++ m.sign l

/-- How wide a line of a listing is. -/
def listingWidth : Nat := 80

/-- Rows one after the other with commas between them, in lines that are not
too wide. -/
def withCommas (place : Nat) : List String → String
  | [] => ""
  | row :: rest =>
    let more := if rest.isEmpty then 0 else 1
    if place = 0 then row ++ withCommas row.length rest
    else if place + row.length + more + 2 < listingWidth then
      ", " ++ row ++ withCommas (place + row.length + 2) rest
    else ",\n" ++ row ++ withCommas row.length rest

/-- Put the rows of a listing together. -/
def ListingManner.text (m : ListingManner) (rows : List String) : String :=
  if m.commas then
    if rows.isEmpty then "" else withCommas 0 rows ++ "\n"
  else if m.across then
    if rows.isEmpty then "" else String.intercalate "  " rows ++ "\n"
  else String.join (rows.map (· ++ "\n"))

/-- Whether a name is listed. -/
def ListingManner.isListed (m : ListingManner) (name : String) : Bool :=
  let fits := fun (pattern : String) =>
    Shell.fitsPattern (Shell.markedText false pattern.toList) name.toList
  let shown := m.all || m.almostAll || !name.startsWith "."
  shown && !(m.skipped.any fits) && !(!m.all && !m.almostAll && m.hidden.any fits)
    && !(m.backups && name.endsWith "~")

/-- List directories, and those in them. -/
def listDirectories (m : ListingManner) (allowance : Nat) (titled : Bool) (first : Bool)
    (dirs : List String) : Doing Unit :=
  match allowance, dirs with
  | n + 1, dir :: rest => do
    let p ← get
    let names := (namesIn p dir).filter m.isListed
    let names := if m.all then "." :: ".." :: names else names
    let files := m.sort (names.filterMap fun name =>
      match look p m.follow (below dir name) with
      | .ok (place, node) => some ⟨name, place, node⟩
      | .error _ =>
        (look p false (below dir name)).toOption.map fun (place, node) => ⟨name, place, node⟩)
    if !first then emit "\n"
    if titled then emitLine (dir ++ ":")
    let total := (files.map fun l => blocksOf l.node).foldl (· + ·) 0
    if m.long || m.sized then
      emitLine ("total " ++ (if m.human then humanSize (total * 1024) else toString total))
    emit (m.text (m.rows p files))
    let inner := if m.deep then
        (files.filter fun l => isDirectoryNode l.node && l.name != "." && l.name != "..").map
          fun l => below dir l.name
      else []
    listDirectories m n titled false (inner ++ rest)
  | _, _ => return ()

/-- List files and directories. -/
def listFiles : Tool := fun _ arguments => do
  let known := [switch 'a' "all", switch 'A' "almost-all", switch 'd' "directory",
    switch 'R' "recursive", switch 'r' "reverse", ⟨"F", 'F', none, .nothing⟩,
    ⟨"F", none, some "classify", .maybe⟩, switch 'i' "inode", switch 's' "size",
    switch 'h' "human-readable", switch 'n' "numeric-uid-gid", switch 'G' "no-group",
    switch 'L' "dereference", switch 'H' "dereference-command-line", switch 'Q' "quote-name",
    switch 'N' "literal", switch 'b' "escape", switch 'q' "hide-control-chars",
    switch 'B' "ignore-backups", valued 'I' "ignore", named "hide" .value, valued 'w' "width",
    valued 'T' "tabsize", named "color" .maybe, named "sort" .value, named "time" .value,
    named "time-style" .value, named "full-time" .nothing, named "format" .value,
    named "group-directories-first" .nothing, named "show-control-chars" .nothing,
    named "indicator-style" .value, named "file-type" .nothing, named "si" .nothing,
    switch 'Z' "context", switch 'k' "kibibytes"] ++ letters "ltSXUvfgop1Cxmcu"
  let line ← parse known true 2 arguments
  let p ← get
  let style := line.lastOf? ["l", "g", "o", "n", "1", "C", "x", "m", "full-time"]
  let long := ["l", "g", "o", "n", "full-time"].any line.has
    && !(style.any fun g => ["C", "x", "m"].contains g.key)
  let order := match line.lastOf? ["t", "S", "X", "U", "v", "f", "sort"] with
    | some g =>
      if g.key == "f" then some "U"
      else if g.key == "sort" then
        match g.value? with
        | some "time" => some "t"
        | some "size" => some "S"
        | some "extension" => some "X"
        | some "none" => some "U"
        | some "version" => some "v"
        | _ => none
      else some g.key
    | none => none
  let m : ListingManner :=
    { all := line.has "a" || line.has "f", almostAll := line.has "A", long
      showOwner := !line.has "g", showGroup := !line.has "o" && !line.has "G"
      numeric := line.has "n", numbered := line.has "i", sized := line.has "s"
      human := line.has "h", quoted := line.has "Q"
      slashes := line.has "p" || line.has "file-type", classified := line.has "F"
      follow := line.has "L", deep := line.has "R", reversed := line.has "r", order? := order
      directoriesFirst := line.has "group-directories-first", skipped := line.values "I"
      hidden := line.values "hide", backups := line.has "B"
      commas := style.any fun g => g.key == "m"
      across := style.any fun g => g.key == "C" || g.key == "x"
      fullTime := line.has "full-time" }
  let operands := if line.operands.isEmpty then ["."] else line.operands
  let followsHere := !long && !line.has "d" && !line.has "F" || line.has "L" || line.has "H"
  let found ← operands.mapM fun file => do
    let followed := look p true file
    let unfollowed := look p false file
    let chosen : Except SystemError (Location × Node) := match followed, unfollowed with
      | .ok (place, node), .ok other =>
        if followsHere || (isDirectoryNode node && file.endsWith "/") then .ok (place, node)
        else .ok other
      | .error cause, .ok other => if line.has "L" then .error cause else .ok other
      | _, .error cause => .error cause
    match chosen with
    | .ok (place, node) => return some (Listed.mk file place node)
    | .error cause =>
      complain ("cannot access " ++ quoteForShell file ++ ": " ++ cause.plainMessage)
      return none
  let listed := found.filterMap id
  let (dirs, files) := if line.has "d" then ([], listed)
    else listed.partition fun l => isDirectoryNode l.node
  let files := m.sort files
  if !files.isEmpty then emit (m.text (m.rows p files))
  let titled := operands.length > 1 || m.deep
  listDirectories m (p.machine.files.entries.length + dirs.length + 1) titled files.isEmpty
    ((m.sort dirs).map (·.name))
  return if found.all Option.isSome then 0 else 2

/-! ### Links and whole paths -/

/-- How much of a path has to be there. -/
inductive Demand where
  | everything
  | butTheLast
  | nothing
  deriving DecidableEq, Repr

/-- The location of a path, of which some need not be there. -/
def resolvePath (p : Process) (demand : Demand) (file : String) :
    Except SystemError Location := do
  match demand with
  | .everything => return (← look p true file).1
  | .butTheLast => p.machine.files.locate p.directory (pathOf file) true
  | .nothing =>
    let start := if file.startsWith "/" then [] else p.directory
    return ((pathOf file).parts.filter (· != [])).foldl (fun place part =>
      if part = [Bytes.dot] then place
      else if part = [Bytes.dot, Bytes.dot] then place.dropLast
      else match p.machine.files.locate place ⟨part⟩ true with
        | .ok next => next
        | .error _ => place ++ [part]) start

/-- A location as a path. -/
def placeName (place : Location) : String := Bytes.widen (Location.path place).bytes

/-- Show where links lead. -/
def showTargets : Tool := fun _ arguments => do
  let known := [switch 'f' "canonicalize", switch 'e' "canonicalize-existing",
    switch 'm' "canonicalize-missing", switch 'n' "no-newline", switch 'q' "quiet",
    switch 's' "silent", switch 'v' "verbose", switch 'z' "zero"]
  let line ← parse known true 1 arguments
  if line.operands.isEmpty then missingOperand 1 []
  let p ← get
  let stop := if line.has "z" then "\x00"
    else if line.has "n" && line.operands.length = 1 then "" else "\n"
  let results ← line.operands.mapM fun file => do
    let result := match line.lastOf? ["f", "e", "m"] with
      | some g =>
        let demand := if g.key == "f" then Demand.butTheLast
          else if g.key == "e" then .everything else .nothing
        (resolvePath p demand file).map placeName
      | none =>
        match look p false file with
        | .ok (_, .link target) => .ok (Bytes.widen target)
        | .ok _ => .error .invalid
        | .error cause => .error cause
    match result with
    | .ok text =>
      emit (text ++ stop)
      return true
    | .error cause =>
      if line.has "v" then complain (quoteIfNeeded file ++ ": " ++ cause.plainMessage)
      return false
  return codeOfAll results

/-- One location as it is seen from another one. -/
def seenFrom (base place : Location) : String :=
  let shared := ((base.zip place).takeWhile fun (a, b) => a == b).length
  let names := (List.replicate (base.length - shared) "..")
    ++ (place.drop shared).map Bytes.widen
  if names.isEmpty then "." else String.intercalate "/" names

/-- Show the whole paths of files. -/
def showWholePaths : Tool := fun _ arguments => do
  let known := [switch 'e' "canonicalize-existing", switch 'm' "canonicalize-missing",
    switch 'L' "logical", switch 'P' "physical", switch 'q' "quiet", switch 's' "strip",
    ⟨"s", none, some "no-symlinks", .nothing⟩, switch 'z' "zero", named "relative-to" .value,
    named "relative-base" .value]
  let line ← parse known true 1 arguments
  if line.operands.isEmpty then missingOperand 1 []
  let p ← get
  let stop := if line.has "z" then "\x00" else "\n"
  let demand := if line.has "m" then Demand.nothing
    else if line.has "e" then .everything else .butTheLast
  let base? := (line.value? "relative-to").bind fun dir => (resolvePath p .nothing dir).toOption
  let results ← line.operands.mapM fun file => do
    let resolved := if line.has "s" then
        .ok (((pathOf file).parts.filter (· != [])).foldl (fun place part =>
          if part = [Bytes.dot] then place
          else if part = [Bytes.dot, Bytes.dot] then place.dropLast else place ++ [part])
          (if file.startsWith "/" then [] else p.directory))
      else resolvePath p demand file
    match resolved with
    | .ok place =>
      emit (base?.elim (placeName place) (fun base => seenFrom base place) ++ stop)
      return true
    | .error cause =>
      if !line.has "q" then complain (quoteIfNeeded file ++ ": " ++ cause.plainMessage)
      return false
  return codeOfAll results

/-! ### Facts of files -/

/-- What a letter in a format of facts stands for. -/
def fact (p : Process) (file : String) (place : Location) (node : Node) (c : Char) : String :=
  let time := timeOfNode node
  let moment := Moment.ofSeconds (time / perSecond)
  let shownTime := moment.numbers ++ " " ++ moment.clock ++ "."
    ++ Moment.digits 9 (time % perSecond) ++ " +0000"
  match c with
  | 'n' => file
  | 's' => toString (sizeOfNode node)
  | 'a' => Rights.octal (rightsOf node) 1
  | 'A' => kindLetter node ++ Rights.letters (rightsOf node)
  | 'F' => kindName node
  | 'U' => "root"
  | 'G' => "root"
  | 'u' => "0"
  | 'g' => "0"
  | 'h' => toString (nameCount p.machine.files place node)
  | 'i' => toString (fileNumber place)
  | 'b' => toString (blocksOf node * 2)
  | 'B' => "512"
  | 'o' => "4096"
  | 'X' => toString (time / perSecond)
  | 'Y' => toString (time / perSecond)
  | 'Z' => toString (time / perSecond)
  | 'W' => toString (time / perSecond)
  | 'x' => shownTime
  | 'y' => shownTime
  | 'z' => shownTime
  | 'w' => shownTime
  | 'N' =>
    match node with
    | .link target => quoteForShell file ++ " -> " ++ quoteForShell (Bytes.widen target)
    | _ => quoteForShell file
  | '%' => "%"
  | _ => "?"

/-- Facts in a format. -/
def factsInFormat (letter : Char → String) (escapes : Bool) : List Char → String
  | '%' :: c :: cs => letter c ++ factsInFormat letter escapes cs
  | '\\' :: c :: cs =>
    if escapes then
      (match c with
        | 'n' => "\n"
        | 't' => "\t"
        | '\\' => "\\"
        | c => "\\" ++ c.toString) ++ factsInFormat letter escapes cs
    else "\\" ++ factsInFormat letter escapes (c :: cs)
  | c :: cs => c.toString ++ factsInFormat letter escapes cs
  | [] => ""

/-- Show what is known of files. -/
def showFacts : Tool := fun _ arguments => do
  let known := [switch 'L' "dereference", switch 'f' "file-system", valued 'c' "format",
    named "printf" .value, switch 't' "terse"]
  let line ← parse known true 1 arguments
  if line.operands.isEmpty then missingOperand 1 []
  let results ← line.operands.mapM fun file => do
    let p ← get
    match look p (line.has "L") file with
    | .error cause =>
      complain ("cannot statx " ++ quoteForShell file ++ ": " ++ cause.plainMessage)
      return false
    | .ok (place, node) =>
      let letter := fact p file place node
      match line.value? "printf", line.value? "c" with
      | some format, _ => emit (factsInFormat letter true format.toList)
      | none, some format => emitLine (factsInFormat letter false format.toList)
      | none, none =>
        emit (factsInFormat letter false
          ("  File: %N\n  Size: %s\t\tBlocks: %b\tIO Block: %o\t%F\n"
            ++ "Access: (%a/%A)  Uid: (%u/%U)  Gid: (%g/%G)\n"
            ++ "Access: %x\nModify: %y\nChange: %z\n Birth: %w\n").toList)
      return true
  return codeOfAll results

/-- Give a file one more name. -/
def makeName : Tool := fun runner arguments => do
  let line ← parse [] true 1 arguments
  match line.operands with
  | [] => missingOperand 1 []
  | [one] => missingOperand 1 [one]
  | [a, b] =>
    if isThere (← get) b then
      fatal 1 ("cannot create link " ++ quoteForShell b ++ " to " ++ quoteForShell a
        ++ ": File exists")
    else makeLinks runner ["-T", a, b]
  | _ :: _ :: extra :: _ => misuse 1 ("extra operand " ++ quoteWord extra)

/-- How much room files take up, in kibibytes. -/
def usedRoom (p : Process) (allowance : Nat) (file : String) : List (String × Nat) × Nat :=
  match allowance with
  | 0 => ([], 0)
  | n + 1 =>
    match look p false file with
    | .ok (_, .directory t) =>
      let inner := (namesIn p file).map fun name => usedRoom p n (below file name)
      let total := (inner.map (·.2)).foldl (· + ·) (blocksOf (.directory t))
      (inner.flatMap (·.1) ++ [(file, total)], total)
    | .ok (_, node) => ([], blocksOf node)
    | .error _ => ([], 0)

/-- Show how much room files take up. -/
def showRoom : Tool := fun _ arguments => do
  let known := [switch 's' "summarize", switch 'a' "all", switch 'h' "human-readable",
    switch 'k' "k", switch 'b' "bytes", switch 'c' "total", valued 'd' "max-depth"]
  let line ← parse known true 1 arguments
  let operands := if line.operands.isEmpty then ["."] else line.operands
  let results ← operands.mapM fun file => do
    let p ← get
    match look p false file with
    | .error cause =>
      complain ("cannot access " ++ quoteForShell file ++ ": " ++ cause.plainMessage)
      return false
    | .ok (_, node) =>
      let (rows, total) := usedRoom p deepest file
      let shown := fun (n : Nat) => if line.has "h" then humanSize (n * 1024) else toString n
      if line.has "s" || !isDirectoryNode node then emitLine (shown total ++ "\t" ++ file)
      else for (name, n) in rows do emitLine (shown n ++ "\t" ++ name)
      return true
  return codeOfAll results

end GuardCost.Utility
