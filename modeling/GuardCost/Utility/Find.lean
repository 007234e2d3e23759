/-
GuardCost/Utility/Find.lean

Going through directories in search of files.  What is asked of a file is an
expression of tests and actions; it goes from the left to the right, and no
further than its outcome needs.
-/
import GuardCost.Utility.Listing
import GuardCost.Utility.Running

namespace GuardCost.Utility.Find

open Process

/-! ### Expressions -/

/-- How a number is compared with another one. -/
inductive Compared where
  | more
  | less
  | same
  deriving DecidableEq, Repr

/-- What is asked of a file. -/
inductive Query where
  | yes
  | no
  | name (pattern : String) (ignoreCase whole : Bool)
  | kind (letters : List Char)
  | empty
  | size (c : Compared) (n unit : Nat)
  | newer (time : Time)
  | age (c : Compared) (n unit : Nat)
  | rights (sign? : Option Char) (mask : Rights)
  | runnable
  | print (ending : String)
  | format (text : String)
  | run (words : List String)
  | runAll (number : Nat) (words : List String)
  | delete
  | prune
  | stop
  | not (a : Query)
  | both (a b : Query)
  | either (a b : Query)
  | sequence (a b : Query)

/-- How the search goes. -/
structure Going where
  /-- The least and the greatest depth of files that count. -/
  least : Nat := 0
  most? : Option Nat := none
  /-- Whether what is in a directory comes before it. -/
  depthFirst : Bool := false
  follow : Bool := false

/-- Whether something is done for a file. -/
def Query.acts : Query → Bool
  | .print _ => true
  | .format _ => true
  | .run _ => true
  | .runAll _ _ => true
  | .delete => true
  | .stop => false
  | .not a => a.acts
  | .both a b => a.acts || b.acts
  | .either a b => a.acts || b.acts
  | .sequence a b => a.acts || b.acts
  | _ => false

/-! ### Reading -/

/-- What a mistake in an expression is. -/
abbrev Mistake := String

/-- A number with a sign that says how it is compared. -/
def compared? (s : String) : Option (Compared × String) :=
  match s.toList with
  | '+' :: ds => some (.more, String.ofList ds)
  | '-' :: ds => some (.less, String.ofList ds)
  | ds => some (.same, String.ofList ds)

/-- The unit of a size. -/
def sizeUnit? (s : String) : Option (String × Nat) :=
  let digits := String.ofList (s.toList.takeWhile Char.isDigit)
  let unit? := match String.ofList (s.toList.dropWhile Char.isDigit) with
    | "" => some 512
    | "b" => some 512
    | "c" => some 1
    | "w" => some 2
    | "k" => some 1024
    | "M" => some 1048576
    | "G" => some 1073741824
    | _ => none
  unit?.map fun unit => (digits, unit)

/-- A test or an action with the words that it takes, and the words after
it. -/
def primary (p : Process) (g : Going) (word : String) (rest : List String) :
    Except Mistake (Query × Going × List String) := do
  let missing : Mistake := "missing argument to \x60" ++ word ++ "'"
  let with_ (f : String → Except Mistake (Query × Going)) :
      Except Mistake (Query × Going × List String) :=
    match rest with
    | value :: rest => do
      let (q, g) ← f value
      return (q, g, rest)
    | [] => .error missing
  let depth (f : Nat → Going) : Except Mistake (Query × Going × List String) :=
    with_ fun value =>
      match natural? value with
      | some n => .ok (.yes, f n)
      | none => .error ("Expected a positive decimal integer argument to " ++ word
          ++ ", but got " ++ quoteWord value)
  let age (unit : Nat) : Except Mistake (Query × Going × List String) :=
    with_ fun value =>
      match compared? value with
      | some (c, digits) =>
        match natural? digits with
        | some n => .ok (.age c n unit, g)
        | none => .error ("invalid argument \x60" ++ value ++ "' to \x60" ++ word ++ "'")
      | none => .error missing
  match word with
  | "-true" => return (.yes, g, rest)
  | "-false" => return (.no, g, rest)
  | "-name" => with_ fun v => .ok (.name v false false, g)
  | "-iname" => with_ fun v => .ok (.name v true false, g)
  | "-path" => with_ fun v => .ok (.name v false true, g)
  | "-wholename" => with_ fun v => .ok (.name v false true, g)
  | "-ipath" => with_ fun v => .ok (.name v true true, g)
  | "-type" => with_ fun v =>
      let letters := v.toList.filter (· != ',')
      match letters.find? fun c => !("bcdpfls".toList.contains c) with
      | some c => .error ("Unknown argument to -type: " ++ c.toString)
      | none => .ok (.kind letters, g)
  | "-empty" => return (.empty, g, rest)
  | "-executable" => return (.runnable, g, rest)
  | "-readable" => return (.yes, g, rest)
  | "-writable" => return (.yes, g, rest)
  | "-user" => with_ fun v => .ok (if v == "root" || v == "0" then .yes else .no, g)
  | "-group" => with_ fun v => .ok (if v == "root" || v == "0" then .yes else .no, g)
  | "-uid" => with_ fun v => .ok (if v == "0" then .yes else .no, g)
  | "-size" => with_ fun v =>
      match (compared? v).bind fun (c, text) => (sizeUnit? text).bind fun (digits, unit) =>
        (natural? digits).map fun n => (c, n, unit) with
      | some (c, n, unit) => .ok (.size c n unit, g)
      | none => .error ("Invalid argument \x60" ++ v ++ "' to -size")
  | "-newer" => with_ fun v =>
      match p.machine.files.modified? p.directory (pathOf v) with
      | some time => .ok (.newer time, g)
      | none => .error (quoteForShell v ++ ": No such file or directory")
  | "-mtime" => age 86400
  | "-mmin" => age 60
  | "-atime" => age 86400
  | "-ctime" => age 86400
  | "-perm" => with_ fun v =>
      let (sign?, text) := match v.toList with
        | '-' :: cs => (some '-', String.ofList cs)
        | '/' :: cs => (some '/', String.ofList cs)
        | _ => (none, v)
      match Rights.change? false 0 0 text with
      | some mask => .ok (.rights sign? mask, g)
      | none => .error ("invalid mode " ++ quoteForShell v)
  | "-maxdepth" => depth fun n => { g with most? := some n }
  | "-mindepth" => depth fun n => { g with least := n }
  | "-depth" => return (.yes, { g with depthFirst := true }, rest)
  | "-d" => return (.yes, { g with depthFirst := true }, rest)
  | "-follow" => return (.yes, { g with follow := true }, rest)
  | "-xdev" => return (.yes, g, rest)
  | "-mount" => return (.yes, g, rest)
  | "-noleaf" => return (.yes, g, rest)
  | "-print" => return (.print "\n", g, rest)
  | "-print0" => return (.print "\x00", g, rest)
  | "-printf" => with_ fun v => .ok (.format v, g)
  | "-delete" => return (.delete, { g with depthFirst := true }, rest)
  | "-prune" => return (.prune, g, rest)
  | "-quit" => return (.stop, g, rest)
  | "-exec" => words word rest
  | "-execdir" => words word rest
  | "-ok" => words word rest
  | _ =>
    if word.startsWith "-" then throw ("unknown predicate \x60" ++ word ++ "'")
    else throw ("paths must precede expression: \x60" ++ word ++ "'")
where
  words (word : String) (rest : List String) : Except Mistake (Query × Going × List String) :=
    let command := rest.takeWhile fun w => w != ";" && w != "+"
    match rest.drop command.length with
    | ";" :: after =>
      if command.isEmpty then .error ("missing argument to \x60" ++ word ++ "'")
      else .ok (.run command, g, after)
    | "+" :: after =>
      if command.getLast? == some "\x7b\x7d" then
        .ok (.runAll after.length command.dropLast, g, after)
      else .error ("missing argument to \x60" ++ word ++ "'")
    | _ => .error ("missing argument to \x60" ++ word ++ "'")

/-- Read an expression: sequences, alternatives, conjunctions and negations,
from the loosest to the tightest. -/
def read (p : Process) (allowance level : Nat) (g : Going) (words : List String) :
    Except Mistake (Query × Going × List String) :=
  match allowance with
  | 0 => .error "invalid expression"
  | n + 1 =>
    match level with
    | 0 => do
      let (a, g, rest) ← read p n 1 g words
      match rest with
      | "," :: rest =>
        let (b, g, rest) ← read p n 0 g rest
        return (.sequence a b, g, rest)
      | _ => return (a, g, rest)
    | 1 => do
      let (a, g, rest) ← read p n 2 g words
      match rest with
      | sign :: rest' =>
        if sign == "-o" || sign == "-or" then
          if rest'.isEmpty then throw ("expected an expression after '" ++ sign ++ "'")
          let (b, g, rest) ← read p n 1 g rest'
          return (.either a b, g, rest)
        else return (a, g, rest)
      | [] => return (a, g, [])
    | 2 => do
      let (a, g, rest) ← read p n 3 g words
      match rest with
      | [] => return (a, g, [])
      | sign :: rest' =>
        if ["-o", "-or", ")", ","].contains sign then return (a, g, rest)
        else if sign == "-a" || sign == "-and" then
          if rest'.isEmpty then throw ("expected an expression after '" ++ sign ++ "'")
          let (b, g, rest) ← read p n 2 g rest'
          return (.both a b, g, rest)
        else
          let (b, g, rest) ← read p n 2 g rest
          return (.both a b, g, rest)
    | _ =>
      match words with
      | [] => .error "invalid expression"
      | "!" :: rest => negated n g "!" rest
      | "-not" :: rest => negated n g "-not" rest
      | "(" :: rest => do
        if rest.head? == some ")" then
          throw "invalid expression; empty parentheses are not allowed."
        if rest.isEmpty then
          throw "invalid expression; expected to find a ')' but didn't see one. Perhaps you need an extra predicate after '('"
        let (a, g, rest) ← read p n 0 g rest
        match rest with
        | ")" :: rest => return (a, g, rest)
        | _ =>
          throw "invalid expression; I was expecting to find a ')' somewhere but did not see one."
      | ")" :: _ =>
        .error "invalid expression; you have too many ')'"
      | word :: rest => primary p g word rest
where
  negated (n : Nat) (g : Going) (sign : String) (rest : List String) :
      Except Mistake (Query × Going × List String) := do
    if rest.isEmpty then throw ("expected an expression after '" ++ sign ++ "'")
    let (a, g, rest) ← read p n 3 g rest
    return (.not a, g, rest)

/-! ### Answers -/

/-- A file that was come to. -/
structure Found where
  file : String
  /-- The path that the search started from. -/
  root : String
  place : Location
  node : Node
  depth : Nat

/-- What has become of the search. -/
structure State where
  pruned : Bool := false
  stopped : Bool := false
  failed : Bool := false
  /-- The files for commands that take many, the newest first. -/
  gathered : List (Nat × List String × List String) := []

/-- Whether a number is as it should be. -/
def Compared.holds (c : Compared) (actual n : Nat) : Bool :=
  match c with
  | .more => n < actual
  | .less => actual < n
  | .same => actual == n

/-- What a letter in a format stands for. -/
def letter (p : Process) (f : Found) (c : Char) : String :=
  match c with
  | 'p' => f.file
  | 'f' => lastName f.file
  | 'h' => directoryPart f.file
  | 'P' =>
    let rest := f.file.toList.drop f.root.length
    String.ofList (if rest.head? == some '/' then rest.tail else rest)
  | 'd' => toString f.depth
  | 's' => toString (sizeOfNode f.node)
  | 'm' => Rights.octal (rightsOf f.node) 1
  | 'M' => kindLetter f.node ++ Rights.letters (rightsOf f.node)
  | 'y' => if kindLetter f.node == "-" then "f" else kindLetter f.node
  | 'l' =>
    match f.node with
    | .link target => Bytes.widen target
    | _ => ""
  | 'k' => toString (blocksOf f.node)
  | 'b' => toString (2 * blocksOf f.node)
  | 'n' => fact p f.file f.place f.node 'h'
  | 'i' => fact p f.file f.place f.node 'i'
  | 'u' => "root"
  | 'g' => "root"
  | '%' => "%"
  | c => "%" ++ c.toString

/-- Put a path where a pair of braces stands. -/
def withPath (file word : String) : String :=
  String.ofList (replaceAll ['\x7b', '\x7d'] file.toList (word.length + 1) word.toList)

/-- Run a command, and say whether it went well. -/
def runWords (runner : Runner) (words : List String) : Doing Bool := do
  flush
  match ← spawn runner words with
  | .ok flow => return codeOfRun flow = 0
  | .error cause =>
    complain (quoteForShell (words.headD "") ++ ": " ++ cause.plainMessage)
    return false

/-- Ask something of a file. -/
def Query.answer (runner : Runner) (s : State) (f : Found) : Query → Doing (Bool × State)
  | .yes => return (true, s)
  | .no => return (false, s)
  | .name pattern ignoreCase whole => do
    let text := if whole then f.file else lastName f.file
    let fold := fun (t : String) => if ignoreCase then t.toLower else t
    return (Shell.fitsPattern (Shell.markedText false (fold pattern).toList) (fold text).toList, s)
  | .kind letters =>
    let own := if kindLetter f.node == "-" then 'f' else (kindLetter f.node).toList.headD 'f'
    return (letters.contains own, s)
  | .empty => do
    match f.node with
    | .file content .. => return (content.isEmpty, s)
    | .directory _ => return (((← get).machine.files.children f.place).isEmpty, s)
    | _ => return (false, s)
  | .size c n unit => return (c.holds ((sizeOfNode f.node + unit - 1) / unit) n, s)
  | .newer time => return (decide (time < timeOfNode f.node), s)
  | .age c n unit => do
    let age := ((← get).machine.clock - timeOfNode f.node) / perSecond / unit
    return (c.holds age n, s)
  | .rights sign? mask =>
    let own := rightsOf f.node
    let holds := match sign? with
      | some '-' => own &&& mask == mask
      | some _ => mask == 0 || own &&& mask != 0
      | none => own == mask
    return (holds, s)
  | .runnable => return (Rights.isRunnable (rightsOf f.node), s)
  | .print ending => do
    emit (f.file ++ ending)
    return (true, s)
  | .format text => do
    emit (factsInFormat (letter (← get) f) true text.toList)
    return (true, s)
  | .run words => do
    return (← runWords runner (words.map (withPath f.file)), s)
  | .runAll number words => do
    let (files, others) := s.gathered.partition fun entry => entry.1 == number
    let files := (files.head?.elim [] fun entry => entry.2.2)
    return (true, { s with gathered := (number, words, f.file :: files) :: others })
  | .delete => do
    let remove := fun (w : World) =>
      match f.node with
      | .directory _ => w.files.removeDirectory w.current w.now (pathOf f.file)
      | _ => w.files.removeFile w.current w.now (pathOf f.file)
    if f.file == "." then return (true, s)
    match ← edit remove with
    | .ok () => return (true, s)
    | .error cause =>
      complain ("cannot delete " ++ quoteForShell f.file ++ ": " ++ cause.plainMessage)
      return (false, { s with failed := true })
  | .prune => return (true, { s with pruned := true })
  | .stop => return (true, { s with stopped := true })
  | .not a => do
    let (result, s) ← a.answer runner s f
    return (!result, s)
  | .both a b => do
    let (result, s) ← a.answer runner s f
    if result && !s.stopped then b.answer runner s f else return (false, s)
  | .either a b => do
    let (result, s) ← a.answer runner s f
    if result || s.stopped then return (true, s) else b.answer runner s f
  | .sequence a b => do
    let (_, s) ← a.answer runner s f
    if s.stopped then return (true, s) else b.answer runner s f

/-! ### Going through directories -/

/-- Go through everything at and below a path. -/
def walk (runner : Runner) (g : Going) (q : Query) (root : String) (allowance depth : Nat)
    (s : State) (files : List String) : Doing State :=
  match allowance, files with
  | n + 1, file :: rest => do
    if s.stopped then return s
    match look (← get) g.follow file with
    | .error _ => walk runner g q root n depth s rest
    | .ok (place, node) =>
      let found : Found := { file, root, place, node, depth }
      let visit := fun (s : State) => do
        if g.least ≤ depth then return (← q.answer runner s found).2 else return s
      let inside := fun (s : State) => do
        let goesIn := isDirectoryNode node && g.most?.all fun most => depth < most
        if goesIn && !s.stopped then
          let names := namesIn (← get) file
          walk runner g q root n (depth + 1) s (names.map (below file))
        else return s
      let s ← if g.depthFirst then do visit (← inside s)
        else do
          let s ← visit { s with pruned := false }
          if s.pruned then pure { s with pruned := false } else inside s
      walk runner g q root n depth s rest
  | _, _ => return s

/-- Search for files. -/
def findFiles : Tool := fun runner arguments => do
  let follow := arguments.takeWhile fun a => a == "-L" || a == "-P" || a == "-H"
  let arguments := arguments.drop follow.length
  if arguments == ["--help"] || arguments == ["--version"] then quit 0
  let isPath := fun (a : String) =>
    !(a.startsWith "-" && a.length > 1) && a != "!" && a != "(" && a != ")" && a != ","
  let paths := arguments.takeWhile isPath
  let words := arguments.drop paths.length
  let p ← get
  let start : Going := { follow := follow.getLast? == some "-L" }
  let (q, g) ← match words with
    | [] => pure (.print "\n", start)
    | _ =>
      match read p (10 * words.length + 10) 0 start words with
      | .error mistake => fatal 1 mistake
      | .ok (q, g, rest) =>
        match rest with
        | ")" :: _ => fatal 1 "you have too many ')'"
        | _ => pure (if q.acts then q else .both q (.print "\n"), g)
  let allowance := 2 * p.machine.files.entries.length + 10
  let rec each (s : State) : List String → Doing State
    | [] => return s
    | root :: rest => do
      match look (← get) false root with
      | .error cause =>
        complain (quoteForShell root ++ ": " ++ cause.plainMessage)
        each { s with failed := true } rest
      | .ok _ =>
        let s ← walk runner g q root (allowance + rest.length) 0 s [root]
        if s.stopped then return s else each s rest
  let s ← each {} (if paths.isEmpty then ["."] else paths)
  let results ← s.gathered.reverse.mapM fun (_, words, files) =>
    runWords runner (words ++ files.reverse)
  return if s.failed || !results.all id then 1 else 0

end GuardCost.Utility.Find
