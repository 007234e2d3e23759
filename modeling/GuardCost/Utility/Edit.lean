/-
GuardCost/Utility/Edit.lean

The stream editor.  A line is taken into the space, the steps of the script are
carried out on it, and what is left in the space is written.  What the steps
do is a matter of values alone; only reading and writing files is not.
-/
import GuardCost.Utility.EditScript
import GuardCost.Utility.Running

namespace GuardCost.Utility.Edit

open Process
open Text (Regex RegexForm)
open Text.Regex (Manner Match)

/-! ### State -/

/-- A line of the input: its text, whether a line break ended it, and the file
that it is from. -/
structure Row where
  text : List Char
  whole : Bool
  file : String

/-- How far a range of lines is. -/
inductive RangeState where
  | active (until_ : Option Nat)
  | closed
  deriving DecidableEq, Repr

/-- What waits for the end of a round. -/
inductive Waiting where
  | text (s : String)
  | file (name : String)

/-- The state of the editor. -/
structure Editing where
  space : List Char := []
  held : List Char := []
  rest : List Row := []
  /-- How many lines were taken. -/
  number : Nat := 0
  /-- Whether a line break ended the line that was taken last. -/
  whole : Bool := true
  file : String := "-"
  waiting : List Waiting := []
  /-- What was written, the newest first: the file, if there is one, and the
  text. -/
  written : List (Option String × String) := []
  /-- The outputs whose last line still lacks a line break. -/
  unfinished : List (Option String) := []
  ranges : List (Nat × RangeState) := []
  /-- Whether something was exchanged since the last jump. -/
  changed : Bool := false
  lastUsed? : Option (Regex × Manner) := none
  /-- The lines of files that are read one by one. -/
  feeds : List (String × List String) := []
  /-- Whether an expression was left out where there was none before. -/
  lost : Bool := false

/-- How the editor works. -/
structure EditManner where
  silent : Bool
  /-- What ends a line. -/
  lineEnd : Char
  /-- The text of a file, if it can be read. -/
  textOf : String → Option String

namespace Editing

/-- Write a text. -/
def put (e : Editing) (file? : Option String) (lineEnd : Char) (s : String) : Editing :=
  let s := if e.unfinished.contains file? then lineEnd.toString ++ s else s
  { e with
    written := (file?, s) :: e.written
    unfinished := e.unfinished.filter (· != file?) }

/-- Write a line that ends as the last line that was taken did. -/
def putLine (e : Editing) (file? : Option String) (lineEnd : Char) (cs : List Char) : Editing :=
  let e := e.put file? lineEnd
    (String.ofList cs ++ (if e.whole then lineEnd.toString else ""))
  if e.whole then e else { e with unfinished := file? :: e.unfinished }

/-- Take the next line. -/
def take? (e : Editing) : Option (List Char × Editing) :=
  match e.rest with
  | row :: rest =>
    some (row.text, { e with
      rest, number := e.number + 1, whole := row.whole, file := row.file })
  | [] => none

/-- Write what waits. -/
def release (e : Editing) (m : EditManner) : Editing :=
  let e' := e.waiting.reverse.foldl (fun e item =>
    match item with
    | .text s => e.put none m.lineEnd s
    | .file name =>
      match m.textOf name with
      | some s => if s.isEmpty then e else e.put none m.lineEnd s
      | none => e) e
  { e' with waiting := [] }

end Editing

/-! ### Addresses -/

/-- The expression that counts, with the state that remembers it. -/
def Editing.resolve (e : Editing) (x : Expression) : Option (Regex × Manner) × Editing :=
  match x with
  | some used => (some used, { e with lastUsed? := some used })
  | none => (e.lastUsed?, if e.lastUsed?.isNone then { e with lost := true } else e)

/-- Whether an expression fits the space. -/
def Editing.fits (e : Editing) (x : Expression) : Bool × Editing :=
  let (used?, e) := e.resolve x
  match used? with
  | some (r, manner) => ((Regex.find? manner r 0 none e.space).isSome, e)
  | none => (false, e)

/-- Whether a line is at a place of a row of places. -/
def isEvery (first step n : Nat) : Bool :=
  if step = 0 then n == first else first ≤ n && (n - first) % step == 0

/-- Whether an address fits. -/
def Editing.isAt (e : Editing) : Address → Bool × Editing
  | .line n => (e.number == n, e)
  | .last => (e.rest.isEmpty, e)
  | .fitting x => e.fits x
  | .every first step => (isEvery first step e.number, e)
  | .start => (false, e)

/-- The line that a range goes up to, if that is known at its start. -/
def lastLine? (number : Nat) : RangeEnd → Option Nat
  | .line n => some n
  | .after count => some (number + count)
  | .multiple n => some (if n = 0 then number else (number / n + 1) * n)
  | _ => none

/-- Whether the end of a range fits. -/
def Editing.isEnd (e : Editing) : RangeEnd → Bool × Editing
  | .last => (e.rest.isEmpty, e)
  | .fitting x => e.fits x
  | .every first step => (isEvery first step e.number, e)
  | _ => (false, e)

/-- Note how far a range is. -/
def Editing.setRange (e : Editing) (i : Nat) (state : RangeState) : Editing :=
  { e with ranges := (i, state) :: e.ranges.filter fun entry => entry.1 != i }

/-- Go on within a range. -/
def Editing.isWithin (e : Editing) (i : Nat) (until_ : Option Nat) (stop : RangeEnd) :
    Bool × Editing :=
  match until_ with
  | some n => (e.number ≤ n, if n ≤ e.number then e.setRange i .closed else e)
  | none =>
    let (isOver, e) := e.isEnd stop
    (true, if isOver then e.setRange i .closed else e)

/-- Whether a step is for the line. -/
def Editing.applies (e : Editing) (i : Nat) (s : Step) : Bool × Editing :=
  let (result, e) := match s.first?, s.until? with
    | none, _ => (true, e)
    | some first, none => e.isAt first
    | some first, some stop =>
      match first, e.ranges.lookup i with
      | _, some (.active until_) => e.isWithin i until_ stop
      | .start, none => e.isWithin i none stop
      | .start, some .closed => (false, e)
      | _, _ =>
        let (starts, e) := e.isAt first
        if !starts then (false, e)
        else match lastLine? e.number stop with
          | some n => (true, if n ≤ e.number then e else e.setRange i (.active (some n)))
          | none =>
            let isLast := match stop with
              | .last => e.rest.isEmpty
              | _ => false
            (true, if isLast then e else e.setRange i (.active none))
  (result != s.negated, e)

/-! ### Exchanges -/

/-- Change the letters of a text; a change for one letter is used up. -/
def recase (mode once : CaseChange) (cs : List Char) : List Char × CaseChange :=
  let whole := fun (c : Char) =>
    if mode = .upper then c.toUpper else if mode = .lower then c.toLower else c
  match cs with
  | [] => ([], once)
  | c :: rest =>
    let first := if once = .upperOnce then c.toUpper
      else if once = .lowerOnce then c.toLower else whole c
    (first :: rest.map whole, .none)

/-- The text that a replacement stands for. -/
def replacement (found : Match) (cs : List Char) (mode once : CaseChange) :
    List Part → List Char
  | [] => []
  | part :: rest =>
    let go := fun (text : List Char) =>
      let (text, once) := recase mode once text
      text ++ replacement found cs mode once rest
    match part with
    | .text c => go [c]
    | .group 0 => go (cs.take found.length)
    | .group n =>
      go ((found.groups.find? fun g => g.1 == n).elim [] fun g => g.2.2)
    | .change .upperOnce => replacement found cs mode .upperOnce rest
    | .change .lowerOnce => replacement found cs mode .lowerOnce rest
    | .change c => replacement found cs c .none rest

/-- Exchange matches in a text from a place on; the result says whether any was
exchanged. -/
def exchangeIn (x : Exchange) (r : Regex) (manner : Manner) (allowance count index : Nat)
    (before? : Option Char) (ended? : Option Nat) (cs : List Char) : List Char × Bool :=
  match allowance with
  | 0 => (cs, false)
  | n + 1 =>
    match Regex.find? manner r index before? cs with
    | none => (cs, false)
    | some found =>
      let skipped := cs.take (found.start - index)
      let here := cs.drop (found.start - index)
      let taken := here.take found.length
      let after := here.drop found.length
      let stop := found.start + found.length
      let repeated := found.length = 0 && ended? == some found.start
      let count := if repeated then count else count + 1
      let isPicked := !repeated && (if x.all then x.from_ ≤ count else count = x.from_)
      let new := if isPicked then replacement found here .none .none x.parts
        else taken
      let before? := (taken.getLast?).or (skipped.getLast?.or before?)
      if isPicked && !x.all then (skipped ++ new ++ after, true)
      else if found.length = 0 then
        match after with
        | [] => (skipped ++ new, isPicked)
        | c :: rest =>
          let (more, any) := exchangeIn x r manner n count (stop + 1) (some c) (some stop) rest
          (skipped ++ new ++ c :: more, isPicked || any)
      else
        let (more, any) := exchangeIn x r manner n count stop before? (some stop) after
        (skipped ++ new ++ more, isPicked || any)

/-! ### Showing -/

/-- A character in a form that cannot be mistaken. -/
def clearForm (c : Char) : String :=
  if c == '\\' then "\\\\" else if isShown c then c.toString else escapeText c

/-- A text in a form that cannot be mistaken, in lines of a width. -/
def clearLines (width : Nat) (cs : List Char) : String :=
  let pieces := cs.map clearForm
  let (done, line) := pieces.foldl (fun (state : String × String) piece =>
    if width > 1 && state.2.length + piece.length > width - 1 then
      (state.1 ++ state.2 ++ "\\\n", piece)
    else (state.1, state.2 ++ piece)) ("", "")
  done ++ line ++ "$\n"

/-! ### Rounds -/

/-- How a round ends. -/
inductive RoundEnd where
  | done
  /-- Without writing the space. -/
  | silent
  /-- The next round starts with what is left in the space. -/
  | again
  | quit (code : Nat) (silent : Bool)

/-- Carry out the steps of a script from one of them on. -/
def runSteps (m : EditManner) (steps : Array Step) (allowance i : Nat) (e : Editing) :
    RoundEnd × Editing :=
  match allowance with
  | 0 => (.done, e)
  | n + 1 =>
    match steps[i]? with
    | none => (.done, e)
    | some step =>
      let (applies, e) := e.applies i step
      let go := fun (e : Editing) => runSteps m steps n (i + 1) e
      let jump := fun (label : String) (e : Editing) =>
        if label.isEmpty then (RoundEnd.done, e)
        else runSteps m steps n ((placeOf? steps label).getD steps.size) e
      if e.lost then (.quit 1 true, e)
      else if !applies then
        match step.action with
        | .block stop => runSteps m steps n stop e
        | _ => go e
      else match step.action with
        | .block _ => go e
        | .blockEnd => go e
        | .label _ => go e
        | .nothing => go e
        | .print => go (e.putLine none m.lineEnd e.space)
        | .printFirst =>
          go (e.put none m.lineEnd
            (String.ofList (e.space.takeWhile (· != m.lineEnd)) ++ m.lineEnd.toString))
        | .delete => (.silent, e)
        | .deleteFirst =>
          if e.space.contains m.lineEnd then
            (.again, { e with space := (e.space.dropWhile (· != m.lineEnd)).drop 1 })
          else (.silent, e)
        | .hold => go { e with held := e.space }
        | .holdMore => go { e with held := e.held ++ m.lineEnd :: e.space }
        | .get => go { e with space := e.held }
        | .getMore => go { e with space := e.space ++ m.lineEnd :: e.held }
        | .swap => go { e with space := e.held, held := e.space }
        | .next =>
          let shown := if m.silent then e else e.putLine none m.lineEnd e.space
          match shown.rest with
          | [] => (.quit 0 true, shown)
          | _ =>
            match (shown.release m).take? with
            | some (text, e) => go { e with space := text }
            | none => (.quit 0 true, shown)
        | .nextMore =>
          match (e.release m).take? with
          | some (text, e) => go { e with space := e.space ++ m.lineEnd :: text }
          | none => (.quit 0 false, e)
        | .append text => go { e with waiting := .text text :: e.waiting }
        | .insert text => go (e.put none m.lineEnd text)
        | .change text =>
          let inside := match e.ranges.lookup i with
            | some (.active _) => step.until?.isSome && !step.negated
            | _ => false
          (.silent, if inside then e else e.put none m.lineEnd text)
        | .jump label => jump label e
        | .jumpIf label =>
          if e.changed then jump label { e with changed := false } else go e
        | .jumpUnless label =>
          if e.changed then go { e with changed := false } else jump label e
        | .quit code => (.quit code false, e)
        | .quitSilently code => (.quit code true, { e with waiting := [] })
        | .number => go (e.put none m.lineEnd (toString e.number ++ "\n"))
        | .list width? => go (e.put none m.lineEnd (clearLines (width?.getD 70) e.space))
        | .read file => go { e with waiting := .file file :: e.waiting }
        | .readOne file =>
          let lines := (e.feeds.lookup file).getD (bareLines ((m.textOf file).getD ""))
          let feeds := (file, lines.drop 1) :: e.feeds.filter fun entry => entry.1 != file
          match lines with
          | line :: _ => go { e with feeds, waiting := .text (line ++ "\n") :: e.waiting }
          | [] => go { e with feeds }
        | .write file => go (e.putLine (some file) m.lineEnd e.space)
        | .writeFirst file =>
          go (e.put (some file) m.lineEnd
            (String.ofList (e.space.takeWhile (· != m.lineEnd)) ++ m.lineEnd.toString))
        | .exchange x =>
          let (used?, e) := e.resolve x.expression
          match used? with
          | none => (.quit 1 true, e)
          | some (r, manner) =>
            let (space, any) := exchangeIn x r manner (e.space.length + 2) 0 0 none none e.space
            if any then
              let e := { e with space, changed := true }
              let e := if x.prints then e.putLine none m.lineEnd space else e
              go (x.file?.elim e fun file => e.putLine (some file) m.lineEnd space)
            else go e
        | .map pairs =>
          go { e with space := e.space.map fun c => (pairs.lookup c).getD c }
        | .clear => go { e with space := [] }
        | .fileName => go (e.put none m.lineEnd (e.file ++ "\n"))

/-- How many steps a round can have. -/
def longestRound : Nat := 1000000

/-- Carry out rounds until the input ends; the exit code is the result. -/
def runRounds (m : EditManner) (steps : Array Step) (allowance : Nat) (fresh : Bool) (e : Editing) :
    Option Nat × Editing :=
  match allowance with
  | 0 => (none, e)
  | n + 1 =>
    let started? := if fresh then
        e.take?.map fun (text, e) => { e with space := text, changed := false }
      else some e
    match started? with
    | none => (none, e)
    | some e =>
      let (ending, e) := runSteps m steps longestRound 0 e
      let shown := fun (e : Editing) =>
        if m.silent then e else e.putLine none m.lineEnd e.space
      match ending with
      | .done => runRounds m steps n true ((shown e).release m)
      | .silent => runRounds m steps n true (e.release m)
      | .again => runRounds m steps n false (e.release m)
      | .quit code silent => (some code, (if silent then e else shown e).release m)

/-! ### The command -/

/-- The rows of a text. -/
def rowsOfText (lineEnd : Char) (file text : String) : List Row :=
  let rec go (line : List Char) : List Char → List Row
    | [] => if line.isEmpty then [] else [⟨line.reverse, false, file⟩]
    | c :: rest =>
      if c == lineEnd then ⟨line.reverse, true, file⟩ :: go [] rest else go (c :: line) rest
  go [] text.toList

/-- The files that a script writes to. -/
def filesWritten (steps : Array Step) : List String :=
  steps.toList.filterMap fun step =>
    match step.action with
    | .write file => some file
    | .writeFirst file => some file
    | .exchange x => x.file?
    | _ => none

/-- The text that was written to a file, or to the output. -/
def textWritten (e : Editing) (file? : Option String) : String :=
  String.join ((e.written.filter fun entry => entry.1 == file?).map (·.2)).reverse

/-- A piece of a script, and where it is from. -/
structure Piece where
  file? : Option String
  text : String

/-- Where a mistake is, as it is told. -/
def placeText (pieces : List Piece) (mistake : Mistake) : String :=
  let rec go (number place : Nat) : List Piece → String
    | [] => ""
    | piece :: rest =>
      let length := piece.text.length
      if place ≤ length || rest.isEmpty then
        match piece.file? with
        | some file =>
          let lines := ((piece.text.toList.take (place - 1)).filter (· == '\n')).length
          "file " ++ file ++ " line " ++ toString (lines + 1) ++ ": "
        | none =>
          "-e expression #" ++ toString number ++ ", char " ++ toString place ++ ": "
      else go (if piece.file?.isSome then number else number + 1) (place - length - 1) rest
  go 1 mistake.place pieces

/-- Write what was written to files; the output comes in its place. -/
def deliver (written : List (Option String × String)) (inPlace? : Option String) :
    Doing Unit := do
  for (file?, s) in written.reverse do
    match file? with
    | none => if inPlace?.isNone then put s
    | some "/dev/stdout" => put s
    | some "/dev/stderr" => putError s
    | some _ => pure ()

/-- Say how the program is used, and end it. -/
def explain {α : Type} : Doing α := do
  putError ("Usage: " ++ (← get).name
    ++ " [OPTION]... \x7bscript-only-if-no-other-script\x7d [input-file]...\n")
  quit 1

/-- Edit streams. -/
def editStreams : Tool := fun _ arguments => do
  let known := [switch 'n' "quiet", ⟨"n", none, some "silent", .nothing⟩, switch 's' "separate",
    switch 'E' "regexp-extended", ⟨"E", 'r', none, .nothing⟩, switch 'z' "null-data",
    switch 'u' "unbuffered", switch 'b' "binary", ⟨"i", 'i', some "in-place", .maybe⟩,
    valued 'e' "expression", valued 'f' "file", valued 'l' "line-length",
    named "posix" .nothing, named "debug" .nothing, named "sandbox" .nothing,
    named "follow-symlinks" .nothing, named "help" .nothing, named "version" .nothing]
  let line ← match readLineWith known true (arguments.length + 1) arguments with
    | .ok line => pure line
    | .error mistake => do
      complain mistake
      explain
  if line.has "help" || line.has "version" then quit 0
  let given := line.options.filter fun g => g.key == "e" || g.key == "f"
  let pieces ← given.mapM fun g => do
    let value := g.value?.getD ""
    if g.key == "e" then pure (Piece.mk none value)
    else match ← readFile value with
      | .ok text =>
        let cs := text.toList
        pure ⟨some value, String.ofList (if cs.getLast? == some '\n' then cs.dropLast else cs)⟩
      | .error cause => fatal 4 ("couldn't open file " ++ value ++ ": " ++ cause.plainMessage)
  let (pieces, operands) ← match pieces, line.operands with
    | [], [] => explain
    | [], script :: operands => pure ([Piece.mk none script], operands)
    | pieces, operands => pure (pieces, operands)
  let script := String.intercalate "\n" (pieces.map (·.text))
  let form := if line.has "E" then RegexForm.extended else .basic
  match readScript form script.toList with
  | .error mistake => fatal 1 (placeText pieces mistake ++ mistake.message)
  | .ok steps =>
    match missingLabel? steps with
    | some label => fatal 4 ("can't find label for jump to \x60" ++ label ++ "'")
    | none => pure ()
    let hushed := script.startsWith "#n\n" || script == "#n"
    let lineEnd := if line.has "z" then '\x00' else '\n'
    let files := if operands.isEmpty then ["-"] else operands
    let manner : EditManner :=
      { silent := line.has "n" || hushed, lineEnd, textOf := fun _ => none }
    for file in filesWritten steps do
      if !file.startsWith "/dev/" then
        match ← edit fun w => w.files.write w.current w.now (pathOf file) [] with
        | .ok () => pure ()
        | .error cause => fatal 4 ("couldn't open file " ++ file ++ ": " ++ cause.plainMessage)
    let finish (e : Editing) : Doing Unit := do
      if e.lost then complain "-e expression #1, char 0: no previous regular expression"
      for file in (filesWritten steps).eraseDups do
        if !file.startsWith "/dev/" then
          let _ ← edit fun w =>
            w.files.write w.current w.now (pathOf file) (Bytes.narrow (textWritten e (some file)))
    if line.has "i" || line.has "s" then
      let rec each (e : Editing) (good : Bool) : List String → Doing (Editing × Bool × Option Nat)
        | [] => return (e, good, none)
        | file :: rest => do
          match ← rowsIn (line.has "i") lineEnd file with
          | none => each e false rest
          | some rows =>
            let p ← get
            let manner := { manner with textOf := fun name => (fileText p name).toOption }
            let before := e.written
            let start := { e with rest := rows, number := 0, ranges := [], written := [] }
            let (code?, after) := runRounds manner steps (2 * rows.length + 2) true start
            if line.has "i" then
              let suffix := (line.value? "i").getD ""
              if !suffix.isEmpty then
                let old := (p.machine.files.read p.directory (pathOf file)).toOption.getD []
                let backup := if suffix.toList.contains '*' then
                    String.ofList (replaceAll ['*'] file.toList (suffix.length + 1) suffix.toList)
                  else file ++ suffix
                let _ ← edit fun w => w.files.write w.current w.now (pathOf backup) old
              -- lines that a step did not come to stay as they are
              let left := after.rest.map fun row =>
                String.ofList row.text ++ (if row.whole then lineEnd.toString else "")
              let left := if code?.isSome then String.join left else ""
              let gap := if after.unfinished.contains none && !left.isEmpty then "\n" else ""
              let _ ← edit fun w => w.files.write w.current w.now (pathOf file)
                (Bytes.narrow (textWritten after none ++ gap ++ left))
            deliver after.written (if line.has "i" then some file else none)
            let e := { after with
              written := after.written ++ before
              unfinished := if line.has "i" then [] else after.unfinished }
            match code? with
            | some code => return (e, good, some code)
            | none => each e good rest
      let (e, good, code?) ← each {} true files
      finish e
      return code?.getD (if good then 0 else 2)
    else
      let found ← files.mapM fun file => rowsIn false lineEnd file
      let good := found.all Option.isSome
      let rows := (found.filterMap id).flatten
      let p ← get
      let manner := { manner with textOf := fun name => (fileText p name).toOption }
      let (code?, e) := runRounds manner steps (2 * rows.length + 2) true { rest := rows }
      deliver e.written none
      finish e
      return code?.getD (if good then 0 else 2)
where
  /-- The rows of a file, if it can be read. -/
  rowsIn (inPlace : Bool) (lineEnd : Char) (file : String) : Doing (Option (List Row)) := do
    if inPlace && namesDirectory (← get) file then
      fatal 4 ("couldn't edit " ++ file ++ ": not a regular file")
    match ← readFile file with
    | .ok text => return some (rowsOfText lineEnd file text)
    | .error cause =>
      if cause = .isDirectory then
        complain ("read error on " ++ file ++ ": " ++ cause.plainMessage)
        quit 4
      else
        complain ("can't read " ++ file ++ ": " ++ cause.plainMessage)
        return none

end GuardCost.Utility.Edit
