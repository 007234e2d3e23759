/-
GuardCost/Shell/Exec.lean

Carrying out scripts.  Each kind of script is carried out by what its parts
do.  When a command fails whose exit code nobody looks at, an option can make
that the end of the shell.
-/
import GuardCost.Shell.Examination
import GuardCost.Shell.Pipeline

namespace GuardCost.Shell

open Process

/-! ### Loops -/

/-- What a loop does after one of its parts. -/
inductive Round where
  | goOn
  /-- The next round begins. -/
  | next
  | stop
  deriving DecidableEq, Repr

/-- Carry out a part of a loop. -/
def inLoop (body : Doing Unit) : Doing Round :=
  tryCatch (do
    body
    return .goOn) fun flow =>
      match flow with
      | .leave n => if n ≤ 1 then return .stop else throw (.leave (n - 1))
      | .again n => if n ≤ 1 then return .next else throw (.again (n - 1))
      | flow => throw flow

/-- Do something within a loop. -/
def nested (body : Doing Unit) : Doing Unit := do
  let loops := (← get).shell.loops
  modify fun p => { p with shell.loops := loops + 1 }
  tryFinally body (modify fun p => { p with shell.loops := loops })

/-- Go round a loop as long as its test goes as it should.  The exit code is
that of the last round. -/
def goRound (rounds : Nat) (whileWell : Bool) (test body : Doing Unit) (code : Nat) :
    Doing Unit :=
  match rounds with
  | 0 => throw .overdue
  | n + 1 => do
    match ← inLoop test with
    | .stop => setStatus code
    | .next => goRound n whileWell test body code
    | .goOn =>
      if ((← get).shell.status == 0) == whileWell then
        match ← inLoop body with
        | .stop => return ()
        | _ => goRound n whileWell test body (← get).shell.status
      else setStatus code

/-- Carry out a loop once for each text. -/
def goThrough (name : String) (body : Doing Unit) : List String → Doing Unit
  | [] => return ()
  | text :: rest => do
    setVariable name text
    match ← inLoop body with
    | .stop => return ()
    | _ => goThrough name body rest

/-! ### Selections -/

/-- Whether one of some patterns fits a text. -/
def fitsAny (run : Script → Doing Unit) (s : String) : List Word → Doing Bool
  | [] => return false
  | w :: rest => do
    let pattern ← expandPattern run w
    if Wildcard.fits (Wildcard.ofMarked pattern) s.toList then return true
    else fitsAny run s rest

/-- Carry out the first clause with a pattern that a text fits, and what follows
it.  The next clause can be chosen already, and one can have been carried out
before. -/
def carryOutClauses (run body : Script → Doing Unit) (s : String) (isChosen hasRun : Bool) :
    List Clause → Doing Unit
  | [] => if hasRun then return () else setStatus 0
  | (patterns, clause, onward) :: rest => do
    if ← (if isChosen then return true else fitsAny run s patterns) then
      if clause.isNothing then setStatus 0 else body clause
      match onward with
      | .stop => return ()
      | .through => carryOutClauses run body s true true rest
      | .search => carryOutClauses run body s false true rest
    else carryOutClauses run body s false hasRun rest

/-! ### Scripts -/

/-- The redirection of a command that is nothing else. -/
def loneInput? : Script → Option Redirects
  | .simple _ [] [] [(0, .file .read w)] => some [(0, .file .read w)]
  | _ => none

/-- A shell that carries out a script within the words of another one. -/
def withinWords (p : Process) : ShellState :=
  let shell := keptApart p.shell
  let shell := { shell with outputDepth := shell.outputDepth + 1 }
  if isExtended p && !shell.settings.contains "inherit_errexit" then
    { shell with options := shell.options.filter (· != 'e') }
  else shell

/-- Carry out a script whose output is wanted. -/
def runWithinWords (e : Engine) (body : Script) : Doing Unit := do
  modify fun p => { p with shell := withinWords p }
  pass forkingTime
  asShell e (e.exec { last := true } body)

/-- The same, but in the extended dialect the output of a lone file is its
content. -/
def runForOutput (e : Engine) (body : Script) : Doing Unit := do
  match if isExtended (← get) then loneInput? body else none with
  | none => runWithinWords e body
  | some redirects =>
    modify fun p => { p with shell := withinWords p }
    asShell e do
      if ← openAll (← prepareAll (runWithinWords e) redirects) then put (← readAll 0)
      else throw (.exit 1)

/-- Note the line that is carried out. -/
def atLine (line : Nat) : Doing Unit := modify fun p => { p with shell.line := line }

/-- Carry out a script that has a process of its own. -/
def carryOutApart (e : Engine) (run : Script → Doing Unit) (s : Setting) (line : Nat)
    (body : Script) (redirects : Redirects) : Doing Unit := do
  atLine line
  let openings ← prepareAll run redirects
  let inside : Doing Unit := do
    if ← openAll openings then e.exec { s with last := true } body else throw .failed
  if s.last && !hasTraps (← get) then
    modify fun p => { p with shell := { keptApart p.shell with jobs := p.shell.jobs } }
    asShell e inside
  else
    let flow ← inSubshell e id inside
    settleJobs
    conclude flow

/-- Whether a failure of a script can be the end of the shell. -/
def isChecked : Script → Bool
  | .simple .. => true
  | .pipeline _ => true
  | .apart .. => true
  | .background .. => true
  | .judge .. => true
  | .reckon .. => true
  | _ => false

/-! ### Arithmetic -/

/-- Evaluate an expression that is a command; what it comes to, if it has a
value. -/
def reckonPieces (run : Script → Doing Unit) (body : List Piece) : Doing (Option Int) := do
  let text := textOf (← expandPieces run {} false body)
  let p ← get
  showCarriedOut (p.channelNumber? 2) ("(( " ++ text ++ " ))")
  match ← reckon text with
  | .ok n => return some n
  | .error message =>
    complainAt ("((: " ++ message)
    return none

/-- Go round a loop as long as an expression is not zero, and evaluate another
one after each round. -/
def goCounting (rounds : Nat) (test next : Doing (Option Int)) (body : Doing Unit) : Doing Unit :=
  match rounds with
  | 0 => throw .overdue
  | n + 1 => do
    match ← test with
    | none => setStatus 1
    | some k =>
      if k ≠ 0 then
        match ← inLoop body with
        | .stop => return ()
        | _ =>
          match ← next with
          | none => setStatus 1
          | some _ => goCounting n test next body

/-- The characters that stand in some pieces; a piece that is put in place is
one of them. -/
def textIn (pieces : List Piece) : List Char :=
  pieces.flatMap fun
    | .text _ s => s.toList
    | _ => ['$']

/-- Carry out a script by what it is. -/
def perform (e : Engine) (s : Setting) (script : Script) : Doing Unit :=
  let run := runForOutput e
  match script with
  | .nothing => return ()
  | .simple line assignments words redirects =>
    carryOutCommand e run s line assignments words redirects
  | .join joint first second => do
    e.exec { tested := s.tested || joint != .afterwards } first
    let status := (← get).shell.status
    let goesOn := match joint with
      | .afterwards => true
      | .ifWell => status == 0
      | .ifNotWell => status != 0
    if goesOn then e.exec s second
  | .negation body => do
    e.exec { tested := true } body
    setStatus (if (← get).shell.status = 0 then 1 else 0)
  | .pipeline parts => carryOutPipeline e s parts
  | .background line body redirects => do
    atLine line
    let openings ← prepareAll run redirects
    startJob e do
      if ← openAll openings then e.exec { last := true } body else throw .failed
    setStatus 0
  | .apart line body redirects => carryOutApart e run s line body redirects
  | .redirected line body redirects => do
    atLine line
    let openings ← prepareAll run redirects
    restoring redirects do
      if ← openAll openings then e.exec { tested := s.tested } body
  | .choice test yes no => do
    e.exec { tested := true } test
    if (← get).shell.status = 0 then e.exec s yes
    else if no.isNothing then setStatus 0
    else e.exec s no
  | .loop whileWell test body =>
    nested (goRound e.rounds whileWell (e.exec { tested := true } test)
      (e.exec { tested := s.tested } body) 0)
  | .forEach line name words body => do
    atLine line
    if !isName name then
      complainAt ("\x60" ++ name ++ "': not a valid identifier")
      setStatus 1
      return ()
    let texts ← expandWords run words
    setStatus 0
    let p ← get
    let lead := "for " ++ name ++ " in " ++ " ".intercalate (texts.map Reshaping.shown)
    let body := if isExtended p && hasOption p 'x' then do
        showCarriedOut (p.channelNumber? 2) lead
        e.exec { tested := s.tested } body
      else e.exec { tested := s.tested } body
    nested (goThrough name body texts)
  | .select line subject clauses => do
    atLine line
    let text ← expandText run subject
    let p ← get
    if isExtended p then
      showCarriedOut (p.channelNumber? 2) ("case " ++ Reshaping.shown text ++ " in")
    carryOutClauses run (e.exec s) text false false clauses
  | .judge line condition => do
    atLine line
    match ← Examination.holds run condition with
    | some b => setStatus (if b then 0 else 1)
    | none => setStatus 2
  | .reckon line body => do
    atLine line
    match ← reckonPieces run body with
    | some n => setStatus (if n = 0 then 1 else 0)
    | none => setStatus 1
  | .count line first test next body => do
    atLine line
    setStatus 0
    match ← reckonPieces run first with
    | none => setStatus 1
    | some _ =>
      let test := if (textIn test).all Arithmetic.isSpace then return some 1
        else reckonPieces run test
      nested (goCounting e.rounds test (reckonPieces run next)
        (e.exec { tested := s.tested } body))
  | .define name body => do
    modify fun p => { p with
      shell.functions := (name, body) :: p.shell.functions.filter fun entry => entry.1 != name }
    setStatus 0

/-- Carry out the trap for a command that failed, if there is one here. -/
def takeFailure (e : Engine) : Doing Unit := do
  let shell := (← get).shell
  match shell.traps.lookup 66 with
  | some text =>
    if shell.functionDepth = 0 || shell.options.contains 'E' then
      let kept := shell.traps
      modify fun p => { p with shell.traps := kept.filter fun entry => entry.1 != 66 }
      runTrap e "error trap" text
      modify fun p => { p with
        shell.traps := if (p.shell.traps.lookup 66).isSome then p.shell.traps
          else kept.filter (fun entry => entry.1 == 66) ++ p.shell.traps }
  | none => return ()

/-- Close the texts that were opened for the words of a script; some were open
before it. -/
def closeTexts (before : Process) : Doing Unit :=
  let isText := fun (entry : Nat × Nat) => entry.1 ≥ 60
  modify fun p =>
    if p.descriptors.any isText then
      let others := p.descriptors.filter fun entry => !isText entry
      { p with descriptors := others ++ before.descriptors.filter isText }
    else p

/-- Carry out a script. -/
def carryOutScript (e : Engine) (s : Setting) (script : Script) : Doing Unit := do
  if !hasOption (← get) 'n' then
    takeTraps e
    let before ← get
    perform e s script
    if isExtended before then closeTexts before
    takeTraps e
  let p ← get
  if isChecked script then
    if isExtended p then
      match script with
      | .pipeline _ => pure ()
      | _ => modify fun p => { p with shell.codes := [p.shell.status] }
      if !s.tested && p.shell.status ≠ 0 then takeFailure e
    if hasOption p 'e' && !s.tested && p.shell.status ≠ 0 then throw (.exit p.shell.status)
  if s.last then throw (.exit p.shell.status)

end GuardCost.Shell
