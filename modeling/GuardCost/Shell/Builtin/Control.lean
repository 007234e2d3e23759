/-
GuardCost/Shell/Builtin/Control.lean

The builtins that change what is carried out next.
-/
import GuardCost.Shell.Builtin.Names

namespace GuardCost.Shell.Builtin

open Process

/-! ### Leaving -/

/-- The number of loops that the first argument names. -/
def loopCount (arguments : List String) : Doing Nat := do
  let n ← match arguments with
    | [] => pure 1
    | a :: _ => readNumber a
  if n = 0 then raise ("Illegal number: " ++ arguments.headD "")
  else return min n (← get).shell.loops

/-- Leave loops. -/
def leaveLoops : Action := fun arguments => do
  let n ← loopCount arguments
  if n = 0 then return 0
  else
    setStatus 0
    throw (.leave n)

/-- Go on with the next round of a loop. -/
def nextRound : Action := fun arguments => do
  let n ← loopCount arguments
  if n = 0 then return 0
  else
    setStatus 0
    throw (.again n)

/-- Leave a function or a script. -/
def goBack : Action := fun arguments => do
  match arguments with
  | [] => throw .back
  | a :: _ =>
    setStatus (← readNumber a)
    throw .back

/-- End the shell. -/
def endShell : Action := fun arguments => do
  let shell := (← get).shell
  match arguments with
  | [] => throw (.exit ((shell.trapStatus?.getD shell.status) % 256))
  | a :: _ => throw (.exit ((← readNumber a) % 256))

/-! ### Texts as scripts -/

/-- Carry out the arguments as a script. -/
def evaluate (e : Engine) (s : Setting) : Action := fun arguments => do
  if arguments.isEmpty then return 0
  else
    setStatus 0
    e.execText { tested := s.tested } (" ".intercalate arguments)
    return (← get).shell.status

/-- Find the file of a script. -/
def findScript (p : Process) (name : String) : Doing String :=
  if name.toList.contains '/' then return name
  else
    let isText := fun file : Path => p.machine.files.isFile p.directory file
    match (candidates (pathOfProcess p) (Bytes.narrow name)).find? isText with
    | some file => return Bytes.widen file.bytes
    | none => raise (name ++ ": not found")

/-- The content of a script; there is nothing to carry out in a directory. -/
def scriptText (p : Process) (file : String) : Except SystemError String :=
  match p.machine.files.read p.directory (pathOf file) with
  | .ok content => .ok (Bytes.widen content)
  | .error .isDirectory => .ok ""
  | .error cause => .error cause

/-- Carry out a file as part of the script. -/
def carryOutFile (e : Engine) : Action := fun arguments => do
  let (_, rest) ← readOptions [] [] arguments
  match rest with
  | [] => return 0
  | name :: _ =>
    let p ← get
    let file ← findScript p name
    match scriptText p file with
    | .error cause => raise (openMessage (← get).shell.dialect false file cause)
    | .ok text =>
      setStatus 0
      modify fun p => { p with shell.speaker? := some file }
      let flow ← tryCatch (do
        e.execText {} text
        return none) (fun flow => return some flow)
      match flow with
      | none => return (← get).shell.status
      | some .back => return (← get).shell.status
      | some flow => throw flow

/-! ### Programs -/

/-- Load a program for a shell: along the search path every file is tried, and
one that cannot be run is remembered. -/
def loadAlong (shell : String) (w : World) (words : List Bytes) (seen : SystemError) :
    List Path → Except SystemError Loaded
  | [] => .error seen
  | file :: rest =>
    match loadLeniently shell w file words with
    | .ok loaded => .ok loaded
    | .error cause =>
      if cause = .notFound ∨ cause = .notDirectory then loadAlong shell w words seen rest
      else loadAlong shell w words cause rest

/-- The exit code of a shell that cannot start a program. -/
def startFailure (cause : SystemError) : Nat :=
  if [SystemError.linkLoop, .nameTooLong, .notFound, .notDirectory].contains cause then 127
  else 126

/-- Whether a file that is no program is no script either. -/
def isBinaryText (content : Bytes) : Bool :=
  (content.takeWhile (· != 10)).contains 0 || Bytes.startsWith content mark

/-- Say why a shell cannot start a program. -/
def reportStart (name : String) (cause : SystemError) : Doing Unit := do
  let p ← get
  complainAt (name ++ ": " ++
    if isExtended p && name.toList.contains '/' then extendedMissingText p name cause
    else missingText cause)

/-- Go on as a program, or say why that cannot be done. -/
def goOnOr (report : String → SystemError → Doing Unit) (e : Engine) (path : String)
    (texts : List String) : Doing Unit := do
  let p ← get
  let words := texts.map Bytes.narrow
  let name := words.headD []
  let shell := if isExtended p then "bash" else "sh"
  let loaded :=
    if name.contains Bytes.slash then loadLeniently shell p.world ⟨name⟩ words
    else loadAlong shell p.world words .notFound (candidates path name)
  let isBinary := fun (l : Loaded) =>
    isExtended p && l.program == "bash" && l.words != words
      && match l.words with
        | _ :: file :: _ => (p.machine.files.read p.directory ⟨file⟩).toOption.any isBinaryText
        | _ => false
  let checked : Except SystemError Loaded := match loaded with
    | .ok l => if isBinary l then .error .notExecutable else .ok l
    | .error cause => .error cause
  match checked with
  | .ok loaded => become e.runner loaded
  | .error cause =>
    report (texts.headD "") cause
    throw (.exit (startFailure cause))

/-- Go on as a program. -/
def goOnAs (e : Engine) (path : String) (texts : List String) : Doing Unit :=
  goOnOr reportStart e path texts

/-- Go on as the program that the arguments name. -/
def replaceShell (e : Engine) : Action := fun arguments => do
  if !arguments.isEmpty then goOnAs e (pathOfProcess (← get)) arguments
  return 0

/-- Where programs of the system are. -/
def standardPath : String := "/usr/local/sbin:/usr/local/bin:/usr/sbin:/usr/bin:/sbin:/bin"

/-- Tell what a command is. -/
def describeCommand : Action := fun arguments => do
  let (options, names) ← readOptions ['p', 'v', 'V'] [] arguments
  let own := pathOfProcess (← get)
  let path := if isGiven options 'p' then standardPath else own
  match names with
  | name :: _ =>
    if isGiven options 'V' then tell true path name
    else if isGiven options 'v' then tell false path name
    else return 0
  | [] => return 0

/-- How much time was used; here it is always next to nothing. -/
def showTimes : Action := fun _ => do
  put "0m0.000000s 0m0.000000s\n0m0.000000s 0m0.000000s\n"
  return 0

end GuardCost.Shell.Builtin
