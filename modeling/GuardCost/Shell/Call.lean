/-
GuardCost/Shell/Call.lean

Carrying out one command.  Its words are expanded first, then its
redirections, then its assignments; so an assignment cannot be seen in the
words, but the next assignment sees it.  An assignment in front of a special
builtin stays, one in front of any other command ends with it.
-/
import GuardCost.Shell.Assigning
import GuardCost.Shell.Builtin

namespace GuardCost.Shell

open Process Builtin

/-! ### Words -/

/-- The words of a command. -/
structure Call where
  texts : List String
  /-- Whether it is called by itself, and not through the builtin that looks
  past functions. -/
  direct : Bool := true
  /-- Where a program is looked for, if not along the usual path. -/
  path? : Option String := none
  /-- The lists that are assigned where the command declares variables. -/
  lists : List ListAssignment := []

/-- Expand words until there is a text, with the words that are left. -/
def fill (run : Script → Doing Unit) : List Word → Doing (List String × List Word)
  | [] => return ([], [])
  | w :: rest => do
    let texts ← expandFields run w
    if texts.isEmpty then fill run rest else return (texts, rest)

/-- Expand the words that are left; assignments are not split into fields
where the command declares variables. -/
def expandRest (run : Script → Doing Unit) (declares : Bool) : List Word → Doing (List String)
  | [] => return []
  | w :: rest => do
    let extended := isExtended (← get)
    let texts ← match (if declares then assignment? extended w else none) with
      | some (.whole name adds value) =>
        pure [name ++ (if adds then "+=" else "=") ++ (← expandValue run value)]
      | _ => expandFields run w
    return texts ++ (← expandRest run declares rest)

/-- Take the lists of values out of words that are assignments. -/
def takeLists : List Word → List Word × List ListAssignment
  | [] => ([], [])
  | w :: rest =>
    let (words, lists) := takeLists rest
    match w with
    | [.text false s, .list items] =>
      match assignment? true [.text false s] with
      | some (.whole name adds _) =>
        ([.text false name] :: words, { name, adds, items } :: lists)
      | _ => (w :: words, lists)
    | w => (w :: words, lists)

/-- What came of reading the options of the builtin that looks past
functions. -/
inductive Passing where
  /-- The builtin itself is called. -/
  | stay (texts : List String) (words : List Word)
  | goOn (path? : Option String) (texts : List String) (words : List Word)

/-- Read the options of the builtin that looks past functions. -/
def passOptions (run : Script → Doing Unit) (allowance : Nat) (read : List String)
    (path? : Option String) (texts : List String) (words : List Word) : Doing Passing :=
  match allowance with
  | 0 => return .stay (read ++ texts) words
  | n + 1 => do
    let (texts, words) ← if texts.isEmpty then fill run words else pure (texts, words)
    match texts with
    | [] => return .stay read words
    | a :: rest =>
      match a.toList with
      | ['-', '-'] => do
        let (more, words) ← if rest.isEmpty then fill run words else pure (rest, words)
        if more.isEmpty then return .stay (read ++ [a]) words else return .goOn path? more words
      | '-' :: c :: cs =>
        if (c :: cs).all (· == 'p') then
          passOptions run n (read ++ [a]) (some standardPath) rest words
        else return .stay (read ++ texts) words
      | _ => return .goOn path? texts words

/-- Expand the words of a command, given the texts that are known. -/
def gatherFrom (run : Script → Doing Unit) (allowance : Nat) (call : Call) (words : List Word) :
    Doing Call := do
  match allowance, call.texts with
  | n + 1, "command" :: texts =>
    let p ← get
    if call.direct && (p.shell.functions.lookup "command").isSome then
      return { call with texts := call.texts ++ (← expandRest run false words) }
    else
      match ← passOptions run (texts.length + words.length + 1) ["command"] none texts words with
      | .stay texts words => return { call with texts := texts ++ (← expandRest run false words) }
      | .goOn path? texts words =>
        gatherFrom run n { texts, direct := false, path? := path? } words
  | _, texts =>
    let declares := (declaringNames (← get).shell.dialect).contains (texts.headD "")
    let (words, lists) := if declares then takeLists words else (words, [])
    return { call with texts := texts ++ (← expandRest run declares words), lists }

/-- Expand the words of a command. -/
def gather (run : Script → Doing Unit) (words : List Word) : Doing Call := do
  let (texts, rest) ← fill run words
  gatherFrom run 100 { texts } rest

/-! ### Assignments -/

/-- Make the assignments in front of a command; they can end with it. -/
def assignAll (run : Script → Doing Unit) (passing exported : Bool)
    (assignments : List Assignment) : Doing (List String) :=
  let keep := fun (name : String) => if passing then keepVariable name else return ()
  let mark := fun (name : String) =>
    if passing || exported then markVariable name fun v => { v with exported := true }
    else return ()
  assignments.mapM (makeAssignment run keep mark)

/-- Write a command down before it is carried out, where an option asks for
it. -/
def trace (stderr? : Option Nat) (assignments texts : List String) : Doing Unit := do
  if isExtended (← get) then
    assignments.forM (showCarriedOut stderr?)
    if !texts.isEmpty then
      showCarriedOut stderr? (" ".intercalate (texts.map Reshaping.shown))
  else showCarriedOut stderr? (" ".intercalate (assignments ++ texts))

/-! ### Functions -/

/-- How many functions can be carried out within each other. -/
def deepest : Nat := 1000

/-- Carry out a function. -/
def callFunction (e : Engine) (s : Setting) (name : String) (body : Script)
    (arguments : List String) : Doing Unit := do
  let before ← get
  if before.shell.functionDepth ≥ deepest then
    raise ("Maximum function recursion depth (" ++ toString deepest ++ ") reached")
  set { before with
    arguments
    shell.loops := 0
    shell.functionDepth := before.shell.functionDepth + 1
    shell.calls := name :: before.shell.calls
    shell.optionIndex := 1
    shell.optionLetters? := none }
  pushFrame
  let flow? ← tryCatch (do
    e.exec { tested := s.tested } body
    return none) (fun flow => return some flow)
  popFrame
  modify fun p => { p with
    arguments := before.arguments
    shell.loops := before.shell.loops
    shell.functionDepth := before.shell.functionDepth
    shell.calls := before.shell.calls
    shell.optionIndex := before.shell.optionIndex
    shell.optionLetters? := before.shell.optionLetters? }
  match flow? with
  | none => return ()
  | some .back => return ()
  | some flow => throw flow

/-! ### Programs -/

/-- Run a program; as the last thing a shell does, it takes its place. -/
def runProgram (e : Engine) (s : Setting) (path : String) (texts : List String) : Doing Unit := do
  let p ← get
  if s.last && !hasTraps p then goOnAs e path texts
  else
    let flow ← fork id do
      pass forkingTime
      goOnAs e path texts
    settleJobs
    conclude flow

/-- Complain that there is no program of a name. -/
def reportMissing (name : String) (cause : SystemError) : Doing Unit := do
  let p ← get
  if isExtended p then
    let isUnknown := cause = .notFound ∨ cause = .notDirectory
    complainAt (name ++ ": " ++
      if !isUnknown then cause.plainMessage
      else if (p.value? "PATH").any (!·.isEmpty) then "command not found"
      else "No such file or directory")
    setStatus (if isUnknown then 127 else 126)
  else
    complainAt (name ++ ": " ++ missingText cause)
    setStatus 127

/-- Carry out a builtin that declares lists: the lists are assigned before
anything is protected. -/
def declareLists (e : Engine) (run : Script → Doing Unit) (s : Setting) (call : Call) :
    Doing Unit := do
  let name := call.texts.headD ""
  let isSwitch := fun (a : String) => a.toList.head? == some '-' && a.length > 1
  let protecting := name == "readonly"
    || call.texts.tail.any fun a => isSwitch a && a.toList.contains 'r'
  let soft := call.texts.tail.filterMap fun a =>
    if isSwitch a && a.toList.contains 'r' then
      let left := a.toList.filter (· != 'r')
      if left.length > 1 then some (String.ofList left) else none
    else some a
  let declaring := if name == "readonly" then "declare" else name
  let soft := if name == "readonly" then "-g" :: soft else soft
  Builtin.run e s false declaring soft
  call.lists.forM (assignList run)
  if protecting then
    Builtin.run e s false "readonly" (call.lists.map (·.name))

/-- Carry out a command by what its name means. -/
def dispatch (e : Engine) (run : Script → Doing Unit) (s : Setting) (call : Call) :
    Doing Unit := do
  let p ← get
  let name := call.texts.headD ""
  let arguments := call.texts.tail
  let path := call.path?.getD (pathOfProcess p)
  match meaningOf p call.direct path name with
  | .function body => callFunction e s name body arguments
  | .builtin name =>
    if call.lists.isEmpty then
      Builtin.run e s (call.direct && specialNames.contains name) name arguments
    else declareLists e run s call
  | .program _ => runProgram e s path call.texts
  | .missing cause => reportMissing name cause

/-! ### Commands -/

/-- How long a command takes that starts no program, in nanoseconds. -/
def stepTime : Nat := 3000

/-- Whether assignments in front of a command end with it. -/
def endsAssignments (p : Process) (call : Call) : Bool :=
  match call.texts with
  | [] => false
  | name :: _ =>
    isExtended p || !(call.direct && specialNames.contains name
      && (p.shell.functions.lookup name).isNone)

/-- Carry out a command. -/
def carryOutCommand (e : Engine) (run : Script → Doing Unit) (s : Setting) (line : Nat)
    (assignments : List Assignment) (words : List Word) (redirects : Redirects) :
    Doing Unit := do
  pass stepTime
  modify fun p => { p with shell.line := line, shell.outputCode := 0 }
  let call ← gather run words
  let before ← get
  let openings ← prepareAll run redirects
  let isExec := call.texts.head? == some "exec"
  let passing := endsAssignments before call
  let body : Doing Unit := do
    if ← openAll openings then
      let assigned ← assignAll run passing (isExec && call.texts.length > 1) assignments
      trace (before.channelNumber? 2) assigned call.texts
      if call.texts.isEmpty then setStatus (← get).shell.outputCode
      else dispatch e run s call
    else if call.direct && specialNames.contains (call.texts.headD "") && !isExtended before then
      throw .failed
  let framed : Doing Unit :=
    if passing && !assignments.isEmpty then do
      pushFrame
      tryFinally body popFrame
    else body
  if redirects.isEmpty || isExec && call.texts.length = 1 then framed
  else restoring redirects framed

end GuardCost.Shell
