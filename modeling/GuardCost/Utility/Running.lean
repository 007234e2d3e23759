/-
GuardCost/Utility/Running.lean

Utilities that run other programs.
-/
import GuardCost.Machine.ExitStatus
import GuardCost.Utility.Plain

namespace GuardCost.Utility

open Process

/-! ### Running -/

/-- Go on as another program; what was gathered is written before. -/
def goOn (runner : Runner) (words : List String) (onFailure : SystemError → Doing Nat) :
    Doing Nat := do
  flush
  let cause ← becomeFound runner words
  onFailure cause

/-- The exit code of a utility that cannot start a program. -/
def startCode (cause : SystemError) : Nat := if cause = .notFound then 127 else 126

/-- The end of a program as the end of the utility that ran it. -/
def codeOfRun : Flow → Nat
  | .killed signal => 128 + signal
  | .exit code => code
  | _ => 0

/-! ### Environments -/

/-- Whether a word sets a variable. -/
def isSetting (a : String) : Bool := a.toList.contains '='

/-- Set an exported variable. -/
def exportVariable (name value : String) : Doing Unit :=
  modify fun p => p.setVariable name (some { value? := some value, exported := true })

/-- Change the environment, and go on as a program in it or show it. -/
def withEnvironment : Tool := fun runner arguments => do
  let known := [switch 'i' "ignore-environment", valued 'u' "unset", valued 'C' "chdir",
    valued 'S' "split-string", switch '0' "null", switch 'v' "debug"]
  let line ← parse known false 125 arguments
  let split := (line.values "S").flatMap fun s =>
    ((partsAt ' ' s.toList).filter (!·.isEmpty)).map String.ofList
  let operands := split ++ line.operands
  let empty := line.has "i" || operands.head? == some "-"
  let operands := if operands.head? == some "-" then operands.tail else operands
  if empty then modify fun p => { p with bindings := [] }
  (line.values "u").forM fun name => modify fun p => p.setVariable name none
  let settings := operands.takeWhile isSetting
  settings.forM fun a =>
    match splitFirst? '=' a.toList with
    | some (name, value) => exportVariable (String.ofList name) (String.ofList value)
    | none => return ()
  let words := operands.drop settings.length
  match line.value? "C" with
  | none => pure ()
  | some dir =>
    let p ← get
    match p.machine.files.find p.directory (pathOf dir) with
    | .ok (place, .directory _) => set { p with directory := place }
    | .ok _ => fatal 125 ("cannot change directory to " ++ quoteForShell dir ++ ": Not a directory")
    | .error cause =>
      fatal 125 ("cannot change directory to " ++ quoteForShell dir ++ ": " ++ cause.plainMessage)
  if words.isEmpty then
    let ending := if line.has "0" then "\x00" else "\n"
    (← get).environment.reverse.forM fun (name, value) => emit (name ++ "=" ++ value ++ ending)
    return 0
  else
    goOn runner words fun cause => do
      complain (quoteForShell (words.headD "") ++ ": " ++ cause.plainMessage)
      return startCode cause

/-- Write variables of the environment. -/
def writeEnvironment : Tool := fun _ arguments => do
  let line ← parse [switch '0' "null"] false 2 arguments
  let ending := if line.has "0" then "\x00" else "\n"
  let environment := (← get).environment.reverse
  if line.operands.isEmpty then
    environment.forM fun (name, value) => emit (name ++ "=" ++ value ++ ending)
    return 0
  else
    let found ← line.operands.mapM fun name => do
      match environment.lookup name with
      | some value =>
        emit (value ++ ending)
        return true
      | none => return false
    return if found.all id then 0 else 1

/-! ### Limits -/

/-- The number of a signal, given as a number or by its name. -/
def signalOf? (s : String) : Option Nat :=
  match natural? s with
  | some n => if n ≤ 64 then some n else none
  | none =>
    let name := s.toUpper
    (List.range 32).find? fun n =>
      signalName? n == some name || signalName? n == some ("SIG" ++ name)

/-- Run a program for a limited time. -/
def withTimeLimit : Tool := fun runner arguments => do
  let known := [valued 's' "signal", valued 'k' "kill-after", switch 'v' "verbose",
    named "foreground" .nothing, named "preserve-status" .nothing]
  let line ← parse known false 125 arguments
  match line.operands with
  | limit :: word :: words =>
    let signal ← match line.value? "s" with
      | none => pure 15
      | some s =>
        match signalOf? s with
        | some n => pure n
        | none => misuse 125 (quoteWord s ++ ": invalid signal")
    let time ← match duration? limit with
      | some n => pure n
      | none => misuse 125 ("invalid time interval " ++ quoteWord limit)
    let p ← get
    let start := p.machine.clock
    let number := p.machine.nextProcess
    let due := start + time
    let alarm := { time := due, process := number, number := signal : Signal }
    let second := match (line.value? "k").bind duration? with
      | some after => [{ time := due + after, process := number, number := 9 : Signal }]
      | none => []
    if time > 0 then
      set { p with machine.signals := p.machine.signals ++ alarm :: second }
    match ← spawn runner (word :: words) with
    | .error cause =>
      modify fun p => { p with
        machine.signals := p.machine.signals.filter fun s => s.process != number }
      complain ("failed to run command " ++ quoteForShell word ++ ": " ++ cause.plainMessage)
      return startCode cause
    | .ok flow =>
      let q ← get
      let rung := q.machine.clock ≥ due && time > 0
      set { q with machine.signals := q.machine.signals.filter fun s => s.process != number }
      if rung then
        if line.has "v" then
          complain ("sending signal "
            ++ String.ofList (((signalName? signal).getD "").toList.drop 3)
            ++ " to command " ++ quoteForShell word)
        if signal = 9 && !line.has "preserve-status" then throw (.killed 9)
        if line.has "preserve-status" || flow = .killed 9 then return codeOfRun flow
        return 124
      else
        match flow with
        | .killed n => throw (.killed n)
        | _ => return codeOfRun flow
  | _ =>
    pointToHelp
    return 125

/-- Go on as a program that a signal for the end of the terminal does not
end. -/
def withoutHangup : Tool := fun runner arguments => do
  let line ← parse [] false 125 arguments
  match line.operands with
  | [] => missingOperand 125 []
  | words =>
    modify fun p => { p with ignored := 1 :: p.ignored }
    goOn runner words fun cause => do
      complain ("failed to run command " ++ quoteForShell (words.headD "") ++ ": "
        ++ cause.plainMessage)
      return startCode cause

/-- Go on as a program; options are without effect. -/
def passOn (known : List Known) (usual? : Option String) : Tool := fun runner arguments => do
  let line ← parse known false 125 arguments
  match line.operands with
  | [] =>
    match usual? with
    | some text =>
      emitLine text
      return 0
    | none => missingOperand 125 []
  | words =>
    goOn runner words fun cause => do
      complain (quoteForShell (words.headD "") ++ ": " ++ cause.plainMessage)
      return startCode cause

/-- Write where programs are. -/
def writePlaces : Tool := fun _ arguments => do
  let p ← get
  let all := arguments.head? == some "-a"
  let names := if all then arguments.tail else arguments
  let canRun := fun file : Path =>
    match p.machine.files.find p.directory file with
    | .ok (_, .file _ rights _) => rights.isRunnable
    | _ => false
  let found ← names.mapM fun name => do
    let files :=
      if name.toList.contains '/' then [pathOf name]
      else candidates (pathOfProcess p) (Bytes.narrow name)
    let hits := files.filter canRun
    (if all then hits else hits.take 1).forM fun file => emitLine (Bytes.widen file.bytes)
    return !hits.isEmpty
  return if !names.isEmpty && found.all id then 0 else 1

/-! ### Words from the input -/

/-- The words of an input, as a shell would quote them. -/
def inputWords (allowance : Nat) (cs : List Char) : List String :=
  match allowance with
  | 0 => []
  | n + 1 =>
    match cs.dropWhile fun c => c == ' ' || c == '\t' || c == '\n' with
    | [] => []
    | cs =>
      let (word, rest) := takeWord cs.length cs
      String.ofList word :: inputWords n rest
where
  takeWord (allowance : Nat) (cs : List Char) : List Char × List Char :=
    match allowance, cs with
    | 0, _ => ([], [])
    | _, [] => ([], [])
    | n + 1, '\\' :: c :: rest =>
      let (word, rest) := takeWord n rest
      (c :: word, rest)
    | n + 1, c :: rest =>
      if c == ' ' || c == '\t' || c == '\n' then ([], c :: rest)
      else if c == '\'' || c == '"' then
        let inner := rest.takeWhile (· != c)
        let (word, after) := takeWord n (rest.drop (inner.length + 1))
        (inner ++ word, after)
      else
        let (word, rest) := takeWord n rest
        (c :: word, rest)

/-- Put a text in place of every occurrence of a part. -/
def replaceAll (part new : List Char) (allowance : Nat) (cs : List Char) : List Char :=
  match allowance, cs with
  | 0, cs => cs
  | _, [] => []
  | n + 1, c :: rest =>
    if !part.isEmpty && part.isPrefixOf (c :: rest) then
      new ++ replaceAll part new n ((c :: rest).drop part.length)
    else c :: replaceAll part new n rest

/-- Words in groups of a size. -/
def groupsOf (size : Nat) (allowance : Nat) (words : List String) : List (List String) :=
  match allowance with
  | 0 => []
  | n + 1 => if words.isEmpty then [] else words.take size :: groupsOf size n (words.drop size)

/-- Run a program for the words of the input. -/
def runForWords : Tool := fun runner arguments => do
  let known := [switch '0' "null", valued 'n' "max-args", valued 'L' "max-lines",
    valued 'I' "replace", switch 'r' "no-run-if-empty", switch 't' "verbose",
    valued 'P' "max-procs", valued 'd' "delimiter", valued 'a' "arg-file", switch 'x' "exit",
    valued 's' "max-chars", valued 'E' "eof"]
  let line ← parse known false 1 arguments
  let command := if line.operands.isEmpty then ["echo"] else line.operands
  let input ← match line.value? "a" with
    | some file =>
      match ← readFile file with
      | .ok text => pure text
      | .error cause => fatal 1 ("Cannot open input file " ++ quoteForShell file ++ ": "
          ++ cause.plainMessage)
    | none => readAll 0
  let cut := fun (c : Char) =>
    let parts := (partsAt c input.toList).map String.ofList
    if parts.getLast? == some "" then parts.dropLast else parts
  let byLines := line.has "L" || line.has "I"
  let words :=
    if line.has "0" then cut '\x00'
    else match line.value? "d" with
      | some d => cut (if d == "\\n" then '\n' else if d == "\\0" then '\x00' else d.toList.headD '\n')
      | none =>
        if line.has "I" then
          ((bareLines input).map fun l => String.ofList (l.toList.dropWhile fun c =>
            c == ' ' || c == '\t')).filter (!·.isEmpty)
        else if byLines then (bareLines input).filter (!·.isEmpty)
        else inputWords (input.length + 1) input.toList
  let calls : List (List String) :=
    match line.value? "I" with
    | some mark =>
      words.map fun w => command.map fun a =>
        String.ofList (replaceAll mark.toList w.toList (a.length + 1) a.toList)
    | none =>
      let size := ((line.value? "n").bind natural?).getD (max words.length 1)
      if line.has "L" then
        let size := ((line.value? "L").bind natural?).getD 1
        (groupsOf size (words.length + 1) words).map fun ls =>
          command ++ ls.flatMap fun l => inputWords (l.length + 1) l.toList
      else if words.isEmpty then (if line.has "r" then [] else [command])
      else (groupsOf (max size 1) (words.length + 1) words).map (command ++ ·)
  runAll runner (line.has "t") 0 calls
where
  runAll (runner : Runner) (shown : Bool) (code : Nat) : List (List String) → Doing Nat
    | [] => return code
    | words :: rest => do
      if shown then putError (" ".intercalate words ++ "\n")
      let (silence, machine) := (← get).machine.addChannel { target := .device .null }
      modify fun p => { p with machine }
      let before ← get
      modify fun p => p.point 0 (some silence)
      let result ← spawn runner words
      modify fun p => p.point 0 (before.channelNumber? 0)
      match result with
      | .error cause =>
        complain (words.headD "" ++ ": " ++ cause.plainMessage)
        return startCode cause
      | .ok (.killed signal) =>
        complain (words.headD "" ++ ": terminated by signal " ++ toString signal)
        return 125
      | .ok flow =>
        let result := codeOfRun flow
        if result = 255 then
          complain (words.headD "" ++ ": exited with status 255; aborting")
          return 124
        else runAll runner shown (if result = 0 then code else 123) rest

/-! ### Signals -/

/-- Send a signal to processes. -/
def sendSignal : Tool := fun _ arguments => do
  match arguments with
  | "-l" :: asked =>
    for word in asked do
      let name? := match natural? word with
        | some n => (signalName? (if n > 128 then n - 128 else n)).map fun name =>
            String.ofList (name.toList.drop 3)
        | none => (signalOf? word).map toString
      match name? with
      | some name => emitLine name
      | none => fatal 1 ("unknown signal name " ++ word)
    quit 0
  | [] => quit 1
  | _ => pure ()
  let (signal?, targets) := match arguments with
    | "-s" :: name :: rest => (signalOf? name, rest)
    | a :: rest =>
      match a.toList with
      | '-' :: name => (signalOf? (String.ofList name), rest)
      | _ => (some 15, a :: rest)
    | [] => (some 15, [])
  match signal? with
  | none => fatal 1 "unknown signal"
  | some signal =>
    let sent ← targets.mapM fun target => do
      let p ← get
      match natural? target with
      | none => fatal 1 ("failed to parse argument: " ++ quoteWord target)
      | some number =>
        if number < p.machine.nextProcess && number ≥ 1000 then
          let sent : Signal := { time := p.machine.clock, process := number, number := signal }
          if signal ≠ 0 then set { p with machine := p.machine.send sent }
          return true
        else
          complain ("(" ++ target ++ "): No such process")
          return false
    takeSignals (fun _ _ => none) 8
    return if sent.all id then 0 else 1

end GuardCost.Utility
