/-
GuardCost/Shell/Start.lean

Shells as programs.  A shell is started with a script as a word, as a file or
as its input, and with options in front of it.
-/
import GuardCost.Shell.Launch

namespace GuardCost.Shell

open Process Builtin

/-! ### Variables -/

/-- The path by which a shell knows its directory at its start: the one that
it was told, if it leads there. -/
def startingPath (p : Process) : String :=
  let physical := Bytes.widen p.directory.path.bytes
  match p.value? "PWD" with
  | some told =>
    match p.machine.files.find p.directory (pathOf told) with
    | .ok (place, _) => if told.toList.head? == some '/' && place == p.directory then told else physical
    | .error _ => physical
  | none => physical

/-- Give a variable a value if it has none. -/
def given (p : Process) (name value : String) : Process :=
  if (p.value? name).isSome then p else p.assign name value

/-- The variables that every shell has at its start. -/
def withDefaults (p : Process) : Process :=
  let here := startingPath p
  let p := given (given p "PATH" standardPath) "PS4" "+ "
  let p := ((p.assign "IFS" " \t\n").assign "OPTIND" "1").assign "PPID" (toString p.parent)
  let p := exportAs "PWD" here p
  { p with shell.number := p.number, shell.here := here, shell.line := 0 }

/-- How many shells of the extended dialect are within each other. -/
def shellLevel (p : Process) : Nat := (((p.value? "SHLVL").bind String.toNat?).getD 0) + 1

/-- What a shell has at its start beside the variables that all have. -/
def inDialect (d : Dialect) (p : Process) : Process :=
  match d with
  | .plain => given (given p "PS1" "# ") "PS2" "> "
  | .extended =>
    let p := exportAs "SHLVL" (toString (shellLevel p)) p
    { p with
      shell.dialect := .extended
      shell.options := ['h', 'B']
      shell.settings := firstSettings
      shell.started := p.machine.clock }

/-! ### The plain dialect -/

/-- The script of a shell, and whether the shell ends with it. -/
def findSource (switches : Switches) : Doing (String × Bool) := do
  let p ← get
  if switches.isCommand then
    match switches.rest with
    | [] => raise "-c requires an argument"
    | text :: rest =>
      set { p with name := rest.headD p.name, arguments := rest.tail }
      return (text, !hasOption p 's')
  else if switches.rest.isEmpty || hasOption p 's' then
    set { p with arguments := switches.rest }
    return (← readAll 0, false)
  else
    let file := switches.rest.headD ""
    match scriptText p file with
    | .ok text =>
      set { p with name := file, arguments := switches.rest.tail }
      return (text, false)
    | .error cause => raise (openMessage .plain false file cause)

/-- The script of a shell of the plain dialect, as the words of its command say. -/
def plainSource : Doing (String × Bool) := do
  let arguments := (← get).arguments
  findSource (← switchAll true arguments.length arguments)

/-! ### The extended dialect -/

/-- The options of the extended shell that are words, and whether a value
follows. -/
def wordOptions : List (String × Bool) :=
  ["debug", "debugger", "dump-po-strings", "dump-strings", "help", "login", "noediting",
    "noprofile", "norc", "posix", "pretty-print", "restricted", "verbose", "version"].map (·, false)
    ++ [("init-file", true), ("rcfile", true)]

/-- How the extended shell is called. -/
def extendedUsage : String :=
  String.join (["Usage:\tbash [GNU long option] [option] ...",
    "\tbash [GNU long option] [option] script-file ...", "GNU long options:"].map (· ++ "\n"))
  ++ String.join (((wordOptions.map (·.1)).mergeSort fun a b => decide (a ≤ b)).map fun name =>
    "\t--" ++ name ++ "\n")
  ++ "Shell options:\n\t-ilrsD or -c command or -O shopt_option\t\t(invocation only)\n"
  ++ "\t-abefhkmnptuvxBCEHPT or -o option\n"

/-- Complain about how the shell was called, and end it. -/
def refuseStart {α : Type} (code : Nat) (message : String) : Doing α := do
  putError ((← get).name ++ ": " ++ message ++ "\n")
  throw (.exit code)

/-- Complain about an option, and end the shell. -/
def refuseOption {α : Type} (option : String) : Doing α := do
  putError ((← get).name ++ ": " ++ option ++ ": invalid option\n" ++ extendedUsage)
  throw (.exit 2)

/-- Drop the options that are words. -/
def dropWordOptions (allowance : Nat) (arguments : List String) : Doing (List String) := do
  match allowance, arguments with
  | n + 1, a :: rest =>
    match a.toList with
    | '-' :: c :: cs =>
      let isLong := c == '-' && !cs.isEmpty
      match wordOptions.lookup (String.ofList (if isLong then cs else c :: cs)) with
      | some valued => dropWordOptions n (if valued then rest.tail else rest)
      | none => if isLong then refuseOption a else return arguments
    | _ => return arguments
  | _, _ => return arguments

/-- Carry out the letters of a word of options; what is left of the other words,
and whether a script is one of them. -/
def startLetters (on : Bool) (rest : List String) : List Char → Doing (List String × Bool)
  | [] => return (rest, false)
  | c :: cs => do
    let name := (← get).name
    if c == 'c' then
      switch on 'c'
      let (rest, _) ← startLetters on rest cs
      return (rest, true)
    else if c == 'l' || c == 'D' then startLetters on rest cs
    else if c == 's' then
      switch on 's'
      startLetters on rest cs
    else if c == 'O' then
      match rest with
      | [] =>
        put (String.join (settingNames.map fun name =>
          settingLine name (firstSettings.contains name)))
        startLetters on [] cs
      | setting :: rest =>
        if !settingNames.contains setting then
          refuseStart 2 ("line 0: " ++ setting ++ ": invalid shell option name")
        switchSetting on setting
        startLetters on rest cs
    else
      match ← switchExtended on rest [c] with
      | .ok rest => startLetters on rest cs
      | .error message =>
        if c == 'o' then refuseStart 2 ("line 0: " ++ name ++ ": " ++ message)
        else refuseOption ((if on then "-" else "+") ++ c.toString)

/-- Carry out options up to the first word that is none. -/
def startOptions (allowance : Nat) (arguments : List String) : Doing Switches := do
  match allowance, arguments with
  | n + 1, a :: rest =>
    match a.toList with
    | ['-'] => return { rest, ended := true }
    | ['-', '-'] => return { rest, ended := true }
    | sign :: letters =>
      if sign == '-' || sign == '+' then
        let (rest, isCommand) ← startLetters (sign == '-') rest letters
        let s ← startOptions n rest
        return { s with isCommand := s.isCommand || isCommand }
      else return { rest := arguments }
    | [] => return { rest := arguments }
  | _, _ => return { rest := arguments }

/-- The file of a script: in the current directory, or else along the search
path. -/
def startingFile (p : Process) (name : String) : String :=
  let isThere := (p.machine.files.find p.directory (pathOf name)).toBool
  if isThere || name.toList.contains '/' then name
  else
    let isText := fun file : Path => p.machine.files.isFile p.directory file
    match (candidates (pathOfProcess p) (Bytes.narrow name)).find? isText with
    | some file => Bytes.widen file.bytes
    | none => name

/-- The script of a shell of the extended dialect, as the words of its command
say, and whether the shell ends with it. -/
def extendedSource : Doing (String × Bool) := do
  let arguments := (← get).arguments
  let arguments ← dropWordOptions (arguments.length + 1) arguments
  let switches ← startOptions (arguments.length + 1) arguments
  let p ← get
  if switches.isCommand then
    match switches.rest with
    | [] => refuseStart 2 "-c: option requires an argument"
    | text :: rest =>
      set { p with
        name := rest.headD p.name
        arguments := rest.tail
        shell.givenAsWord := true
        shell.speaker? := some "-c" }
      return (text, true)
  else match switches.rest with
    | [] =>
      switch true 's'
      modify fun p => { p with arguments := [] }
      return (← readAll 0, false)
    | name :: rest =>
      if hasOption p 's' then
        set { p with arguments := switches.rest }
        return (← readAll 0, false)
      else
        let file := startingFile p name
        let refuseFile := fun (code : Nat) (reason : String) => do
          modify fun p => { p with name }
          refuseStart code (name ++ ": " ++ reason)
        if isDirectory p file then refuseFile 126 "Is a directory"
        else match readingChannel p.world file with
          | .error cause => refuseStart 127 (name ++ ": " ++ cause.plainMessage)
          | .ok (.inr descriptor) =>
            set { p with name, arguments := rest }
            return (← readAll descriptor, false)
          | .ok (.inl _) =>
            match p.machine.files.read p.directory (pathOf file) with
            | .error _ => return ("", false)
            | .ok content =>
              if isBinaryText content then refuseFile 126 "cannot execute binary file"
              else
                set { p with name := file, arguments := rest }
                return (Bytes.widen content, false)

/-! ### Running a shell -/

/-- Run a shell. -/
def runShell (d : Dialect) (e : Engine) : Doing Unit := do
  modify fun p => inDialect d (withDefaults p)
  asShell e do
    let (text, last) ← match d with
      | .plain => plainSource
      | .extended => extendedSource
    modify fun p => { p with shell.line := 1 }
    e.execText { last } text

end GuardCost.Shell
