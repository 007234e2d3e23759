/-
GuardCost/Shell/Builtin/Extended.lean

The builtins of the extended dialect that differ from those of the plain one,
or that only it has.  None of their failures ends the shell.
-/
import GuardCost.Shell.Builtin.Control
import GuardCost.Shell.Builtin.Files
import GuardCost.Shell.Builtin.Reading
import GuardCost.Shell.Builtin.Signals
import GuardCost.Shell.Examination
import GuardCost.Shell.Printing

namespace GuardCost.Shell.Builtin

open Process

/-! ### Texts -/

/-- Write a text. -/
def writeText : Action := fun arguments => do
  put (Printing.extendedEcho arguments)
  return 0

/-- Write values as a format says, or give a variable what would be written. -/
def formatText : Action := fun arguments => do
  let (destination?, rest) := match arguments with
    | "-v" :: name :: rest => (some name, rest)
    | "--" :: rest => (none, rest)
    | rest => (none, rest)
  match rest with
  | [] =>
    putError "printf: usage: printf [-v var] format [arguments]\n"
    return 2
  | format :: values =>
    let printed := Printing.printf .extended format values
    printed.complaints.reverse.forM complainAt
    match destination? with
    | some name => ({ Assigned.ofText name with value? := some printed.text } : Assigned).carryOut
    | none => put printed.text
    match printed.fatal? with
    | some message => refuse 1 message
    | none => return if printed.complaints.isEmpty then 0 else 1

/-- See whether a condition holds. -/
def examine : Action := fun words => do
  match Examination.verdict (← get) words with
  | .ok b => return if b then 0 else 1
  | .error message => refuse 2 message

/-- See whether a condition between brackets holds. -/
def examineBetweenBrackets : Action := fun words => do
  if words.getLast? == some "]" then examine words.dropLast else refuse 2 "missing \x60]'"

/-! ### Directories -/

/-- Why a directory cannot be gone to. -/
def directoryFault (p : Process) (target : String) : String :=
  match p.machine.files.find p.directory (pathOf target) with
  | .ok _ => "Not a directory"
  | .error cause => cause.plainMessage

/-- How the directory is changed. -/
def directoryUsage : String := "cd: usage: cd [-L|[-P [-e]] [-@]] [dir]"

/-- Change the directory. -/
def enterDirectory : Action := fun arguments =>
  withOptions ['L', 'P', 'e', '@'] [] directoryUsage arguments fun options rest => do
    let physical := (options.getLast?.map (·.1)) == some 'P' || hasOption (← get) 'P'
    let p ← get
    let enter := fun (target : String) (shows : Bool) => do
      let (path, elsewhere) := findTarget p target
      if ← goTo physical path then
        if shows || elsewhere then put ((← get).shell.here ++ "\n")
        return 0
      else refuse 1 (target ++ ": " ++ directoryFault p path)
    match rest with
    | [] =>
      match p.value? "HOME" with
      | some home => if home.isEmpty then return 0 else enter home false
      | none => refuse 1 "HOME not set"
    | ["-"] =>
      match p.value? "OLDPWD" with
      | some old => enter old true
      | none => refuse 1 "OLDPWD not set"
    | [target] => if target.isEmpty then return 0 else enter target false
    | _ => refuse 1 "too many arguments"

/-- The directories that were put aside, with the current one in front. -/
def directoryStack (p : Process) : List String :=
  p.shell.here :: (elementsOf p "DIRSTACK").values

/-- A directory as it is listed. -/
def listedDirectory (p : Process) (dir : String) : String :=
  match p.value? "HOME" with
  | some home =>
    if dir == home then "~"
    else if home.length > 1 && (home ++ "/").toList.isPrefixOf dir.toList then
      "~" ++ String.ofList (dir.toList.drop home.length)
    else dir
  | none => dir

/-- Write the directories that were put aside. -/
def listDirectories : Action := fun arguments => do
  let p ← get
  let dirs := (directoryStack p).map fun dir =>
    if arguments.contains "-l" then dir else listedDirectory p dir
  if arguments.contains "-c" then
    setElements "DIRSTACK" {}
    return 0
  if arguments.contains "-v" then
    put (String.join (dirs.zipIdx.map fun (dir, i) => " " ++ toString i ++ "  " ++ dir ++ "\n"))
  else put ((if arguments.contains "-p" then "\n" else " ").intercalate dirs ++ "\n")
  return 0

/-- Go to a directory and put the current one aside, or change places with the
one that was put aside last. -/
def pushDirectory : Action := fun arguments => do
  let p ← get
  let aside := (directoryStack p).tail
  match arguments, aside with
  | [], [] => refuse 1 "no other directory"
  | [], target :: rest =>
    if ← goTo false target then
      setElements "DIRSTACK" (.ofList (p.shell.here :: rest))
      listDirectories []
    else refuse 1 (target ++ ": " ++ directoryFault p target)
  | target :: _, aside =>
    if ← goTo false target then
      setElements "DIRSTACK" (.ofList (p.shell.here :: aside))
      listDirectories []
    else refuse 1 (target ++ ": " ++ directoryFault p target)

/-- Go back to the directory that was put aside last. -/
def popDirectory : Action := fun _ => do
  match (directoryStack (← get)).tail with
  | [] => refuse 1 "directory stack empty"
  | target :: rest =>
    let _ ← goTo false target
    setElements "DIRSTACK" (.ofList rest)
    listDirectories []

/-- Show or change the rights that new files do not get. -/
def changeNewRights : Action := fun arguments =>
  withOptions ['S', 'p'] [] "umask: usage: umask [-p] [-S] [mode]" arguments fun options rest => do
    let p ← get
    match rest with
    | [] =>
      let text := if isGiven options 'S' then maskText p.mask else Rights.octal p.mask 4
      let lead := if !isGiven options 'p' then ""
        else if isGiven options 'S' then "umask -S " else "umask "
      put (lead ++ text ++ "\n")
      return 0
    | a :: _ =>
      if a.toList.head?.any Char.isDigit then
        match Rights.ofOctal? a.toList with
        | some mask =>
          if mask < 0o10000 then
            set { p with mask := mask % 0o1000 }
            return 0
          else refuse 1 (a ++ ": octal number out of range")
        | none => refuse 1 (a ++ ": octal number out of range")
      else match Rights.change? false 0 (0o777 - p.mask) a with
        | some left =>
          set { p with mask := 0o777 - left % 0o1000 }
          return 0
        | none =>
          let bad := (a.toList.filter fun c => !(['u', 'g', 'o', 'a'].contains c)).headD ' '
          refuse 1 ("\x60" ++ bad.toString ++ "': invalid symbolic mode operator")

/-! ### Leaving -/

/-- A whole number that a text writes. -/
def integerOf? (s : String) : Option Int :=
  let cs := Arithmetic.dropSpace s.toList
  let (negative, ds) := match cs with
    | '-' :: ds => (true, ds)
    | '+' :: ds => (false, ds)
    | ds => (false, ds)
  let n := Arithmetic.ofDigits 10 ds
  if ds.isEmpty || !ds.all Char.isDigit || n > Arithmetic.greatest then none
  else some (if negative then -(n : Int) else n)

/-- Leave loops by some way. -/
def leaveBy (way : Nat → Flow) : Action := fun arguments => do
  let p ← get
  if p.shell.loops = 0 then
    refuse 0 "only meaningful in a \x60for', \x60while', or \x60until' loop"
  else match arguments with
    | [] => throw (way 1)
    | [a] =>
      match integerOf? a with
      | some n =>
        if n < 1 then
          complainAt (a ++ ": loop count out of range")
          setStatus 1
          throw (.leave p.shell.loops)
        else
          setStatus 0
          throw (way (min n.toNat p.shell.loops))
      | none =>
        complainAt (a ++ ": numeric argument required")
        throw (.exit 128)
    | _ => raise "too many arguments"

/-- Leave a function or a script. -/
def returnWith : Action := fun arguments => do
  let p ← get
  let goBack := fun (code : Nat) => do
    if p.shell.functionDepth = 0 && p.shell.sources.isEmpty then
      refuse 2 "can only \x60return' from a function or sourced script"
    else
      setStatus code
      throw .back
  match arguments with
  | [] => goBack p.shell.status
  | [a] =>
    match integerOf? a with
    | some n => goBack (n % 256).toNat
    | none =>
      complainAt (a ++ ": numeric argument required")
      goBack 2
  | _ => refuse 1 "too many arguments"

/-- End the shell. -/
def exitWith : Action := fun arguments => do
  let shell := (← get).shell
  match arguments with
  | [] => throw (.exit ((shell.trapStatus?.getD shell.status) % 256))
  | a :: rest =>
    match integerOf? a with
    | none =>
      complainAt (a ++ ": numeric argument required")
      throw (.exit 2)
    | some n => if rest.isEmpty then throw (.exit (n % 256).toNat) else raise "too many arguments"

/-- Drop arguments. -/
def shiftBy : Action := fun arguments => do
  let p ← get
  let drop := fun (n : Int) (a : String) => do
    if n < 0 then refuse 1 (a ++ ": shift count out of range")
    else if p.arguments.length < n.toNat then return 1
    else
      modify fun p => { p with arguments := p.arguments.drop n.toNat }
      return 0
  match arguments with
  | [] => drop 1 "1"
  | a :: _ =>
    match integerOf? a with
    | some n => drop n a
    | none => refuse 1 (a ++ ": numeric argument required")

/-! ### Scripts and programs -/

/-- Carry out a text as a part of the script that has a name of its own. -/
def carryOutAs (e : Engine) (name text : String) : Doing Nat := do
  let before ← get
  set { before with
    shell.sources := name :: before.shell.sources
    shell.speaker? := none
    shell.line := 1 }
  let flow? ← tryCatch (do
    e.execText {} text
    return none) (fun flow => return some flow)
  modify fun p => { p with shell.sources := before.shell.sources }
  match flow? with
  | none => return (← get).shell.status
  | some .back => return (← get).shell.status
  | some flow => throw flow

/-- The file that a script names: along the search path, or in the current
directory. -/
def scriptFile? (p : Process) (name : String) : Option String :=
  let isText := fun file : Path => p.machine.files.isFile p.directory file
  if name.toList.contains '/' then some name
  else
    let found := (candidates (pathOfProcess p) (Bytes.narrow name)).find? isText
    match found with
    | some file => some (Bytes.widen file.bytes)
    | none => if (p.machine.files.find p.directory (pathOf name)).toBool then some name else none

/-- Carry out a file as part of the script. -/
def carryOutSource (e : Engine) (command : String) : Action := fun arguments => do
  match arguments with
  | [] =>
    let _ ← refuse 2 "filename argument required"
    putError (command ++ ": usage: " ++ command ++ " filename [arguments]\n")
    return 2
  | name :: given =>
    let p ← get
    let missing := fun (cause : String) => do
      modify fun p => { p with shell.speaker? := none }
      refuse 1 (name ++ ": " ++ cause)
    match scriptFile? p name with
    | none => missing "No such file or directory"
    | some file =>
      if isDirectory p file then refuse 1 (name ++ ": is a directory")
      else
        let opened := readingChannel p.world file
        match opened with
        | .error cause => missing cause.plainMessage
        | .ok (.inr descriptor) => carryOutAs e name (← readAll descriptor)
        | .ok (.inl _) =>
          match scriptText p file with
          | .error cause => missing cause.plainMessage
          | .ok text =>
            if given.isEmpty then carryOutAs e name text
            else
              modify fun p => { p with arguments := given }
              let code ← carryOutAs e name text
              modify fun q => { q with arguments := p.arguments }
              return code

/-- Carry out the arguments as a script. -/
def evaluateText (e : Engine) (s : Setting) : Action := fun arguments => do
  if arguments.isEmpty then return 0
  else
    e.execText { tested := s.tested } (" ".intercalate arguments)
    return (← get).shell.status

/-- A path without the current directory left out. -/
def fullPath (p : Process) (name : String) : String :=
  match name.toList with
  | '/' :: _ => name
  | '.' :: '/' :: rest => p.shell.here ++ "/" ++ String.ofList rest
  | cs => p.shell.here ++ "/" ++ String.ofList cs

/-- Say why the shell cannot go on as a program. -/
def reportExec (name : String) (cause : SystemError) : Doing Unit := do
  if name.toList.contains '/' then
    let p ← get
    let path := fullPath p name
    let reason := extendedMissingText p name cause
    set { p with shell.speaker? := none }
    complainAt (path ++ ": " ++ reason)
    modify fun q => { q with shell.speaker? := p.shell.speaker? }
    if startFailure cause = 126 then complainAt (path ++ ": cannot execute: " ++ reason)
  else reportStart name cause

/-- Go on as the program that the arguments name. -/
def execProgram (e : Engine) : Action := fun arguments => do
  let rest := match arguments with
    | "-a" :: _ :: rest => rest
    | "-c" :: rest => rest
    | "--" :: rest => rest
    | rest => rest
  if !rest.isEmpty then
    goOnOr reportExec e (pathOfProcess (← get)) rest
  return 0

/-! ### Names -/

/-- Tell what one name stands for; `kind` and `path` ask for one word or for
the path of a program only. -/
def tellOne (kind path all : Bool) (name : String) : Doing Nat := do
  let p ← get
  let say := fun (short long : String) => do
    if !path then put ((if kind then short else name ++ long) ++ "\n")
    return 0
  let places := ((candidates (pathOfProcess p) (Bytes.narrow name)).filter fun file =>
    canRun p (Bytes.widen file.bytes) && !isDirectory p (Bytes.widen file.bytes)).map
      fun file => Bytes.widen file.bytes
  let sayFile := fun (file : String) =>
    put ((if kind then "file" else if path then file else name ++ " is " ++ file) ++ "\n")
  if (keywordsOf .extended).contains name then say "keyword" " is a shell keyword"
  else
    match meaningOf p true (pathOfProcess p) name with
    | .function _ => say "function" " is a function"
    | .builtin _ =>
      let code ← say "builtin" " is a shell builtin"
      if all then places.forM sayFile
      return code
    | .program file =>
      if !name.toList.contains '/' || (canRun p name && !isDirectory p name) then
        if all && !places.isEmpty then places.forM sayFile else sayFile file
        return 0
      else if kind || path then return 1
      else refuse 1 (name ++ ": not found")
    | .missing _ => if kind || path then return 1 else refuse 1 (name ++ ": not found")

/-- Tell what names stand for. -/
def tellKinds : Action := fun arguments =>
  withOptions ['a', 'f', 't', 'p', 'P'] [] "type: usage: type [-afptP] name [name ...]" arguments
    fun options names => do
      let codes ← names.mapM fun name => do
        let p ← get
        if isGiven options 'P' then
          match findProgram p (pathOfProcess p) name with
          | .ok file =>
            put (Bytes.widen file.bytes ++ "\n")
            return 0
          | .error _ => return 1
        else tellOne (isGiven options 't') (isGiven options 'p') (isGiven options 'a') name
      return codes.foldl max 0

/-- Tell what commands are. -/
def describeCommands : Action := fun arguments =>
  withOptions ['p', 'v', 'V'] [] "command: usage: command [-pVv] command [arg ...]" arguments
    fun options names => do
      let codes ← names.mapM fun name => do
        let p ← get
        if isGiven options 'V' then tellOne false false false name
        else if isGiven options 'v' then
          match meaningOf p true (pathOfProcess p) name with
          | .program file =>
            if !name.toList.contains '/' || (canRun p name && !isDirectory p name) then
              put (file ++ "\n")
              return 0
            else return 1
          | .missing _ =>
            if (keywordsOf .extended).contains name then
              put (name ++ "\n")
              return 0
            else return 1
          | _ =>
            put (name ++ "\n")
            return 0
        else return 0
      return if codes.isEmpty || codes.contains 0 then 0 else 1

/-- Remember where programs are; here this only tells whether they are
there. -/
def rememberPlaces : Action := fun arguments => do
  let p ← get
  let findAll := fun (names : List String) (shows : Bool) => do
    let codes ← names.mapM fun name => do
      match findProgram p (pathOfProcess p) name with
      | .ok file =>
        if shows then put (Bytes.widen file.bytes ++ "\n")
        return 0
      | .error _ => refuse 1 (name ++ ": not found")
    return codes.foldl max 0
  match arguments with
  | [] =>
    put "hash: hash table empty\n"
    return 0
  | "-r" :: _ => return 0
  | "-d" :: _ => return 0
  | "-t" :: names => findAll names true
  | names => findAll names false

/-- Set or show aliases. -/
def nameAliases : Action := fun arguments => do
  let line := fun (name value : String) => "alias " ++ name ++ "=" ++ Reshaping.quoted value ++ "\n"
  if arguments.isEmpty then
    let aliases := (← get).shell.aliases.mergeSort fun a b => !decide (b.1 < a.1)
    put (String.join (aliases.map fun (name, value) => line name value))
    return 0
  else
    let codes ← arguments.mapM fun a => do
      match splitAssignment a with
      | (_, some _) => setAlias a
      | (name, none) =>
        match (← get).shell.aliases.lookup name with
        | some value =>
          put (line name value)
          return 0
        | none => refuse 1 (name ++ ": not found")
    return codes.foldl max 0

/-- Take aliases away. -/
def unnameAliases : Action := fun arguments => do
  if arguments.contains "-a" then
    modify fun p => { p with shell.aliases := [] }
    return 0
  else
    let codes ← arguments.mapM fun name => do
      let p ← get
      if (p.shell.aliases.lookup name).isSome then
        set { p with shell.aliases := p.shell.aliases.filter fun entry => entry.1 != name }
        return 0
      else refuse 1 (name ++ ": not found")
    return codes.foldl max 0

/-! ### Options -/

/-- The options by their names, with their letters if they have one. -/
def extendedOptionNames : List (String × Option Char) :=
  [("allexport", some 'a'), ("braceexpand", some 'B'), ("emacs", none), ("errexit", some 'e'),
    ("errtrace", some 'E'), ("functrace", some 'T'), ("hashall", some 'h'),
    ("histexpand", some 'H'), ("history", none), ("ignoreeof", none),
    ("interactive-comments", none), ("keyword", some 'k'), ("monitor", some 'm'),
    ("noclobber", some 'C'), ("noexec", some 'n'), ("noglob", some 'f'), ("nolog", none),
    ("notify", some 'b'), ("nounset", some 'u'), ("onecmd", some 't'), ("physical", some 'P'),
    ("pipefail", none), ("posix", none), ("privileged", some 'p'), ("verbose", some 'v'),
    ("vi", none), ("xtrace", some 'x')]

/-- Whether an option is on. -/
def isOptionOn (p : Process) (name : String) (letter? : Option Char) : Bool :=
  match letter? with
  | some letter => hasOption p letter
  | none => p.shell.settings.contains name

/-- Switch an option that has no letter on or off. -/
def switchSetting (on : Bool) (name : String) : Doing Unit :=
  modify fun p =>
    let others := p.shell.settings.filter (· != name)
    { p with shell.settings := if on then name :: others else others }

/-- A name and whether it is on, as they are listed. -/
def settingLine (name : String) (on : Bool) : String :=
  Text.Conversion.pad { left := true, width := 15 } name ++ "\t" ++ (if on then "on" else "off")
    ++ "\n"

/-- List the options, for people or as commands. -/
def listExtendedOptions (asCommands : Bool) : Doing Unit := do
  let p ← get
  put (String.join (extendedOptionNames.map fun (name, letter?) =>
    let on := isOptionOn p name letter?
    if asCommands then "set " ++ (if on then "-o " else "+o ") ++ name ++ "\n"
    else settingLine name on))

/-- How options are set. -/
def setUsage : String :=
  "set: usage: set [-abefhkmnptuvxBCEHPT] [-o option-name] [--] [-] [arg ...]\n"

/-- Switch options by the letters of a word; what is left of the other words,
or the complaint. -/
def switchExtended (on : Bool) (rest : List String) :
    List Char → Doing (Except String (List String))
  | [] => return .ok rest
  | 'o' :: cs => do
    match rest with
    | [] =>
      listExtendedOptions (!on)
      switchExtended on [] cs
    | name :: rest =>
      match extendedOptionNames.lookup name with
      | some (some letter) =>
        switch on letter
        switchExtended on rest cs
      | some none =>
        switchSetting on name
        switchExtended on rest cs
      | none => return .error (name ++ ": invalid option name")
  | c :: cs => do
    if extendedOptionNames.any fun entry => entry.2 == some c then
      switch on c
      switchExtended on rest cs
    else return .error ((if on then "-" else "+") ++ c.toString ++ ": invalid option")

/-- Set options up to the first word that is none; the other words, if the
arguments are to be replaced. -/
def setOptions (allowance : Nat) (arguments : List String) :
    Doing (Except String (Option (List String))) := do
  match allowance, arguments with
  | n + 1, a :: rest =>
    match a.toList with
    | ['-', '-'] => return .ok (some rest)
    | ['-'] =>
      switch false 'x'
      switch false 'v'
      return .ok (if rest.isEmpty then none else some rest)
    | sign :: c :: cs =>
      if sign == '-' || sign == '+' then
        match ← switchExtended (sign == '-') rest (c :: cs) with
        | .ok rest => setOptions n rest
        | .error message => return .error message
      else return .ok (some arguments)
    | _ => return .ok (some arguments)
  | _, _ => return .ok none

/-- Set options and arguments, or list the variables. -/
def setExtended : Action := fun arguments => do
  if arguments.isEmpty then
    let valued := (sortedVariables (← get)).filter fun entry => entry.2.value?.isSome
    put (String.join (valued.map fun (name, v) =>
      name ++ "=" ++ Reshaping.shown (v.value?.getD "") ++ "\n"))
    return 0
  else
    match ← setOptions (arguments.length + 1) arguments with
    | .ok none => return 0
    | .ok (some rest) =>
      setArguments rest
      return 0
    | .error message =>
      let code ← refuse 2 message
      if !("name".toList.isSuffixOf message.toList) then putError setUsage
      return code

/-- The options that have names only. -/
def settingNames : List String :=
  ["autocd", "assoc_expand_once", "cdable_vars", "cdspell", "checkhash", "checkjobs",
    "checkwinsize", "cmdhist", "compat31", "compat32", "compat40", "compat41", "compat42",
    "compat43", "compat44", "complete_fullquote", "direxpand", "dirspell", "dotglob",
    "execfail", "expand_aliases", "extdebug", "extglob", "extquote", "failglob",
    "force_fignore", "globasciiranges", "globskipdots", "globstar", "gnu_errfmt",
    "histappend", "histreedit", "histverify", "hostcomplete", "huponexit", "inherit_errexit",
    "interactive_comments", "lastpipe", "lithist", "localvar_inherit", "localvar_unset",
    "login_shell", "mailwarn", "no_empty_cmd_completion", "nocaseglob", "nocasematch",
    "noexpand_translation", "nullglob", "patsub_replacement", "progcomp", "progcomp_alias",
    "promptvars", "restricted_shell", "shift_verbose", "sourcepath", "varredir_close",
    "xpg_echo"]

/-- The options with names only that are on at the start. -/
def firstSettings : List String :=
  ["checkwinsize", "cmdhist", "complete_fullquote", "extquote", "force_fignore",
    "globasciiranges", "globskipdots", "hostcomplete", "interactive_comments",
    "patsub_replacement", "progcomp", "promptvars", "sourcepath", "interactive-comments"]

/-- Switch or show options that have names only. -/
def switchSettings : Action := fun arguments =>
  withOptions ['s', 'u', 'q', 'p', 'o'] [] "shopt: usage: shopt [-pqsu] [-o] [optname ...]"
    arguments fun options names => do
      let p ← get
      let isLettered := isGiven options 'o'
      let state := fun (name : String) =>
        if isLettered then isOptionOn p name ((extendedOptionNames.lookup name).getD none)
        else p.shell.settings.contains name
      let known := fun (name : String) =>
        if isLettered then (extendedOptionNames.lookup name).isSome else settingNames.contains name
      let all := if isLettered then extendedOptionNames.map (·.1) else settingNames
      let line := fun (name : String) =>
        if isGiven options 'p' then
          (if isLettered then "set " ++ (if state name then "-o " else "+o ")
            else "shopt " ++ (if state name then "-s " else "-u ")) ++ name ++ "\n"
        else settingLine name (state name)
      let changes := isGiven options 's' || isGiven options 'u'
      if names.isEmpty then
        let wanted := all.filter fun name => !changes || state name == isGiven options 's'
        put (String.join (wanted.map line))
        return 0
      else
        let codes ← names.mapM fun name => do
          if !known name then refuse 1 (name ++ ": invalid shell option name")
          else if changes then
            if isLettered then
              match (extendedOptionNames.lookup name).getD none with
              | some letter => switch (isGiven options 's') letter
              | none => switchSetting (isGiven options 's') name
            else switchSetting (isGiven options 's') name
            return 0
          else
            if !isGiven options 'q' then put (line name)
            return if state name then 0 else 1
        return codes.foldl max 0

/-! ### Signals -/

/-- The events beside signals that a trap can be for. -/
def eventNames : List (String × Nat) := [("DEBUG", 65), ("ERR", 66), ("RETURN", 67)]

/-- The number of a signal or of another event. -/
def eventNumber? (s : String) : Option Nat :=
  let upper := s.toUpper
  let short := if "SIG".toList.isPrefixOf upper.toList then String.ofList (upper.toList.drop 3)
    else upper
  (eventNames.lookup upper) <|> (signalNumber? 0 short)

/-- The name of a signal or of another event. -/
def eventName (n : Nat) : String :=
  match eventNames.find? fun entry => entry.2 == n with
  | some (name, _) => name
  | none => if n = 0 then "EXIT" else "SIG" ++ listedName n

/-- Show traps. -/
def showTraps (isWanted : Nat → Bool) : Doing Nat := do
  let traps := ((← get).shell.traps.filter fun entry => isWanted entry.1).mergeSort
    fun a b => a.1 ≤ b.1
  put (String.join (traps.map fun (n, text) =>
    "trap -- " ++ Reshaping.quoted text ++ " " ++ eventName n ++ "\n"))
  return 0

/-- The signals by their numbers, five in a line. -/
def signalTable : String :=
  let cell := fun (n : Nat) =>
    (if n < 10 then " " else "") ++ toString n ++ ") " ++ eventName n
  let numbers := ((List.range 65).drop 1).filter fun n => n != 32 && n != 33
  String.join (numbers.zipIdx.map fun (n, i) =>
    cell n ++ if i % 5 = 4 || n = 64 then "\n" else "\t")

/-- Set or show traps. -/
def trapEvents : Action := fun arguments => do
  let arrangeFor := fun (action? : Option String) (names : List String) => do
    let codes ← names.mapM fun name => do
      match eventNumber? name with
      | some n =>
        arrange n action?
        return 0
      | none => refuse 1 (name ++ ": invalid signal specification")
    return codes.foldl max 0
  match arguments with
  | [] => showTraps fun _ => true
  | "-l" :: _ =>
    put signalTable
    return 0
  | "-p" :: names =>
    let wanted := names.filterMap eventNumber?
    showTraps fun n => names.isEmpty || wanted.contains n
  | all =>
    let rest := if all.head? == some "--" then all.tail else all
    match rest with
    | [] => return 0
    | [a] => arrangeFor none [a]
    | action :: names =>
      if !action.isEmpty && action.toList.all Char.isDigit then arrangeFor none rest
      else arrangeFor (if action == "-" then none else some action) names

/-- How signals are sent. -/
def killUsage : String :=
  "kill: usage: kill [-s sigspec | -n signum | -sigspec] pid | jobspec ... "
    ++ "or kill -l [sigspec]\n"

/-- Send a signal to one target. -/
def killOne (signal : Nat) (target : String) : Doing Nat := do
  let p ← get
  match target.toList with
  | '%' :: _ =>
    match jobOf? p target with
    | some job => reach job.process
    | none => refuse 1 (target ++ ": no such job")
  | _ =>
    match integerOf? target with
    | some n => if 0 < n then reach n.toNat else refuse 1 ("(" ++ target ++ ") - No such process")
    | none => refuse 1 (target ++ ": arguments must be process or job IDs")
where
  reach (number : Nat) : Doing Nat := do
    let p ← get
    if isRunning p number then
      if signal ≠ 0 then
        set { p with machine := p.machine.send {
          time := p.machine.clock, process := number, number := signal } }
      return 0
    else refuse 1 ("(" ++ toString number ++ ") - No such process")

/-- Send a signal, or list signals. -/
def killTargets : Action := fun arguments => do
  let usage : Doing Nat := do
    putError killUsage
    return 2
  let send := fun (name : String) (targets : List String) => do
    match eventNumber? name with
    | some signal =>
      if targets.isEmpty then usage
      else
        let codes ← targets.mapM (killOne signal)
        return if codes.contains 0 then 0 else 1
    | none => refuse 1 (name ++ ": invalid signal specification")
  match arguments with
  | [] => usage
  | "-l" :: names =>
    if names.isEmpty then
      put signalTable
      return 0
    else
      let codes ← names.mapM fun name => do
        match integerOf? name, eventNumber? name with
        | some n, _ =>
          let n := n.toNat
          let n := if n > 128 then n - 128 else n
          if n < 65 then
            put (listedName n ++ "\n")
            return 0
          else refuse 1 (name ++ ": invalid signal specification")
        | none, some n =>
          put (toString n ++ "\n")
          return 0
        | none, none => refuse 1 (name ++ ": invalid signal specification")
      return codes.foldl max 0
  | "-s" :: rest =>
    match rest with
    | name :: targets => send name targets
    | [] => refuse 1 "-s: option requires an argument"
  | "-n" :: rest =>
    match rest with
    | name :: targets => send name targets
    | [] => refuse 1 "-n: option requires an argument"
  | "--" :: targets => send "TERM" targets
  | a :: rest =>
    match a.toList with
    | '-' :: c :: cs => send (String.ofList (c :: cs)) rest
    | _ => send "TERM" arguments

/-- Wait for jobs. -/
def awaitJobs (e : Engine) : Action := fun arguments => do
  let targets := arguments.filter fun a => a.toList.head? != some '-'
  if targets.isEmpty then
    if arguments.contains "-n" then
      match (← get).shell.jobs.find? fun job => job.ended?.isNone with
      | none => return 127
      | some job =>
        let (code, time) ← carryOut job
        let _ ← waitUntil e time
        return code
    else waitForAll e (← get).shell.jobs
  else awaitEach 127 targets
where
  awaitEach (code : Nat) : List String → Doing Nat
    | [] => return code
    | a :: rest => do
      match jobOf? (← get) a with
      | none =>
        let code ←
          if a.toList.head? == some '%' then refuse 127 (a ++ ": no such job")
          else if (integerOf? a).isNone then
            refuse 1 ("\x60" ++ a ++ "': not a pid or valid job spec")
          else refuse 127 ("pid " ++ a ++ " is not a child of this shell")
        awaitEach code rest
      | some job =>
        let (code, time) ← carryOut job
        match ← waitUntil e time with
        | some signal => return 128 + signal
        | none => awaitEach code rest

/-- Complain that there is no job control. -/
def refuseJobs : Action := fun _ => refuse 1 "no job control"

/-! ### Options of a script -/

/-- Read options. -/
def nextOptions : Action := fun arguments => do
  match arguments with
  | known :: name :: words =>
    if !isName name then refuseName name
    else
      let own := (← get).arguments
      nextOption known.toList name (if words.isEmpty then own else words)
  | _ =>
    putError "getopts: usage: getopts optstring name [arg ...]\n"
    return 2

/-- Tell which command called a function. -/
def showCaller : Action := fun arguments => do
  let p ← get
  match arguments, p.shell.calls with
  | [], [] => put "0 NULL\n"
  | [], _ => put (toString p.shell.line ++ " " ++ p.name ++ "\n")
  | _, [] => return 1
  | _, _ :: rest =>
    put (toString p.shell.line ++ " " ++ rest.headD "main" ++ " " ++ p.name ++ "\n")
  return 0

/-! ### Table -/

/-- What a builtin of the extended dialect does. -/
def extendedAction? (e : Engine) (s : Setting) (name : String) : Option Action :=
  match name with
  | "echo" => some writeText
  | "printf" => some formatText
  | "test" => some examine
  | "[" => some examineBetweenBrackets
  | "cd" => some enterDirectory
  | "dirs" => some listDirectories
  | "pushd" => some pushDirectory
  | "popd" => some popDirectory
  | "umask" => some changeNewRights
  | "break" => some (leaveBy .leave)
  | "continue" => some (leaveBy .again)
  | "return" => some returnWith
  | "exit" => some exitWith
  | "logout" => some fun _ => refuse 1 "not login shell: use \x60exit'"
  | "shift" => some shiftBy
  | "source" => some (carryOutSource e "source")
  | "." => some (carryOutSource e ".")
  | "eval" => some (evaluateText e s)
  | "exec" => some (execProgram e)
  | "type" => some tellKinds
  | "command" => some describeCommands
  | "hash" => some rememberPlaces
  | "alias" => some nameAliases
  | "unalias" => some unnameAliases
  | "declare" => some (declareAll "declare")
  | "typeset" => some (declareAll "typeset")
  | "local" => some (declareAll "local")
  | "export" => some (markNames 'x' (·.exported))
  | "readonly" => some (markNames 'r' (·.readOnly))
  | "unset" => some unsetNames
  | "let" => some evaluateAll
  | "read" => some readInto
  | "mapfile" => some readLines
  | "readarray" => some readLines
  | "set" => some setExtended
  | "shopt" => some switchSettings
  | "trap" => some trapEvents
  | "kill" => some killTargets
  | "wait" => some (awaitJobs e)
  | "fg" => some refuseJobs
  | "bg" => some refuseJobs
  | "getopts" => some nextOptions
  | "caller" => some showCaller
  | "enable" => some fun _ => return 0
  | "disown" => some fun _ => return 0
  | _ => none

end GuardCost.Shell.Builtin
