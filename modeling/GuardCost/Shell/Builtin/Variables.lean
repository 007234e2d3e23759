/-
GuardCost/Shell/Builtin/Variables.lean

The builtins that are about variables, arguments and options of the shell.
-/
import GuardCost.Shell.Builtin.Options
import GuardCost.Text.Format

namespace GuardCost.Shell.Builtin

open Process

/-! ### Variables -/

/-- Mark variables, or list those that are marked. -/
def markAll (command : String) (mark : Variable → Variable) (isMarked : Variable → Bool) :
    Action := fun arguments => do
  let (options, names) ← readOptions ['p'] [] arguments
  if !options.isEmpty || names.isEmpty then listVariables command isMarked
  else names.forM (declare mark)
  return 0

/-- Hand variables on to programs. -/
def exportAll : Action :=
  markAll "export" (fun v => { v with exported := true }) (·.exported)

/-- Protect variables. -/
def protectAll : Action :=
  markAll "readonly" (fun v => { v with readOnly := true }) (·.readOnly)

/-- Make variables local to the function; a dash stands for the options. -/
def localAll : Action := fun names => do
  if (← get).shell.functionDepth = 0 then raise "not in a function"
  names.forM fun name =>
    if name == "-" then
      modify fun p =>
        match p.shell.frames with
        | frame :: frames =>
          { p with
            shell.frames :=
              (("-", some { value? := some (String.ofList p.shell.options) }) :: frame) :: frames }
        | [] => p
    else makeLocal name
  return 0

/-- Take variables or functions away. -/
def unsetAll : Action := fun arguments => do
  let (options, names) ← readOptions ['v', 'f'] [] arguments
  if (options.getLast?.map (·.1)) == some 'f' then
    modify fun p => { p with
      shell.functions := p.shell.functions.filter fun entry => !names.contains entry.1 }
  else names.forM unsetVariable
  return 0

/-! ### Arguments -/

/-- Replace the arguments. -/
def setArguments (arguments : List String) : Doing Unit :=
  modify fun p => { p with arguments, shell.optionIndex := 1, shell.optionLetters? := none }

/-- Drop arguments. -/
def shift : Action := fun arguments => do
  let n ← match arguments with
    | [] => pure 1
    | a :: _ => readNumber a
  let p ← get
  if p.arguments.length < n then raise "can't shift that many"
  else
    setArguments (p.arguments.drop n)
    return 0

/-! ### Options of the shell -/

/-- The options by their names, with their letters. -/
def optionNames : List (String × Char) :=
  [("errexit", 'e'), ("noglob", 'f'), ("ignoreeof", 'I'), ("interactive", 'i'), ("monitor", 'm'),
    ("noexec", 'n'), ("stdin", 's'), ("xtrace", 'x'), ("verbose", 'v'), ("vi", 'V'),
    ("emacs", 'E'), ("noclobber", 'C'), ("allexport", 'a'), ("notify", 'b'), ("nounset", 'u'),
    ("privileged", 'p'), ("nolog", 'L'), ("debug", 'D')]

/-- Switch an option on or off. -/
def switch (on : Bool) (letter : Char) : Doing Unit :=
  modify fun p =>
    let others := p.shell.options.filter (· != letter)
    { p with shell.options := if on then letter :: others else others }

/-- List the options, for people or as commands. -/
def listOptions (asCommands : Bool) : Doing Unit := do
  let p ← get
  let line := fun (name, letter) =>
    let on := hasOption p letter
    if asCommands then "set " ++ (if on then "-o " else "+o ") ++ name ++ "\n"
    else Text.Conversion.pad { left := true, width := 16 } name ++ (if on then "on" else "off") ++ "\n"
  put ((if asCommands then "" else "Current option settings\n")
    ++ String.join (optionNames.map line))

/-- Switch an option by its name; without a name all are listed. -/
def switchByName (on : Bool) (name? : Option String) : Doing Unit :=
  match name? with
  | none => listOptions (!on)
  | some name =>
    match optionNames.lookup name with
    | some letter => switch on letter
    | none => raise ("Illegal option -o " ++ name)

/-- What the options of a shell ask for. -/
structure Switches where
  /-- The arguments after the options. -/
  rest : List String
  /-- Whether the first of them is a script by itself. -/
  isCommand : Bool := false
  /-- Whether two dashes, or one, ended the options. -/
  ended : Bool := false

/-- Carry out the letters of a word of options; how many names of options were
taken from the next words. -/
def switchLetters (starting on : Bool) (next : List String) :
    List Char → Doing (List String × Bool)
  | [] => return (next, false)
  | c :: cs =>
    if c == 'o' then do
      switchByName on next.head?
      switchLetters starting on next.tail cs
    else if c == 'c' && starting then do
      let (next, _) ← switchLetters starting on next cs
      return (next, true)
    else if c == 'l' && starting then switchLetters starting on next cs
    else if (optionNames.any fun entry => entry.2 == c) && c != 'L' && c != 'D' then do
      switch on c
      switchLetters starting on next cs
    else raise ("Illegal option -" ++ c.toString)

/-- Carry out options up to the first word that is none. -/
def switchAll (starting : Bool) (allowance : Nat) (arguments : List String) : Doing Switches :=
  match allowance, arguments with
  | n + 1, a :: rest =>
    match a.toList with
    | ['-'] => do
      if !starting then
        switch false 'x'
        switch false 'v'
      return { rest }
    | ['-', '-'] => return { rest, ended := true }
    | sign :: letters =>
      if sign == '-' || sign == '+' then do
        let (rest, isCommand) ← switchLetters starting (sign == '-') rest letters
        let s ← switchAll starting n rest
        return { s with isCommand := s.isCommand || isCommand }
      else return { rest := arguments }
    | [] => return { rest := arguments }
  | _, _ => return { rest := arguments }

/-- Set options and arguments, or list the variables. -/
def setAll : Action := fun arguments => do
  if arguments.isEmpty then listAllVariables
  else
    let s ← switchAll false arguments.length arguments
    if s.ended || !s.rest.isEmpty then setArguments s.rest
  return 0

/-! ### Options of a script -/

/-- Note where reading options stands. -/
def noteOption (name letter : String) (index : Nat) (letters? : Option Nat) : Doing Unit := do
  modify fun p =>
    let p := p.assign "OPTIND" (toString index)
    { p with shell.optionIndex := index, shell.optionLetters? := letters? }
  insistOnName name
  setVariable name letter

/-- How an option is to be used: whether it takes an argument, if it is known
at all. -/
def takesArgument? (letter : Char) : List Char → Option Bool
  | [] => none
  | c :: rest =>
    if c == letter then some (rest.head? == some ':')
    else match rest with
      | ':' :: rest => takesArgument? letter rest
      | rest => takesArgument? letter rest

/-- Complain about an option that is not known, or that lacks its argument. -/
def complainOfOption (letter : Char) (isKnown : Bool) : Doing Unit := do
  let p ← get
  let letter := letter.toString
  if isExtended p then
    let reason := if isKnown then "option requires an argument" else "illegal option"
    if p.value? "OPTERR" != some "0" then
      putError (p.name ++ ": " ++ reason ++ " -- " ++ letter ++ "\n")
  else if isKnown then putError ("No arg for -" ++ letter ++ " option\n")
  else putError ("Illegal option -" ++ letter ++ "\n")

/-- Read the next option of some words. -/
def nextOption (known : List Char) (name : String) (words : List String) : Doing Nat := do
  let shell := (← get).shell
  let index := max 1 shell.optionIndex
  let quiet := known.head? == some ':'
  let current := ((words[index - 2]?).getD "").toList
  let left := match shell.optionLetters? with
    | some n => if index ≥ 2 && n ≤ current.length then current.drop n else []
    | none => []
  let word := ((words[index - 1]?).getD "").toList
  -- the letters that are left, the word that they stand in, and which comes next
  let (letters, wordLength, index, atEnd) :=
    if !left.isEmpty then (left, current.length, index, false)
    else match word with
      | ['-', '-'] => ([], 0, index + 1, true)
      | '-' :: c :: cs => (c :: cs, word.length, index + 1, false)
      | _ => ([], 0, index, true)
  match letters with
  | c :: rest =>
    if atEnd then
      noteOption name "?" index none
      return 1
    else
      let letters? := if rest.isEmpty then none else some (wordLength - rest.length)
      match takesArgument? c known with
      | none =>
        if quiet then setVariable "OPTARG" c.toString
        else
          complainOfOption c false
          unsetVariable "OPTARG"
        noteOption name "?" index letters?
        return 0
      | some false =>
        setVariable "OPTARG" ""
        noteOption name c.toString index letters?
        return 0
      | some true =>
        if !rest.isEmpty then
          setVariable "OPTARG" (String.ofList rest)
          noteOption name c.toString index none
          return 0
        else match words[index - 1]? with
          | some value =>
            setVariable "OPTARG" value
            noteOption name c.toString (index + 1) none
            return 0
          | none =>
            if quiet then
              setVariable "OPTARG" c.toString
              noteOption name ":" index none
            else
              complainOfOption c true
              unsetVariable "OPTARG"
              noteOption name "?" index none
            return 0
  | [] =>
    noteOption name "?" index none
    return 1

/-- Read options. -/
def getOptions : Action := fun arguments => do
  match arguments with
  | known :: name :: words =>
    let own := (← get).arguments
    let words := if words.isEmpty then own else words
    nextOption known.toList name words
  | _ => raise "Usage: getopts optstring var [arg...]"

/-! ### Reading -/

/-- The characters of a line, with whether each of them was escaped; whether
the end of the line was escaped too. -/
def markEscaped : List Char → List Marked × Bool
  | [] => ([], false)
  | ['\\'] => ([], true)
  | '\\' :: c :: rest =>
    let (cs, goesOn) := markEscaped rest
    ((c, true) :: cs, goesOn)
  | c :: rest =>
    let (cs, goesOn) := markEscaped rest
    ((c, false) :: cs, goesOn)

/-- Read a line, with whether each character was escaped.  A line break that
is escaped does not end it. -/
def readEscaped (raw : Bool) (allowance : Nat) : Doing (List Marked × Bool) :=
  match allowance with
  | 0 => return ([], false)
  | n + 1 => do
    let line ← readLine 0
    let ended := line.getLast? == some '\n'
    let line := (if ended then line.dropLast else line).filter (· != '\x00')
    if raw then return (line.map fun c => (c, false), ended)
    else
      let (marked, goesOn) := markEscaped line
      if goesOn && ended then
        let (more, ended) ← readEscaped raw n
        return (marked ++ more, ended)
      else return (marked, ended)

/-- Whether a character separates fields. -/
def isSeparator (separators : List Char) (c : Marked) : Bool := !c.2 && separators.contains c.1

/-- Whether a character is white space that separates fields. -/
def isBlank (separators : List Char) (c : Marked) : Bool :=
  isSeparator separators c && isBlankSeparator c.1

/-- The first field of a line, and what comes after its separator. -/
def cutField (separators : List Char) (cs : List Marked) : List Marked × List Marked :=
  let field := cs.takeWhile fun c => !isSeparator separators c
  let rest := (cs.drop field.length).dropWhile (isBlank separators)
  let rest := match rest with
    | c :: after => if isSeparator separators c then after.dropWhile (isBlank separators) else rest
    | [] => []
  (field, rest)

/-- The last field of a line: all that is left, less the separator of a single
field. -/
def lastField (separators : List Char) (cs : List Marked) : List Marked :=
  let (field, rest) := cutField separators cs
  if rest.isEmpty then field
  else (cs.reverse.dropWhile (isBlank separators)).reverse

/-- Give the fields of a line to variables. -/
def assignFields (separators : List Char) : List String → List Marked → Doing Unit
  | [], _ => return ()
  | [name], cs => assign name (lastField separators cs)
  | name :: names, cs => do
    let (field, rest) := cutField separators cs
    assign name field
    assignFields separators names rest
where
  assign (name : String) (field : List Marked) : Doing Unit := do
    insistOnName name
    setVariable name (String.ofList (field.map (·.1)))

/-- Read a line into variables. -/
def readVariables : Action := fun arguments => do
  let (options, names) ← readOptions ['r'] ['p'] arguments
  if names.isEmpty then raise "arg count"
  let (line, ended) ← readEscaped (isGiven options 'r') 10000
  let separators := separators (← get)
  assignFields separators names (line.dropWhile (isBlank separators))
  return if ended then 0 else 1

end GuardCost.Shell.Builtin
