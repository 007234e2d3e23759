/-
GuardCost/Utility/Record/Store.lean

What a script that goes through records keeps: its variables and tables, the
record with its fields, and the files and commands that it reads from and writes
to.

A variable that has not been used yet can still become a table, also within a
function that it is handed to; so a place for a table goes with it.
-/
import GuardCost.Utility.Basic
import GuardCost.Utility.Record.Matching
import GuardCost.Utility.Record.Script

namespace GuardCost.Utility.Record

open Process

/-! ### State -/

/-- What a name stands for. -/
inductive Slot where
  | value (v : Value)
  | table (place : Nat)
  /-- Nothing yet, with the place of the table that it may become. -/
  | unset (place : Nat)

/-- Where output goes that has been opened. -/
inductive Opened where
  | file (descriptor : Nat)
  /-- A command, with what it will read, the newest first. -/
  | command (written : List String)

/-- What a script keeps. -/
structure Store where
  globals : List (String × Slot) := []
  /-- The variables of the function that is being carried out. -/
  locals : List (String × Slot) := []
  tables : Array Table := #[]
  record : String := ""
  fields : List Value := []
  /-- The rules whose range has begun and not ended. -/
  active : List Nat := []
  code : Nat := 0
  outlets : List (String × Opened) := []
  /-- What is left of the files and of the output of commands that are read. -/
  intakes : List (String × List Char) := []
  /-- The next operand of the command line. -/
  operand : Nat := 1
  /-- What is left of the input, if any has been opened. -/
  input? : Option (List Char) := none
  /-- Whether any input has been opened. -/
  hasRead : Bool := false
  seed : Nat := 1

/-- Why what a script does ends early. -/
inductive Jump where
  | leaveLoop
  | nextRound
  | nextRecord
  | nextFile
  | exit
  | giveBack (v : Value)
  | fault (message : String)

/-- Something that a script does. -/
abbrev Acting := ExceptT Jump (StateT Store Doing)

/-- Give up. -/
def giveUp {α : Type} (message : String) : Acting α := throw (.fault message)

/-! ### Variables -/

/-- What a name stands for. -/
def slot? (name : String) : Acting (Option Slot) := do
  let s ← getThe Store
  return (s.locals.lookup name) <|> (s.globals.lookup name)

/-- Let a name stand for something. -/
def setSlot (name : String) (slot : Slot) : Acting Unit :=
  modifyThe Store fun s =>
    let put := fun (slots : List (String × Slot)) =>
      (name, slot) :: slots.filter fun entry => entry.1 != name
    if (s.locals.lookup name).isSome then { s with locals := put s.locals }
    else { s with globals := put s.globals }

/-- Make a place for a table. -/
def newTable : Acting Nat := do
  let s ← getThe Store
  set { s with tables := s.tables.push [] }
  return s.tables.size

/-- The place of the table that a name stands for, or comes to stand for. -/
def tablePlace (name : String) : Acting Nat := do
  match ← slot? name with
  | some (.table place) => return place
  | some (.unset place) => return place
  | some (.value _) => giveUp ("type error in use of scalar variable " ++ name ++ " as array")
  | none =>
    let place ← newTable
    setSlot name (.table place)
    return place

/-- The table at a place. -/
def tableAt (place : Nat) : Acting Table := do
  return ((← getThe Store).tables[place]?).getD []

/-- Change the table at a place. -/
def changeTable (place : Nat) (change : Table → Table) : Acting Unit :=
  modifyThe Store fun s => { s with tables := s.tables.modify place change }

/-- The value of a variable. -/
def valueOf (name : String) : Acting Value := do
  if name == "NF" then return .ofNat (← getThe Store).fields.length
  else
    match ← slot? name with
    | some (.value v) => return v
    | some (.table _) => giveUp ("type error in use of array " ++ name ++ " as scalar")
    | _ => return .nothing

/-- The text of a variable. -/
def textIn (name : String) : Acting String := do return (← valueOf name).toText "%.6g"

/-- A value as a text. -/
def textOf (v : Value) : Acting String := do
  match v with
  | .text s => return s
  | .spelled s _ => return s
  | v => return v.toText (← textIn "CONVFMT")

/-- Give up in the middle of a record. -/
def giveUpInRecord {α : Type} (message : String) : Acting α := do
  let file ← textIn "FILENAME"
  let number ← textIn "FNR"
  let all ← textIn "NR"
  giveUp ("run time error: " ++ message ++ "\n\tFILENAME=\"" ++ file ++ "\" FNR=" ++ number
    ++ " NR=" ++ all)

/-! ### Fields -/

/-- Take a text as the record. -/
def setRecord (s : String) : Acting Unit := do
  let separator ← textIn "FS"
  let atLines := (← textIn "RS").isEmpty
  modifyThe Store fun store =>
    { store with record := s, fields := (splitFields separator atLines s).map .ofInput }

/-- Put the record together from its fields. -/
def joinRecord : Acting Unit := do
  let separator ← textIn "OFS"
  let texts ← (← getThe Store).fields.mapM textOf
  modifyThe Store fun s => { s with record := separator.intercalate texts }

/-- A field; number zero is the whole record. -/
def fieldValue (i : Nat) : Acting Value := do
  let s ← getThe Store
  if i = 0 then return .ofInput s.record
  else return (s.fields[i - 1]?).getD .nothing

/-- Change a field. -/
def setField (i : Nat) (v : Value) : Acting Unit := do
  if i = 0 then setRecord (← textOf v)
  else
    modifyThe Store fun s =>
      let missing := i - s.fields.length
      { s with fields := (s.fields ++ List.replicate missing Value.nothing).set (i - 1) v }
    joinRecord

/-- Give a variable a value. -/
def assign (name : String) (v : Value) : Acting Unit := do
  if name == "NF" then
    let n := (wholeOf v.toNumber).toNat
    modifyThe Store fun s =>
      { s with fields := (s.fields ++ List.replicate (n - s.fields.length) Value.nothing).take n }
    joinRecord
  else
    match ← slot? name with
    | some (.table _) => giveUp ("type error in use of array " ++ name ++ " as scalar")
    | _ => setSlot name (.value v)

/-- The variables that every script has. -/
def firstVariables : List (String × Value) :=
  [("FS", .text " "), ("OFS", .text " "), ("ORS", .text "\n"), ("RS", .text "\n"),
    ("SUBSEP", .text "\x1c"), ("CONVFMT", .text "%.6g"), ("OFMT", .text "%.6g"),
    ("NR", .number 0), ("FNR", .number 0), ("RSTART", .number 0), ("RLENGTH", .number (-1)),
    ("FILENAME", .text "")]

/-! ### Records -/

/-- Cut the first record off a text. -/
def cutRecord (separator : String) (cs : List Char) : Option (List Char × List Char) :=
  match separator.toList with
  | [] =>
    let cs := cs.dropWhile (· == '\n')
    if cs.isEmpty then none else some (cutParagraph cs)
  | [c] =>
    if cs.isEmpty then none
    else
      let record := cs.takeWhile (· != c)
      some (record, cs.drop (record.length + 1))
  | _ =>
    if cs.isEmpty then none
    else match findIn (regexOf separator) cs with
      | some (start, length) =>
        if length = 0 then some (cs, []) else some (cs.take start, cs.drop (start + length))
      | none => some (cs, [])
where
  cutParagraph : List Char → List Char × List Char
    | [] => ([], [])
    | ['\n'] => ([], [])
    | '\n' :: '\n' :: rest => ([], rest.dropWhile (· == '\n'))
    | c :: rest =>
      let (record, left) := cutParagraph rest
      (c :: record, left)

/-! ### Commands -/

/-- Go on as a shell that carries out a command. -/
def becomeCommand (runner : Runner) (command : String) : Doing Unit := do
  let words := ["sh", "-c", command].map Bytes.narrow
  match loadLeniently "sh" (← get).world (pathOf "/bin/sh") words with
  | .ok loaded => become runner loaded
  | .error _ => throw (.exit 127)

/-- The exit code of a command, as a script sees it. -/
def codeOfCommand : Flow → Nat
  | .exit code => code
  | .killed signal => 256 + signal
  | _ => 0

/-- Carry out a command; it can be given something to read. -/
def runCommand (runner : Runner) (command : String) (input? : Option String) : Doing Nat := do
  match input? with
  | none => return codeOfCommand (← fork id (becomeCommand runner command))
  | some text =>
    let p ← get
    let (n, machine) := p.machine.addChannel (.ofText text)
    set { p with machine }
    return codeOfCommand (← fork (fun c => c.point 0 (some n)) (becomeCommand runner command))

/-- What a command writes. -/
def outputOfCommand (runner : Runner) (command : String) : Doing String := do
  flush
  let p ← get
  let (n, machine) := p.machine.addChannel { target := .pipe }
  set { p with machine }
  let _ ← fork (fun c => c.point 1 (some n)) (becomeCommand runner command)
  let q ← get
  let c := (q.machine.channel? n).getD { target := .pipe }
  set { q with machine := (q.machine.closeSince n []).waitUntil c.endTime }
  return c.text

/-! ### Output -/

/-- Write to a file, which is opened first if need be. -/
def writeTo (added : Bool) (file text : String) : Acting Unit := do
  if file == "/dev/stdout" || file == "-" then emit text
  else if file == "/dev/stderr" then
    flush
    putError text
  else
    let descriptor ← match (← getThe Store).outlets.lookup file with
      | some (.file descriptor) => pure descriptor
      | _ =>
        let used := (← getThe Store).outlets.length
        let descriptor := 20 + used
        match ← openFile (if added then .append else .create) file descriptor with
        | .ok () => pure ()
        | .error cause =>
          giveUp ("cannot open \"" ++ file ++ "\" for output (" ++ cause.plainMessage ++ ")")
        modifyThe Store fun s =>
          { s with outlets := s.outlets ++ [(file, .file descriptor)] }
        pure descriptor
    let _ ← (write descriptor text : Doing (Except SystemError Unit))

/-- Write to a command, which is carried out in the end. -/
def writeToCommand (command text : String) : Acting Unit := do
  flush
  modifyThe Store fun s =>
    let written := match s.outlets.lookup command with
      | some (.command written) => written
      | _ => []
    let isOpen := (s.outlets.lookup command).isSome
    let entry := (command, Opened.command (text :: written))
    if isOpen then
      { s with outlets := s.outlets.map fun old => if old.1 == command then entry else old }
    else { s with outlets := s.outlets ++ [entry] }

/-- Close what output goes to; its exit code. -/
def closeOutlet (runner : Runner) (name : String) : Opened → Acting Nat
  | .file descriptor => do
    modifyThe Process fun p => p.point descriptor none
    return 0
  | .command written => do return ← runCommand runner name (some (String.join written.reverse))

/-- Close a file or a command by its name. -/
def closeNamed (runner : Runner) (name : String) : Acting Value := do
  let s ← getThe Store
  let isIntake := (s.intakes.lookup name).isSome
  set { s with
    outlets := s.outlets.filter fun entry => entry.1 != name
    intakes := s.intakes.filter fun entry => entry.1 != name }
  match s.outlets.lookup name with
  | some opened => return .ofNat (← closeOutlet runner name opened)
  | none => return .ofInt (if isIntake then 0 else -1)

/-- Close everything. -/
def closeAll (runner : Runner) : Acting Unit := do
  let outlets := (← getThe Store).outlets
  modifyThe Store fun s => { s with outlets := [] }
  outlets.forM fun (name, opened) => do
    let _ ← closeOutlet runner name opened

/-! ### Input -/

/-- Give up because a file cannot be read. -/
def giveUpReading {α : Type} (file : String) (cause : SystemError) : Acting α :=
  if cause = .isDirectory then giveUp ("read error (" ++ cause.plainMessage ++ ")")
  else giveUp ("cannot open \"" ++ file ++ "\" (" ++ cause.plainMessage ++ ")")

/-- Set a variable from the command line. -/
def assignOperand (name value : List Char) : Acting Unit :=
  assign (String.ofList name) (.ofInput (unescaped (String.ofList value)))

/-- The name and the value in an operand that sets a variable. -/
def settingOf? (operand : String) : Option (List Char × List Char) := do
  let (name, value) ← splitFirst? '=' operand.toList
  if name.all isNamePart && name.head?.any (fun c => !c.isDigit) then some (name, value) else none

/-- Open the next file of the command line, or the input if none is named there;
whether there was one. -/
def openNext (allowance : Nat) : Acting Bool := do
  match allowance with
  | 0 => return false
  | n + 1 =>
    let s ← getThe Store
    let count := (wholeOf (← valueOf "ARGC").toNumber).toNat
    if s.operand < count then
      set { s with operand := s.operand + 1 }
      let operand := ((← tableAt (← tablePlace "ARGV")).get? (toString s.operand)).getD .nothing
      let operand ← textOf operand
      match settingOf? operand with
      | some (name, value) =>
        assignOperand name value
        openNext n
      | none =>
        if operand.isEmpty then openNext n
        else
          assign "FILENAME" (.text operand)
          assign "FNR" (.number 0)
          match ← readFile operand with
          | .ok text =>
            modifyThe Store fun s => { s with input? := some text.toList, hasRead := true }
            return true
          | .error cause => giveUpReading operand cause
    else if s.hasRead then return false
    else
      match ← readFile "-" with
      | .ok text =>
        modifyThe Store fun s => { s with input? := some text.toList, hasRead := true }
        return true
      | .error _ => return false

/-- Read the next record of the input. -/
def nextRecord (allowance : Nat) : Acting (Option String) := do
  match allowance with
  | 0 => return none
  | n + 1 =>
    let separator ← textIn "RS"
    match ((← getThe Store).input?).bind (cutRecord separator) with
    | some (record, rest) =>
      modifyThe Store fun s => { s with input? := some rest }
      return some (String.ofList record)
    | none =>
      modifyThe Store fun s => { s with input? := none }
      if ← openNext 1000 then nextRecord n else return none

/-- Count a record. -/
def countRecord (both : Bool) : Acting Unit := do
  let names := if both then ["NR", "FNR"] else ["NR"]
  names.forM fun name => do assign name (.number ((← valueOf name).toNumber + 1))

/-- Read the next record from a file or from the output of a command, which is
opened first if need be: one, zero at its end, or less if that is not
possible. -/
def recordFrom (name : String) (opened : Doing (Except SystemError String)) :
    Acting (Int × String) := do
  let source? ← match (← getThe Store).intakes.lookup name with
    | some cs => pure (some cs)
    | none =>
      match ← opened with
      | .ok text => pure (some text.toList)
      | .error .isDirectory => giveUpReading name .isDirectory
      | .error _ => pure none
  match source? with
  | none => return (-1, "")
  | some cs =>
    let cut? := cutRecord (← textIn "RS") cs
    let rest := cut?.elim [] (·.2)
    modifyThe Store fun s =>
      { s with intakes := (name, rest) :: s.intakes.filter fun entry => entry.1 != name }
    match cut? with
    | some (record, _) => return (1, String.ofList record)
    | none => return (0, "")

end GuardCost.Utility.Record
