/-
GuardCost/Utility/Record.lean

The utility that takes records through a script.  The script is a word of the
command line or stands in files; variables can be set before it begins, and the
other words are files to read, or variables to set between them.
-/
import GuardCost.Utility.Record.Run

namespace GuardCost.Utility.Record

open Process

/-- What the words of the command line ask for. -/
structure Order where
  /-- The texts of the script, from files. -/
  scripts : List String := []
  settings : List String := []
  separator? : Option String := none
  operands : List String := []

/-- Complain, and end the utility. -/
def refuse {α : Type} (message : String) : Doing α := fatal 2 message

/-- The text of a script in a file. -/
def scriptIn (file : String) : Doing String := do
  match ← readFile file with
  | .ok text => return text
  | .error cause => refuse ("cannot open \"" ++ file ++ "\" (" ++ cause.plainMessage ++ ")")

/-- Read the words of the command line. -/
def readOrder (allowance : Nat) (o : Order) (words : List String) : Doing Order := do
  match allowance, words with
  | n + 1, word :: rest =>
    match word.toList with
    | ['-', '-'] => return { o with operands := rest }
    | '-' :: c :: cs =>
      let (value, rest) := if cs.isEmpty then (rest.headD "", rest.tail) else (String.ofList cs, rest)
      match c with
      | 'F' => readOrder n { o with separator? := some value } rest
      | 'v' => readOrder n { o with settings := o.settings ++ [value] } rest
      | 'f' =>
        let text ← scriptIn value
        readOrder n { o with scripts := o.scripts ++ [text] } rest
      | 'W' => readOrder n o rest
      | _ => refuse ("not an option: " ++ word)
    | _ => return { o with operands := words }
  | _, _ => return { o with operands := words }

/-- Set variables before a script begins. -/
def prepare (o : Order) (operands : List String) (environment : List (String × String)) :
    Acting Unit := do
  firstVariables.forM fun (name, v) => assign name v
  let names := "awk" :: operands
  let arguments := names.zipIdx.foldl
    (fun t (a, i) => Table.insert (toString i) (Value.ofInput a) t) []
  let given := environment.foldl
    (fun t (name, value) => Table.insert name (Value.ofInput value) t) []
  changeTable (← tablePlace "ARGV") fun _ => arguments
  changeTable (← tablePlace "ENVIRON") fun _ => given
  assign "ARGC" (.ofNat names.length)
  match o.separator? with
  | some separator => assign "FS" (.text (unescaped separator))
  | none => pure ()
  o.settings.forM fun setting => do
    match settingOf? setting with
    | some (name, value) => assignOperand name value
    | none => giveUp ("improper assignment: -v " ++ setting)

/-- Take records through a script. -/
def processRecords : Tool := fun runner words => do
  let o ← readOrder (words.length + 1) {} words
  let (text, operands) ← match o.scripts, o.operands with
    | [], [] => refuse "no program given"
    | [], text :: operands => pure (text, operands)
    | texts, operands => pure ("\n".intercalate texts, operands)
  match scriptOf text with
  | .error fault =>
    refuse ("line " ++ toString fault.line ++ ": " ++ fault.message)
  | .ok script =>
    let environment := (← get).environment
    let acting : Acting Nat := do
      prepare o operands environment
      carryOut runner script
    match ← (acting.run).run {} with
    | (.ok code, _) => return code
    | (.error (.fault message), _) =>
      flush
      refuse message
    | (.error _, store) => return store.code

end GuardCost.Utility.Record
