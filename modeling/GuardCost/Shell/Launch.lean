/-
GuardCost/Shell/Launch.lean

Carrying out texts as scripts.  A script is carried out line by line, and a
line is read only when the one before it has been carried out.

A line that cannot be read ends a shell of the plain dialect.  In the extended
dialect it ends the text that it stands in, with exit code two, and an error
ends no more than the line that runs into it.
-/
import GuardCost.Shell.Exec

namespace GuardCost.Shell

open Process Builtin

/-! ### Lines -/

/-- How the lines of a text are carried out. -/
structure Course where
  /-- Carry out a line. -/
  exec : Setting → Script → Doing Unit
  /-- What is done about a line that cannot be read. -/
  refuse : SyntaxError → Doing Unit

/-- The aliases that the shell looks at. -/
def knownAliases (p : Process) : List (String × String) :=
  if isExtended p && !p.shell.settings.contains "expand_aliases" then [] else p.shell.aliases

/-- Say what is wrong with a script that can be read all the same. -/
def warn (warnings : List (Nat × String)) : Doing Unit :=
  warnings.reverse.forM fun (line, warning) => do
    let p ← get
    if isExtended p then
      putError (p.shell.sources.headD p.name ++ ": line " ++ toString line ++ ": " ++ warning
        ++ "\n")

/-- Carry out the lines of a script; after the last of them the shell may have
nothing left to do. -/
def carryOutLines (m : Course) (s : Setting) (allowance : Nat) (source : Source) : Doing Unit :=
  match allowance with
  | 0 => return ()
  | n + 1 => do
    let p ← get
    let source := { source with
      aliases := knownAliases p
      documents := []
      nextDocument := p.shell.nextDocument
      warnings := [] }
    match readCompleteLine.run source with
    | .error e => m.refuse e
    | .ok (none, _) => return ()
    | .ok (some script, rest) =>
      set { p with
        shell.documents := rest.documents ++ p.shell.documents
        shell.nextDocument := rest.nextDocument }
      warn rest.warnings
      let isLast := match rest.returned? with
        | some .ending => true
        | some _ => false
        | none => isExtended p && rest.chars.isEmpty
      m.exec { s with last := s.last && isLast } script
      carryOutLines m s n rest

/-! ### Texts of the plain dialect -/

/-- Carry out a text as a script of the plain dialect. -/
def carryOutPlain (exec : Setting → Script → Doing Unit) (s : Setting) (text : String) :
    Doing Unit :=
  let refuse := fun (e : SyntaxError) => do
    modify fun p => { p with shell.line := e.line }
    raise e.message
  carryOutLines ⟨exec, refuse⟩ s (text.length + 2) { chars := text.toList }

/-! ### Texts of the extended dialect -/

/-- The lines of a text. -/
def linesOf (text : List Char) : List (List Char) :=
  let lines := partsAt '\n' text
  if lines.getLast? == some [] then lines.dropLast else lines

/-- Whether the line that cannot be read is shown. -/
def showsLine (reason : String) : Bool :=
  "syntax error near".toList.isPrefixOf reason.toList

/-- Say why a text whose lines are counted from some number cannot be read, in
the name of what it is the text of. -/
def reportUnreadable (kind? : Option String) (first : Nat) (text : List Char) (e : SyntaxError) :
    Doing Unit := do
  let p ← get
  let lines := linesOf text
  let line := if e.line = 0 then first + lines.length else e.line
  let lead := p.shell.sources.headD p.name ++ ": " ++ kind?.elim "" (· ++ ": ") ++ "line "
    ++ toString line ++ ": "
  let reasons := (partsAt '\n' e.message.toList).map String.ofList
  let shown := String.ofList ((lines[line - first]?).getD [])
  let quoted := if reasons.any showsLine then ["\x60" ++ shown ++ "'"] else []
  (reasons ++ quoted).forM fun reason => putError (lead ++ reason ++ "\n")

/-- Carry out a text as a script of the extended dialect. -/
def carryOutExtended (exec : Setting → Script → Doing Unit) (s : Setting) (text : String) :
    Doing Unit := do
  let p ← get
  let first := p.shell.line
  let depth := p.shell.textDepth
  let chars := text.toList
  let chars := if chars.getLast? == some '\n' then chars else chars ++ ['\n']
  set { p with shell.textDepth := depth + 1, shell.speaker? := none }
  let refuse := fun (e : SyntaxError) => do
    reportUnreadable p.shell.speaker? first chars e
    setStatus e.code
    if depth = 0 then throw (Flow.exit e.code)
  let carryOn := fun (s : Setting) (script : Script) =>
    tryCatch (exec s script) fun flow => if flow = .failed then return () else throw flow
  if chars.all Char.isWhitespace then setStatus 0
  tryFinally
    (carryOutLines ⟨carryOn, refuse⟩ s (chars.length + 2)
      { chars, dialect := .extended, line := first })
    (modify fun p => { p with shell.textDepth := depth })

/-- Carry out a text as a script. -/
def carryOutText (exec : Setting → Script → Doing Unit) (s : Setting) (text : String) :
    Doing Unit := do
  if isExtended (← get) then carryOutExtended exec s text else carryOutPlain exec s text

end GuardCost.Shell
