/-
GuardCost/Shell/Expansion.lean

From words to texts.  Parameters, arithmetic and the output of scripts are put
in place; what they give is split into fields at the separators of the shell
unless it was quoted, and fields that are patterns stand for the paths that
fit them.

An expanded word is a list of atoms.  A mark keeps a field that is empty
because it was quoted, and a cut ends a field whatever the separators are.
-/
import GuardCost.Shell.Braces
import GuardCost.Shell.Paths
import GuardCost.Shell.Provided
import GuardCost.Shell.Reckoning
import GuardCost.Shell.Reshaping

namespace GuardCost.Shell

open Process

/-! ### Atoms -/

/-- Where a character of an expanded word comes from. -/
inductive Origin where
  | quoted
  /-- It stood in the word. -/
  | plain
  /-- It was put in place of something, so that fields are split there. -/
  | inserted
  deriving DecidableEq, Repr

/-- A part of an expanded word. -/
inductive Atom where
  | char (c : Char) (origin : Origin)
  | cut
  | mark
  deriving DecidableEq, Repr

/-- How a word is expanded. -/
structure Manner where
  /-- Whether the arguments stay apart and fields are split. -/
  fields : Bool := false
  /-- Whether the text stands in place of a parameter. -/
  inserted : Bool := false
  /-- Whether the text is the value of an assignment. -/
  assigned : Bool := false

/-- The characters of a text as atoms. -/
def Atom.ofText (origin : Origin) (s : String) : List Atom :=
  s.toList.map fun c => .char c origin

/-- A text that was put in place of something. -/
def insertedAtoms (quoted : Bool) (s : String) : List Atom :=
  if quoted then .mark :: Atom.ofText .quoted s else Atom.ofText .inserted s

/-- The characters of some atoms. -/
def textOf (atoms : List Atom) : String :=
  String.ofList (atoms.filterMap fun
    | .char c _ => some c
    | _ => none)

/-- The characters of some atoms, with whether they were quoted. -/
def markedOf (atoms : List Atom) : List Marked :=
  atoms.filterMap fun
    | .char c origin => some (c, origin == .quoted)
    | _ => none

/-- A pattern with exclamation marks for the carets at the start of sets. -/
def withoutCarets : List Marked → List Marked
  | ('[', false) :: ('^', false) :: rest => ('[', false) :: ('!', false) :: withoutCarets rest
  | c :: rest => c :: withoutCarets rest
  | [] => []

/-- Some atoms as a pattern. -/
def patternOf (p : Process) (atoms : List Atom) : List Marked :=
  let marked := markedOf atoms
  if isExtended p then withoutCarets marked else marked

/-! ### Fields -/

/-- The characters that separate fields. -/
def separators (p : Process) : List Char := ((p.value? "IFS").getD " \t\n").toList

/-- Whether a separator is white space. -/
def isBlankSeparator (c : Char) : Bool := c == ' ' || c == '\t' || c == '\n'

/-- A field that is being put together, its last character first. -/
structure OpenField where
  chars : List Marked := []
  /-- Whether the field counts even if it is empty. -/
  counts : Bool := false
  /-- Whether a blank separator has ended the last field, and another separator
  would still belong to it. -/
  afterBlank : Bool := false
  /-- The fields before it, the newest first. -/
  done : List (List Marked) := []

namespace OpenField

/-- End the field. -/
def close (f : OpenField) (afterBlank : Bool) : OpenField :=
  { done := f.chars.reverse :: f.done, afterBlank }

/-- Whether there is something in the field. -/
def isOpen (f : OpenField) : Bool := f.counts || !f.chars.isEmpty

/-- Add an atom. -/
def add (separators : List Char) (f : OpenField) (a : Atom) : OpenField :=
  match a with
  | .mark => { f with counts := true, afterBlank := false }
  | .cut => if f.isOpen then f.close false else { f with afterBlank := false }
  | .char c origin =>
    if origin == .inserted && separators.contains c then
      if isBlankSeparator c then if f.isOpen then f.close true else f
      else if f.afterBlank && !f.isOpen then { f with afterBlank := false }
      else f.close false
    else { f with chars := (c, origin == .quoted) :: f.chars, counts := true, afterBlank := false }

end OpenField

/-- The fields of some atoms. -/
def fieldsOf (separators : List Char) (atoms : List Atom) : List (List Marked) :=
  let last := atoms.foldl (OpenField.add separators) {}
  ((if last.isOpen then last.close false else last).done).reverse

/-- The texts that a field stands for. -/
def textsOfField (p : Process) (field : List Marked) : List String :=
  let own := String.ofList (field.map (·.1))
  let pattern := if isExtended p then withoutCarets field else field
  if hasOption p 'f' then [own]
  else match pathsThatFit p.world pattern with
    | [] => if p.shell.settings.contains "nullglob" && isPattern pattern then [] else [own]
    | paths => paths

/-! ### Parameters -/

/-- The value of a parameter in its place, with every value of many changed in
the same way. -/
def parameterAtomsWith (change : String → String) (p : Process) (m : Manner) (quoted : Bool)
    (parameter : Parameter) : List Atom :=
  match manyValues? p parameter with
  | some (values, joined) =>
    let values := values.map change
    if m.fields && !(joined && quoted) then
      [Atom.cut].intercalate (values.map (insertedAtoms quoted))
    else insertedAtoms quoted (joinValues p joined values)
  | none => insertedAtoms quoted (change ((parameterValue? p parameter).getD ""))

/-- The value of a parameter in its place. -/
def parameterAtoms (p : Process) (m : Manner) (quoted : Bool) (parameter : Parameter) :
    List Atom :=
  parameterAtomsWith id p m quoted parameter

/-- Some values in the place of a parameter that stands for many. -/
def manyAtoms (p : Process) (m : Manner) (quoted joined : Bool) (values : List String) :
    List Atom :=
  if m.fields && !(joined && quoted) then
    [Atom.cut].intercalate (values.map (insertedAtoms quoted))
  else insertedAtoms quoted (joinValues p joined values)

/-- The directory that a tilde with a name stands for. -/
def homeOf? (p : Process) (user : String) : Option String :=
  if user.isEmpty then p.value? "HOME"
  else if user == "root" then some "/root"
  else if isExtended p && user == "+" then p.value? "PWD"
  else if isExtended p && user == "-" then p.value? "OLDPWD"
  else none

/-- The text of a word that may start with a tilde. -/
def tildeAtoms (p : Process) (m : Manner) (whole : Bool) (cs : List Char) : List Atom :=
  let plain := Atom.ofText (if m.inserted then .inserted else .plain) (String.ofList cs)
  match cs with
  | '~' :: rest =>
    let user := rest.takeWhile fun c => c != '/' && !(m.assigned && c == ':')
    if user.length < rest.length || whole then
      match homeOf? p (String.ofList user) with
      | some home =>
        Atom.ofText .quoted home
          ++ Atom.ofText .plain (String.ofList (rest.drop user.length))
      | none => plain
    else plain
  | _ => plain

/-- The text of a piece that stands in a word, with its tildes; in an
assignment a tilde can also follow a colon. -/
def plainAtoms (p : Process) (m : Manner) (first last : Bool) (s : String) : List Atom :=
  if m.assigned then
    let parts := partsAt ':' s.toList
    let atoms := (List.range parts.length).map fun i =>
      let part := parts.getD i []
      if i == 0 && !first then Atom.ofText .plain (String.ofList part)
      else tildeAtoms p m (last || i + 1 < parts.length) part
    [Atom.char ':' .plain].intercalate atoms
  else if first then tildeAtoms p m last s.toList
  else Atom.ofText (if m.inserted then .inserted else .plain) s

/-! ### Words -/

/-- What a script writes that runs in a process of its own. -/
def writtenBy (run : Script → Doing Unit) (body : Script) : Doing String := do
  let p ← get
  let (n, machine) := p.machine.addChannel { target := .pipe }
  set { p with machine }
  let flow ← fork (fun c => c.point 1 (some n)) (run body)
  let q ← get
  let c := (q.machine.channel? n).getD { target := .pipe }
  set { q with
    machine := (q.machine.closeSince n []).waitUntil c.endTime
    shell.outputCode := codeOf flow }
  return c.text

/-- The output of a script, without the line ends at its end. -/
def outputOf (run : Script → Doing Unit) (body : Script) : Doing String := do
  let s ← writtenBy run body
  let kept := s.toList.filter (· != '\x00')
  return String.ofList (kept.reverse.dropWhile (· == '\n')).reverse

/-- Give up because of a parameter. -/
def giveUp {α : Type} (message : String) : Doing α := do
  let p ← get
  if isExtended p then
    complainAt message
    throw (.exit (if p.shell.givenAsWord then 127 else 1))
  else raise message

/-- Complain that a parameter is not set. -/
def complainUnset {α : Type} (parameter : Parameter) : Doing α := do
  let missing := if isExtended (← get) then ": unbound variable" else ": parameter not set"
  giveUp (parameter.text ++ missing)

/-- Whether a parameter is missing that the options do not allow to be. -/
def isForbidden (p : Process) (parameter : Parameter) : Bool :=
  (parameterValue? p parameter).isNone && hasOption p 'u' && canBeMissing parameter

/-! ### Arithmetic -/

/-- Give a key of a list a value. -/
def setElement (name key value : String) : Doing Unit := do
  let p ← get
  setElements name ((elementsOf p name).insert key value)

/-- What arithmetic finds among the variables. -/
def lookupOf (p : Process) : Reckoning.Lookup :=
  { value? := fun name key? =>
      match key? with
      | some key => (listOf p name).value? key
      | none => textOfVariable? p name
    isNamed := fun name => (elementsOf p name).named
    strict := hasOption p 'u' }

/-- Evaluate an expression of the extended dialect; the complaint if it has no
value. -/
def reckon (s : String) : Doing (Except String Int) := do
  match Reckoning.evaluate (lookupOf (← get)) s with
  | .ok (n, changes) =>
    changes.forM fun ((name, key?), k) =>
      match key? with
      | some key => setElement name key (toString k)
      | none => setVariable name (toString k)
    return .ok n
  | .error c => return .error c.text

/-- The value of an arithmetic expression. -/
def arithmeticValue (s : String) : Doing Int := do
  let p ← get
  if isExtended p then
    match ← reckon s with
    | .ok n => return n
    | .error message => raise message
  else
    match Arithmetic.evaluateAll (fun name => (p.value? name).getD "") s with
    | .ok (n, changes) =>
      changes.forM fun (name, k) => setVariable name (toString k)
      return n
    | .error (.expression message) =>
      raise ("arithmetic expression: " ++ message ++ ": \"" ++ s ++ "\"")
    | .error (.variable message) => raise message

/-! ### Lists -/

/-- The key that a subscript names; a number below zero counts from the end. -/
def keyFor (name text : String) : Doing String := do
  let e := listOf (← get) name
  if e.named then return text
  else
    let n ← arithmeticValue text
    let n := if n < 0 then n + e.nextKey else n
    if n < 0 then raise (name ++ "[" ++ text ++ "]: bad array subscript")
    else return toString n

/-- Give a parameter a value. -/
def assignParameter (parameter : Parameter) (value : String) : Doing Unit :=
  match parameter with
  | .named name => setVariable name value
  | .element name key => setElement name key value
  | other => do
    if isExtended (← get) then raise ("$" ++ other.text ++ ": cannot assign in this way")
    else raise (other.text ++ ": bad variable name")

/-- The parameter that a text names. -/
def referenceTo (s : String) : Doing Parameter := do
  let cs := s.toList
  let name := String.ofList (cs.takeWhile continuesName)
  match cs.dropWhile continuesName with
  | [] =>
    if name.isEmpty then raise (s ++ ": invalid indirect expansion")
    else if cs.all Char.isDigit then return .argument (Arithmetic.ofDigits 10 cs)
    else return .named name
  | ['@'] => return .eachArgument
  | ['*'] => return .allArguments
  | '[' :: rest =>
    let subscript := String.ofList rest.dropLast
    if subscript == "@" || subscript == "*" then return .elements name (subscript == "*")
    else return .element name (← keyFor name subscript)
  | _ => raise (s ++ ": invalid variable name")

/-- The entries of a list from an offset on; a number of a list counts, and not
its place. -/
def entriesFrom (p : Process) (parameter : Parameter) (offset : Int) : List String :=
  match parameter with
  | .elements name _ =>
    let e := listOf p name
    let start := if offset < 0 then offset + e.nextKey else offset
    if start < 0 then []
    else if e.named then e.values.drop (start.toNat - 1)
    else (e.entries.filter fun entry => start.toNat ≤ (entry.1.toNat?.getD 0)).map (·.2)
  | _ =>
    let all := p.name :: p.arguments
    let start := if offset < 0 then offset + all.length else offset
    if start < 0 then [] else all.drop start.toNat

/-- A path that leads to a text. -/
def pathTo (s : String) : Doing String := do
  let p ← get
  let free := (List.range 4).find? fun i => (p.channelNumber? (63 - i)).isNone
  let descriptor := 63 - free.getD 0
  let (n, machine) := p.machine.addChannel (.ofText s)
  set ({ p with machine }.point descriptor (some n))
  return "/dev/fd/" ++ toString descriptor

/-- Whether a word stands in for the value of a parameter. -/
def isMissing (p : Process) (parameter : Parameter) (orEmpty : Bool) : Bool :=
  match parameterValue? p parameter with
  | none => true
  | some s => orEmpty && s.isEmpty

/-- How a word is expanded that stands in for a value. -/
def standInManner (m : Manner) (quoted : Bool) : Manner :=
  { m with inserted := !quoted, assigned := false }

mutual

/-- Expand a piece of a word; `first` and `last` say whether it is the first
and the last one of its word. -/
def expandPiece (run : Script → Doing Unit) (m : Manner) (first last : Bool) :
    Piece → Doing (List Atom)
  | .text true s => return .mark :: Atom.ofText .quoted s
  | .text false s => do return plainAtoms (← get) m first last s
  | .arithmetic quoted body => do
    let s := textOf (← expandPieces run {} false body)
    return insertedAtoms quoted (toString (← arithmeticValue s))
  | .output quoted body => do return insertedAtoms quoted (← outputOf run body)
  | .parameter quoted parameter use => expandUse run m quoted parameter use
  | .element quoted name subscript use => do
    let text := textOf (← expandPieces run {} false subscript)
    expandUse run m quoted (.element name (← keyFor name text)) use
  | .indirect quoted parameter use => do
    match parameterValue? (← get) parameter with
    | some text => expandUse run m quoted (← referenceTo text) use
    | none => raise (parameter.text ++ ": invalid indirect expansion")
  | .list _ => return []
  | .stream body => do return Atom.ofText .quoted (← pathTo (← writtenBy run body))

/-- Expand the pieces of a word. -/
def expandPieces (run : Script → Doing Unit) (m : Manner) (first : Bool) :
    List Piece → Doing (List Atom)
  | [] => return []
  | piece :: rest => do
    let a ← expandPiece run m first rest.isEmpty piece
    let b ← expandPieces run m false rest
    return a ++ b

/-- Expand a parameter by what is made of its value. -/
def expandUse (run : Script → Doing Unit) (m : Manner) (quoted : Bool) (parameter : Parameter) :
    Use → Doing (List Atom)
  | .value => do
    let p ← get
    if isForbidden p parameter then complainUnset parameter
    else return parameterAtoms p m quoted parameter
  | .length => do
    let p ← get
    match manyValues? p parameter, parameterValue? p parameter with
    | some (values, _), value? =>
      let n := if isExtended p then values.length else (value?.getD "").length
      return insertedAtoms quoted (toString n)
    | none, some s => return insertedAtoms quoted (toString s.length)
    | none, none =>
      if isForbidden p parameter then complainUnset parameter
      else return insertedAtoms quoted "0"
  | .otherwise orEmpty word => do
    let p ← get
    if isMissing p parameter orEmpty then
      let atoms ← expandPieces run (standInManner m quoted) true word
      return if quoted then .mark :: atoms else atoms
    else return parameterAtoms p m quoted parameter
  | .instead orEmpty word => do
    if isMissing (← get) parameter orEmpty then return if quoted then [.mark] else []
    else
      let atoms ← expandPieces run (standInManner m quoted) true word
      return if quoted then .mark :: atoms else atoms
  | .assign orEmpty word => do
    if isMissing (← get) parameter orEmpty then
      let value := textOf (← expandPieces run {} true word)
      assignParameter parameter value
    return parameterAtoms (← get) m quoted parameter
  | .insist orEmpty word => do
    let p ← get
    if isMissing p parameter orEmpty then
      let message := textOf (← expandPieces run {} true word)
      let usual :=
        if !orEmpty then "parameter not set"
        else if isExtended p then "parameter null or not set"
        else "parameter not set or null"
      giveUp (parameter.text ++ ": " ++ if word.isEmpty then usual else message)
    else return parameterAtoms p m quoted parameter
  | .without atEnd longest word => do
    let p ← get
    if isForbidden p parameter then complainUnset parameter
    else if (parameterValue? p parameter).isNone then return parameterAtoms p m quoted parameter
    else
      let pattern := patternOf p (← expandPieces run {} true word)
      let cut := fun s : String => String.ofList (cutPattern atEnd longest pattern s.toList)
      let p ← get
      if isExtended p then return parameterAtomsWith cut p m quoted parameter
      else
        return insertedAtoms quoted (cut ((parameterValue? p parameter).getD ""))
  | .recase great all word => do
    if isForbidden (← get) parameter then complainUnset parameter
    else
      let pattern := patternOf (← get) (← expandPieces run {} true word)
      let change := fun s : String =>
        String.ofList (Reshaping.recase great all pattern s.toList)
      return parameterAtomsWith change (← get) m quoted parameter
  | .replace coverage word replacement => do
    if isForbidden (← get) parameter then complainUnset parameter
    else
      let pattern := patternOf (← get) (← expandPieces run {} true word)
      let new := markedOf (← expandPieces run {} true replacement)
      let change := fun s : String =>
        String.ofList (Reshaping.replace coverage pattern new s.toList)
      return parameterAtomsWith change (← get) m quoted parameter
  | .slice offset bounded length => do
    if isForbidden (← get) parameter then complainUnset parameter
    else
      let offset ← arithmeticValue (textOf (← expandPieces run {} false offset))
      let lengthText := textOf (← expandPieces run {} false length)
      let length? ← if bounded then some <$> arithmeticValue lengthText else pure none
      let p ← get
      match manyValues? p parameter with
      | some (_, joined) =>
        let values := entriesFrom p parameter offset
        match length? with
        | some n =>
          if n < 0 then raise (lengthText ++ ": substring expression < 0")
          else return manyAtoms p m quoted joined (values.take n.toNat)
        | none => return manyAtoms p m quoted joined values
      | none =>
        let cs := ((parameterValue? p parameter).getD "").toList
        match Reshaping.bounds? cs.length offset length? with
        | some (start, n) =>
          return insertedAtoms quoted (String.ofList ((cs.drop start).take n))
        | none => raise (lengthText ++ ": substring expression < 0")
  | .transform letter => do
    let p ← get
    if isForbidden p parameter then complainUnset parameter
    else if (parameterValue? p parameter).isNone then return insertedAtoms quoted ""
    else return parameterAtomsWith (Reshaping.transform letter) p m quoted parameter
  | .bad spelled => do
    if isExtended (← get) then raise (spelled ++ ": bad substitution")
    else raise "Bad substitution"

end

/-- The words that a word stands for. -/
def alternativesOf (w : Word) : Doing (List Word) := do
  return if isExtended (← get) then Braces.expand w else [w]

/-- Expand a word to its fields. -/
def expandFields (run : Script → Doing Unit) (w : Word) : Doing (List String) := do
  let fields ← (← alternativesOf w).mapM fun w => do
    let atoms ← expandPieces run { fields := true } true w
    let p ← get
    return (fieldsOf (separators p) atoms).flatMap (textsOfField p)
  return fields.flatten

/-- Expand words to their fields. -/
def expandWords (run : Script → Doing Unit) : List Word → Doing (List String)
  | [] => return []
  | w :: rest => do
    let fields ← expandFields run w
    return fields ++ (← expandWords run rest)

/-- Expand a word to one text. -/
def expandText (run : Script → Doing Unit) (w : Word) : Doing String := do
  return textOf (← expandPieces run {} true w)

/-- Expand the value of an assignment. -/
def expandValue (run : Script → Doing Unit) (w : Word) : Doing String := do
  return textOf (← expandPieces run { assigned := true } true w)

/-- Expand a word to a pattern. -/
def expandPattern (run : Script → Doing Unit) (w : Word) : Doing (List Marked) := do
  let atoms ← expandPieces run {} true w
  return patternOf (← get) atoms

end GuardCost.Shell
