/-
GuardCost/Shell/Redirection.lean

Redirections.  Their words are expanded first, all of them; then the
descriptors are opened one after the other, up to the first that fails.
-/
import GuardCost.Shell.Expansion

namespace GuardCost.Shell

open Process

/-- What a descriptor is to lead to. -/
inductive Opening where
  | file (access : Access) (name : String)
  | duplicate (source : Nat)
  | close
  | text (s : String)

/-- The descriptor that a text names. -/
def readSource (s : String) : Doing Opening := do
  let extended := isExtended (← get)
  match s.toList with
  | ['-'] => return .close
  | cs =>
    if !cs.isEmpty && cs.all Char.isDigit && (extended || cs.length = 1) then
      return .duplicate (Arithmetic.ofDigits 10 cs)
    else if extended then raise (s ++ ": ambiguous redirect")
    else raise "Syntax error: Bad fd number"

/-- Expand the word of a redirection. -/
def prepare (run : Script → Doing Unit) (r : Redirect) : Doing Opening :=
  match r with
  | .file access w => return .file access (← expandText run w)
  | .duplicate w => do readSource ((← expandFields run w).headD "")
  | .document n => do
    match (← get).shell.documents.lookup n with
    | some w => return .text (← expandText run w)
    | none => return .text ""

/-- Expand the words of redirections. -/
def prepareAll (run : Script → Doing Unit) (rs : Redirects) : Doing (List (Nat × Opening)) :=
  rs.mapM fun (descriptor, r) => return (descriptor, ← prepare run r)

/-- Why a file cannot be opened, as a shell says it. -/
def openMessage (d : Dialect) (creating : Bool) (file : String) (cause : SystemError) : String :=
  match d with
  | .extended => file ++ ": " ++ cause.plainMessage
  | .plain =>
    let reason :=
      if cause = .notFound ∨ cause = .notDirectory then
        if creating then "Directory nonexistent" else "No such file"
      else cause.plainMessage
    "cannot " ++ (if creating then "create " else "open ") ++ file ++ ": " ++ reason

/-- How long it takes to open a file, in nanoseconds. -/
def openingTime : Nat := 20000

/-- Open one descriptor. -/
def openOne (descriptor : Nat) (o : Opening) : Doing (Except String Unit) := do
  let p ← get
  match o with
  | .close => return .ok (← set (p.point descriptor none))
  | .duplicate source =>
    match p.channelNumber? source with
    | some n => return .ok (← set (p.point descriptor (some n)))
    | none => return .error (toString source ++ ": Bad file descriptor")
  | .text s =>
    let (n, machine) := p.machine.addChannel (.ofText s)
    return .ok (← set ({ p with machine }.point descriptor (some n)))
  | .file access name =>
    pass openingTime
    let p ← get
    let guarded := access == .create && hasOption p 'C'
    let dialect := p.shell.dialect
    if guarded && p.machine.files.isFile p.directory (pathOf name) then
      return .error (if isExtended p then name ++ ": cannot overwrite existing file"
        else openMessage dialect true name .exists_)
    else
      match ← openFile access name descriptor with
      | .ok () => return .ok ()
      | .error cause => return .error (openMessage dialect (access != .read) name cause)

/-- Open descriptors up to the first that fails; whether all went well. -/
def openAll : List (Nat × Opening) → Doing Bool
  | [] => return true
  | (descriptor, o) :: rest => do
    match ← openOne descriptor o with
    | .ok () => openAll rest
    | .error message =>
      complainAt message
      setStatus (if isExtended (← get) then 1 else 2)
      return false

/-- Make descriptors lead again to where they led before. -/
def restore (before : Process) (rs : Redirects) : Doing Unit :=
  modify fun p => rs.foldl (fun p (descriptor, _) =>
    p.point descriptor (before.channelNumber? descriptor)) p

/-- Do something, and make descriptors lead again to where they led before,
whatever happens. -/
def restoring (rs : Redirects) (body : Doing Unit) : Doing Unit := do
  let before ← get
  tryFinally body (restore before rs)

end GuardCost.Shell
