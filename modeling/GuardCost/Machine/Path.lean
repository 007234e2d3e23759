/-
GuardCost/Machine/Path.lean

Paths as byte strings.  A path is kept as it is spelled; `components` reads
it as a list of steps, in which repeated slashes and inner dots do not count.
Joining appends with one slash, unless the second path is absolute and
replaces the first.  `absolute` is lexical: it puts the current directory
in front of a relative path, drops what `components` drops, and keeps every
`..` as well as a leading double slash and a slash at the end, which can carry
meaning.
-/
import GuardCost.Machine.SystemError
import GuardCost.Text.Bytes
import GuardCost.Text.Parts

namespace GuardCost

/-- A path, as it is spelled. -/
structure Path where
  bytes : Bytes
  deriving DecidableEq, Repr

/-- A step of a path. -/
inductive Component where
  /-- The slash at the start of an absolute path. -/
  | root
  /-- A dot at the start of a relative path. -/
  | current
  /-- Two dots. -/
  | parent
  | name (bytes : Bytes)
  deriving DecidableEq, Repr

namespace Component

/-- The spelling of a step. -/
def bytes : Component → Bytes
  | root => [Bytes.slash]
  | current => [Bytes.dot]
  | parent => [Bytes.dot, Bytes.dot]
  | name b => b

/-- Read one part of a path; the empty part and the dot are no steps. -/
def ofPart? (part : Bytes) : Option Component :=
  if part = [] ∨ part = [Bytes.dot] then none
  else if part = [Bytes.dot, Bytes.dot] then some parent
  else some (name part)

end Component

namespace Path

/-- The path with this spelling. -/
def ofString (s : String) : Path := ⟨Bytes.ofString s⟩

/-- A path as text. -/
def text (p : Path) : String := Bytes.lossy p.bytes

/-- Whether a path starts at the root. -/
def isAbsolute (p : Path) : Bool := p.bytes.head? == some Bytes.slash

/-- Whether a path ends with a slash. -/
def endsWithSlash (p : Path) : Bool := p.bytes.getLast? == some Bytes.slash

/-- Append a path, or replace by it if it is absolute. -/
def join (p q : Path) : Path :=
  if q.isAbsolute then q
  else if p.bytes = [] ∨ p.endsWithSlash then ⟨p.bytes ++ q.bytes⟩
  else ⟨p.bytes ++ Bytes.slash :: q.bytes⟩

/-- Append a path given as text. -/
def child (p : Path) (s : String) : Path := p.join (ofString s)

/-- The parts of a path between its slashes. -/
def parts (p : Path) : List Bytes := partsAt Bytes.slash p.bytes

/-- The steps of a path. -/
def components (p : Path) : List Component :=
  let steps := p.parts.filterMap Component.ofPart?
  if p.isAbsolute then .root :: steps
  else if p.parts.head? = some [Bytes.dot] then .current :: steps
  else steps

/-- The steps of a path without a leading dot. -/
def componentsPastDot (p : Path) : List Component :=
  match p.components with
  | .current :: steps => steps
  | steps => steps

/-- Whether a path starts with exactly two slashes. -/
def hasDoubleRoot (p : Path) : Bool :=
  let two := [Bytes.slash, Bytes.slash]
  Bytes.startsWith p.bytes two && !Bytes.startsWith p.bytes (Bytes.slash :: two)

/-- Append steps one after the other. -/
def extend (p : Path) (steps : List Component) : Path :=
  steps.foldl (fun acc step => acc.join ⟨step.bytes⟩) p

/-- The absolute form of a path.  Only a relative path asks for the current
directory, which may be unknown. -/
def absolute (p : Path) (current : Except SystemError Path) : Except SystemError Path :=
  if p.bytes = [] then .error .emptyPath
  else
    let steps := p.componentsPastDot
    let whole :=
      if p.isAbsolute then
        .ok (if p.hasDoubleRoot then (⟨[Bytes.slash, Bytes.slash]⟩ : Path).extend steps.tail
          else (⟨[]⟩ : Path).extend steps)
      else current.map (·.extend steps)
    whole.map fun q => if p.endsWithSlash then q.join ⟨[]⟩ else q

/-- Whether a path has more than one step. -/
def hasDirectoryPart (p : Path) : Bool := decide (1 < p.components.length)

end Path

end GuardCost
