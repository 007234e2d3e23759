/-
GuardCost/Build/Sources.lean

The sources of a program: the files in its directory whose names are text
and end in one of its extensions, in ascending order.  The extension is what
follows the last dot; a dot at the very start of a name does not count.
-/
import GuardCost.Build.Stage

namespace GuardCost

/-- What follows the last dot of a file name, unless that dot is its first
byte. -/
def extension? (name : Bytes) : Option Bytes :=
  match splitLast? Bytes.dot name with
  | some (_ :: _, ext) => if name = [Bytes.dot, Bytes.dot] then none else some ext
  | _ => none

/-- Whether a file name has one of some extensions. -/
def hasExtension (extensions : List String) (name : Bytes) : Bool :=
  (extension? name).any fun ext => extensions.any fun e => Bytes.ofString e == ext

/-- Put texts into ascending order. -/
def sortTexts (names : List String) : List String :=
  names.mergeSort fun a b => !decide (b < a)

namespace Program

/-- The sources among the files of a directory, given the names in it. -/
def selectSources (p : Program) (w : World) (dir : Path) (names : List Bytes) : List String :=
  sortTexts (names.filterMap fun name =>
    if w.files.isFile w.current (dir.join ⟨name⟩) && hasExtension p.sourceExtensions name then
      Bytes.decode? name
    else none)

/-- The sources of a program in its directory; there must be one. -/
def findSources (p : Program) (w : World) (dir : Path) : Except BuildError (List String) :=
  match w.files.list w.current dir with
  | .error cause => .error (.io p.name .sources dir cause)
  | .ok names =>
    match p.selectSources w dir names with
    | [] => .error (.noSources p.name dir)
    | sources => .ok sources

end Program

end GuardCost
