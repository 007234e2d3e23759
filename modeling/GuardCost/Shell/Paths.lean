/-
GuardCost/Shell/Paths.lean

From patterns to the paths that fit them.  A pattern is matched name by name
between its slashes; a name that starts with a dot is matched only by a
pattern that does so too.  The paths are in ascending order.
-/
import GuardCost.Process.Basic
import GuardCost.Shell.Pattern

namespace GuardCost.Shell

open Process

/-- The names of the files in a directory. -/
def namesIn (w : World) (dir : String) : List String :=
  match w.files.list w.current (pathOf (if dir.isEmpty then "." else dir)) with
  | .ok names => names.map Bytes.widen
  | .error _ => []

/-- The names in a directory that fit a pattern. -/
def namesThatFit (w : World) (dir : String) (pattern : List Marked) : List String :=
  let parts := Wildcard.ofMarked pattern
  let dotted := parts.head? == some (.exactly '.')
  let own := if dotted then [".", ".."] else []
  (own ++ namesIn w dir).filter fun name =>
    (dotted || name.toList.head? != some '.') && Wildcard.fits parts name.toList

/-- The text of a pattern without special parts. -/
def exactText (pattern : List Marked) : String :=
  String.ofList ((Wildcard.quoteEscaped pattern).map (·.1))

/-- The paths that start with a text and go on as patterns say. -/
def pathsFrom (w : World) (start : String) : List (List Marked) → List String
  | [] => []
  | pattern :: rest =>
    if pattern.isEmpty then
      if rest.isEmpty then
        if w.files.isDirectory w.current (pathOf start) then [start] else []
      else pathsFrom w (start ++ "/") rest
    else if isPattern pattern then
      (namesThatFit w start pattern).flatMap fun name =>
        let path := start ++ name
        if rest.isEmpty then [path]
        else if w.files.isDirectory w.current (pathOf path) then pathsFrom w (path ++ "/") rest
        else []
    else
      let path := start ++ exactText pattern
      if rest.isEmpty then
        if (w.files.findUnfollowed w.current (pathOf path)).toBool then [path] else []
      else pathsFrom w (path ++ "/") rest

/-- The paths that fit a pattern; none if it is no pattern. -/
def pathsThatFit (w : World) (pattern : List Marked) : List String :=
  let parts := (partsAt ('/', false) (pattern.map fun (c, q) => (c, if c == '/' then false else q)))
  if parts.any isPattern then
    (pathsFrom w "" parts).mergeSort fun a b => !decide (b < a)
  else []

end GuardCost.Shell
