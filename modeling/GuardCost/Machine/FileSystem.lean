/-
GuardCost/Machine/FileSystem.lean

A file system as a value.  A `Location` is the list of names from the root
to a file, without dots and links; the file system is a finite table from
locations to nodes.  A path is turned into a location by `walk`, which
follows symbolic links, at most forty of them, and takes `..` physically.
Every request answers the error that the system would give.

The walk ends because following a link uses up the allowance and any other
step shortens what is left of the path.
-/
import GuardCost.Machine.Path

namespace GuardCost

/-- The names from the root to a file. -/
abbrev Location := List Bytes

/-- A point in time, in nanoseconds. -/
abbrev Time := Nat

/-- A file without a content of its own. -/
inductive Device where
  /-- Nothing to read, and whatever is written is gone. -/
  | null
  /-- Zero bytes without end. -/
  | zero
  /-- Zero bytes without end, and no room to write. -/
  | full
  /-- The terminal of a process, where there is none. -/
  | terminal
  /-- What the process that opens it has open under a number. -/
  | descriptor (number : Nat)
  deriving DecidableEq, Repr

/-- The rights on a file, as the nine bits of its owner, its group and all
others. -/
abbrev Rights := Nat

namespace Rights

/-- A file that can be read. -/
def plain : Rights := 0o644

/-- A file that can be run. -/
def program : Rights := 0o755

/-- Whether anyone may run the file. -/
def isRunnable (r : Rights) : Bool := r % 2 == 1 || r / 8 % 2 == 1 || r / 64 % 2 == 1

end Rights

/-- What stands at a location. -/
inductive Node where
  | file (content : Bytes) (rights : Rights) (modified : Time)
  | link (target : Bytes)
  | directory (modified : Time)
  | device (device : Device)
  deriving DecidableEq, Repr

/-- The table of everything below the root; no location has two entries. -/
structure FileSystem where
  entries : List (Location × Node)
  distinct : (entries.map Prod.fst).Nodup
  deriving DecidableEq, Repr

namespace Location

/-- The absolute path of a location. -/
def path : Location → Path
  | [] => ⟨[Bytes.slash]⟩
  | names => ⟨names.flatMap fun name => Bytes.slash :: name⟩

end Location

namespace FileSystem

/-! ### The table -/

/-- The file system with nothing in it. -/
def empty : FileSystem := ⟨[], List.nodup_nil⟩

theorem distinct_filter (fs : FileSystem) (keep : Location × Node → Bool) :
    ((fs.entries.filter keep).map Prod.fst).Nodup :=
  (List.filter_sublist.map Prod.fst).nodup fs.distinct

/-- The entries that are kept. -/
def restrict (fs : FileSystem) (keep : Location × Node → Bool) : FileSystem :=
  ⟨fs.entries.filter keep, fs.distinct_filter keep⟩

theorem distinct_insert (fs : FileSystem) (loc : Location) (node : Node) :
    (((loc, node) :: fs.entries.filter fun entry => entry.1 != loc).map Prod.fst).Nodup := by
  refine List.nodup_cons.2 ⟨?_, fs.distinct_filter _⟩
  intro h
  obtain ⟨entry, hentry, rfl⟩ := List.mem_map.1 h
  simp at hentry

/-- What stands at a location; at the root there is always a directory. -/
def lookup? (fs : FileSystem) (loc : Location) : Option Node :=
  if loc = [] then some (.directory 0) else fs.entries.lookup loc

/-- Put a node at a location. -/
def insert (fs : FileSystem) (loc : Location) (node : Node) : FileSystem :=
  ⟨(loc, node) :: fs.entries.filter fun entry => entry.1 != loc, fs.distinct_insert loc node⟩

/-- The file system with these entries; of two at one location the first
counts. -/
def ofEntries (entries : List (Location × Node)) : FileSystem :=
  entries.foldr (fun (loc, node) fs => fs.insert loc node) empty

/-- Clear a location. -/
def erase (fs : FileSystem) (loc : Location) : FileSystem :=
  fs.restrict fun entry => entry.1 != loc

/-- The names of the files in a directory. -/
def children (fs : FileSystem) (loc : Location) : List Bytes :=
  fs.entries.filterMap fun entry =>
    match entry.1.getLast? with
    | some name => if entry.1.dropLast = loc then some name else none
    | none => none

/-- Note a change in a directory. -/
def touchDirectory (fs : FileSystem) (loc : Location) (now : Time) : FileSystem :=
  if loc = [] then fs else fs.insert loc (.directory now)

/-! ### From paths to locations -/

/-- The longest name a file can have. -/
def longestName : Nat := 255

/-- The longest path a request can name. -/
def longestPath : Nat := 4095

/-- How many links are followed in one walk. -/
def linkAllowance : Nat := 40

/-- Walk from a directory along the parts of a path.  Only the last part may
be missing; it is followed if it is a link and `followLast` says so. -/
def walk (fs : FileSystem) (followLast : Bool) (links : Nat) (here : Location)
    (todo : List Bytes) : Except SystemError Location :=
  match todo with
  | [] => .ok here
  | part :: rest =>
    if part = [] ∨ part = [Bytes.dot] then walk fs followLast links here rest
    else if part = [Bytes.dot, Bytes.dot] then walk fs followLast links here.dropLast rest
    else if longestName < part.length then .error .nameTooLong
    else
      let there := here ++ [part]
      match fs.lookup? there with
      | none => if rest = [] then .ok there else .error .notFound
      | some (.directory _) => walk fs followLast links there rest
      | some (.file ..) => if rest = [] then .ok there else .error .notDirectory
      | some (.device _) => if rest = [] then .ok there else .error .notDirectory
      | some (.link target) =>
        if rest = [] ∧ !followLast then .ok there
        else match links with
          | 0 => .error .linkLoop
          | links + 1 =>
            let start := if target.head? = some Bytes.slash then [] else here
            walk fs followLast links start (partsAt Bytes.slash target ++ rest)
termination_by (links, todo.length)

/-- The location that a path names, seen from a current directory.  A slash
at its end asks for a directory. -/
def locate (fs : FileSystem) (current : Location) (p : Path) (followLast : Bool) :
    Except SystemError Location := do
  if p.bytes = [] then throw .notFound
  else if (0 : UInt8) ∈ p.bytes then throw .zeroInName
  else if longestPath < p.bytes.length then throw .nameTooLong
  else
    let start := if p.isAbsolute then [] else current
    let names := p.parts.filter fun part => part != []
    let loc ← walk fs (followLast || p.endsWithSlash) linkAllowance start names
    match fs.lookup? loc with
    | some (.file ..) => if p.endsWithSlash then throw .notDirectory else return loc
    | some (.device _) => if p.endsWithSlash then throw .notDirectory else return loc
    | _ => return loc

/-- The node that a path names, links followed, with its location. -/
def find (fs : FileSystem) (current : Location) (p : Path) :
    Except SystemError (Location × Node) := do
  let loc ← fs.locate current p true
  match fs.lookup? loc with
  | some node => .ok (loc, node)
  | none => .error .notFound

/-- The node that a path names, with its location; a link stands for
itself. -/
def findUnfollowed (fs : FileSystem) (current : Location) (p : Path) :
    Except SystemError (Location × Node) := do
  let loc ← fs.locate current p false
  match fs.lookup? loc with
  | some node => .ok (loc, node)
  | none => .error .notFound

/-- The location that a file is written to.  A name with a slash at its end
can only be that of a directory. -/
def locateForWriting (fs : FileSystem) (current : Location) (p : Path) :
    Except SystemError Location := do
  let names := p.parts.filter fun part => part != []
  if p.endsWithSlash && !names.isEmpty then
    let start := if p.isAbsolute then [] else current
    let _ ← walk fs true linkAllowance start (names.dropLast ++ [[Bytes.dot]])
    throw .isDirectory
  else fs.locate current p true

/-! ### Questions -/

/-- Whether a path names a file, links followed. -/
def isFile (fs : FileSystem) (current : Location) (p : Path) : Bool :=
  match fs.find current p with
  | .ok (_, .file ..) => true
  | _ => false

/-- Whether a path names a directory, links followed. -/
def isDirectory (fs : FileSystem) (current : Location) (p : Path) : Bool :=
  match fs.find current p with
  | .ok (_, .directory _) => true
  | _ => false

/-- When the file or directory that a path names was last changed. -/
def modified? (fs : FileSystem) (current : Location) (p : Path) : Option Time :=
  match fs.find current p with
  | .ok (_, .file _ _ time) => some time
  | .ok (_, .directory time) => some time
  | .ok (_, .device _) => some 0
  | _ => none

/-- The content of a file; a device has none. -/
def read (fs : FileSystem) (current : Location) (p : Path) : Except SystemError Bytes := do
  match ← fs.find current p with
  | (_, .file content _ _) => .ok content
  | (_, .device .terminal) => .error .noDevice
  | (_, .device _) => .ok []
  | _ => .error .isDirectory

/-- The names in a directory. -/
def list (fs : FileSystem) (current : Location) (p : Path) :
    Except SystemError (List Bytes) := do
  match ← fs.find current p with
  | (loc, .directory _) => .ok (fs.children loc)
  | _ => .error .notDirectory

/-! ### Changes -/

/-- Put a node into a directory that has nothing of that name. -/
def enter (fs : FileSystem) (loc : Location) (now : Time) (node : Node) : FileSystem :=
  (fs.touchDirectory loc.dropLast now).insert loc node

/-- Write a file.  An existing one keeps its rights, a new one gets the
given ones. -/
def writeAs (fs : FileSystem) (rights : Rights) (current : Location) (now : Time) (p : Path)
    (content : Bytes) : Except SystemError FileSystem := do
  let loc ← fs.locateForWriting current p
  match fs.lookup? loc with
  | some (.directory _) => .error .isDirectory
  | some (.file _ rights _) => .ok (fs.insert loc (.file content rights now))
  | some (.device .full) => if content = [] then .ok fs else .error .noSpace
  | some (.device .terminal) => .error .noDevice
  | some (.device _) => .ok fs
  | _ => .ok (fs.enter loc now (.file content rights now))

/-- Write a file.  An existing one keeps its rights, a new one cannot be run. -/
def write (fs : FileSystem) (current : Location) (now : Time) (p : Path) (content : Bytes) :
    Except SystemError FileSystem := fs.writeAs .plain current now p content

/-- Make a directory. -/
def createDirectory (fs : FileSystem) (current : Location) (now : Time) (p : Path) :
    Except SystemError FileSystem := do
  let loc ← fs.locate current p false
  match fs.lookup? loc with
  | some _ => .error .exists_
  | none => .ok (fs.enter loc now (.directory now))

/-- Make a link. -/
def createLink (fs : FileSystem) (current : Location) (now : Time) (target : Bytes) (p : Path) :
    Except SystemError FileSystem := do
  let loc ← fs.locate current p false
  match fs.lookup? loc with
  | some _ => .error .exists_
  | none => if p.endsWithSlash then .error .notFound else .ok (fs.enter loc now (.link target))

/-- Remove a file or a link, but no directory. -/
def removeFile (fs : FileSystem) (current : Location) (now : Time) (p : Path) :
    Except SystemError FileSystem := do
  let loc ← fs.locate current p false
  match fs.lookup? loc with
  | none => .error .notFound
  | some (.directory _) => .error .isDirectory
  | some _ => .ok ((fs.touchDirectory loc.dropLast now).erase loc)

/-- Remove a directory with nothing in it. -/
def removeDirectory (fs : FileSystem) (current : Location) (now : Time) (p : Path) :
    Except SystemError FileSystem := do
  let loc ← fs.locate current p false
  match fs.lookup? loc with
  | none => .error .notFound
  | some (.directory _) =>
    if loc = [] then .error .busy
    else if (p.parts.filter (· != [])).getLast? = some [Bytes.dot] then .error .invalid
    else if fs.children loc ≠ [] then .error .notEmpty
    else .ok ((fs.touchDirectory loc.dropLast now).erase loc)
  | some _ => .error .notDirectory

/-- The location of a file once the directory it is in, or it itself, has
moved. -/
def moved (source target loc : Location) : Location := target ++ loc.drop source.length

theorem distinct_moved (fs : FileSystem) (source target : Location) :
    (((fs.entries.filter fun entry => source.isPrefixOf entry.1).map
        fun entry => (moved source target entry.1, entry.2)).map Prod.fst).Nodup := by
  rw [List.map_map]
  refine List.pairwise_map.2 ((List.pairwise_map.1 (fs.distinct_filter _)).imp_of_mem ?_)
  intro a b ha hb hne heq
  obtain ⟨-, ha⟩ := List.mem_filter.1 ha
  obtain ⟨-, hb⟩ := List.mem_filter.1 hb
  obtain ⟨x, hx⟩ := List.isPrefixOf_iff_prefix.1 ha
  obtain ⟨y, hy⟩ := List.isPrefixOf_iff_prefix.1 hb
  refine hne ?_
  simp only [Function.comp_apply, moved, ← hx, ← hy, List.drop_left] at heq ⊢
  rw [List.append_cancel_left heq]

/-- Move everything at and below one location to another one, where nothing
else is left. -/
def moveTree (fs : FileSystem) (source target : Location) : FileSystem where
  entries :=
    (fs.entries.filter fun entry => source.isPrefixOf entry.1).map
        (fun entry => (moved source target entry.1, entry.2))
      ++ fs.entries.filter fun entry =>
          !source.isPrefixOf entry.1 && !target.isPrefixOf entry.1
  distinct := by
    rw [List.map_append]
    refine List.nodup_append.2 ⟨fs.distinct_moved source target, fs.distinct_filter _, ?_⟩
    rintro loc hmoved loc' hstaying rfl
    simp only [List.map_map, List.mem_map, Function.comp_apply] at hmoved
    obtain ⟨entry, -, rfl⟩ := hmoved
    obtain ⟨other, hother, heq⟩ := List.mem_map.1 hstaying
    have hprefix : target.isPrefixOf (moved source target entry.1) = true :=
      List.isPrefixOf_iff_prefix.2 (List.prefix_append _ _)
    simp [heq, hprefix] at hother

/-- Give a file another name.  What has that name goes away, but only a
directory with nothing in it makes room for a directory. -/
def rename (fs : FileSystem) (current : Location) (now : Time) (p q : Path) :
    Except SystemError FileSystem := do
  let (source, node) ← fs.findUnfollowed current p
  let target ← fs.locate current q false
  let isDirectory := match node with
    | .directory _ => true
    | _ => false
  let after := ((fs.moveTree source target).touchDirectory source.dropLast now).touchDirectory
    target.dropLast now
  if source = target then .ok fs
  else if source.isPrefixOf target then .error .invalid
  else match fs.lookup? target with
    | some (.directory _) =>
      if !isDirectory then .error .isDirectory
      else if fs.children target ≠ [] then .error .notEmpty
      else .ok after
    | some _ => if isDirectory then .error .notDirectory else .ok after
    | none => if q.endsWithSlash && !isDirectory then .error .notDirectory else .ok after

/-- Give a file other rights; other nodes keep theirs. -/
def setRights (fs : FileSystem) (current : Location) (p : Path) (rights : Rights) :
    Except SystemError FileSystem := do
  match ← fs.find current p with
  | (loc, .file content _ time) => .ok (fs.insert loc (.file content rights time))
  | _ => .ok fs

/-- Say when a file or a directory was last changed. -/
def setModified (fs : FileSystem) (current : Location) (p : Path) (time : Time) :
    Except SystemError FileSystem := do
  match ← fs.find current p with
  | (loc, .file content rights _) => .ok (fs.insert loc (.file content rights time))
  | (loc, .directory _) => .ok (if loc = [] then fs else fs.insert loc (.directory time))
  | _ => .ok fs

/-! ### Whole trees -/

/-- Make the directories on the way to a place that are missing; links on the
way are followed. -/
def makeDirectories (fs : FileSystem) (now : Time) (names : List Bytes) : FileSystem :=
  (List.range (names.length + 1)).foldl (fun fs n =>
    (fs.createDirectory [] now (Location.path (names.take n))).toOption.getD fs) fs

/-- Everything below a place, by ascending names; the names start there. -/
def below (fs : FileSystem) (place : Location) : List (Location × Node) :=
  let inside := fs.entries.filterMap fun (loc, node) =>
    if place.isPrefixOf loc && place.length < loc.length then
      some (loc.drop place.length, node)
    else none
  inside.mergeSort fun a b => decide (a.1 ≤ b.1)

end FileSystem

end GuardCost
