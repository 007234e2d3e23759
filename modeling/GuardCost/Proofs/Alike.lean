/-
GuardCost/Proofs/Alike.lean

Machines that are alike.  Two machines are *alike* outside a set of locations
if they have the same current directory and, times aside, their file systems
agree everywhere else (`World.Alike`).  A path is *apart* from a set if the walk
to it looks at no location of the set (`World.Apart`).  Then

    Alike X w w',  w.Apart X q   →  w'.locate q = w.locate q,
                                     w'.seen q = w.seen q,  w'.Apart X q

where `World.seen` is what a path names, times aside; whether it is a file, and
what is read from it (`World.content?`), follow.
-/
import GuardCost.Proofs.Walks

namespace GuardCost

/-- The names in a path, without what repeated slashes leave between them. -/
def Path.names (p : Path) : List Bytes := p.parts.filter fun part => part != []

namespace FileSystem

variable (fs : FileSystem) (current : Location)

/-- What a walk that has ended says about the path it was for. -/
def settle (p : Path) (loc : Location) : Except SystemError Location :=
  match fs.node? loc with
  | some (.file ..) => if p.endsWithSlash then .error .notDirectory else .ok loc
  | some (.device _) => if p.endsWithSlash then .error .notDirectory else .ok loc
  | _ => .ok loc

/-- Where the walk along a path starts. -/
def startOf (current : Location) (p : Path) : Location := if p.isAbsolute then [] else current

theorem locate_eq (p : Path) (fl : Bool) :
    fs.locate current p fl =
      if p.bytes = [] then .error .notFound
      else if (0 : UInt8) ∈ p.bytes then .error .zeroInName
      else if longestPath < p.bytes.length then .error .nameTooLong
      else (fs.walk (fl || p.endsWithSlash) linkAllowance (startOf current p) p.names).bind
        (fs.settle p) := by
  unfold locate
  split
  · rfl
  · split
    · rfl
    · split
      · rfl
      · refine congrArg _ ?_
        funext loc
        dsimp only [settle, node?]
        cases fs.lookup? loc with
        | none => rfl
        | some node => cases node <;> rfl

theorem settle_of_not_endsWithSlash {p : Path} (h : p.endsWithSlash = false) (loc : Location) :
    fs.settle p loc = .ok loc := by
  unfold settle
  rw [h]
  split <;> rfl

/-- A path leads where the walk along it ends. -/
theorem walk_of_locate {fs : FileSystem} {current : Location} {p : Path} {fl : Bool}
    {loc : Location} (h : fs.locate current p fl = .ok loc) :
    fs.walk (fl || p.endsWithSlash) linkAllowance (startOf current p) p.names = .ok loc := by
  rw [locate_eq] at h
  split_ifs at h
  cases hw : fs.walk (fl || p.endsWithSlash) linkAllowance (startOf current p) p.names with
  | error e =>
    rw [hw] at h
    cases h
  | ok loc' =>
    rw [hw] at h
    simp only [Except.bind, settle] at h
    split at h <;> (try split at h) <;> cases h <;> rfl

/-- What a path names, links followed and times aside. -/
def seen (p : Path) : Except SystemError (Location × Node) :=
  (fs.locate current p true).bind fun loc =>
    match fs.node? loc with
    | some node => .ok (loc, node)
    | none => .error .notFound

/-- What a path names stands where the walk along it ends. -/
theorem of_seen {fs : FileSystem} {current : Location} {p : Path} {loc : Location} {node : Node}
    (h : fs.seen current p = .ok (loc, node)) :
    fs.locate current p true = .ok loc ∧
      fs.walk true linkAllowance (startOf current p) p.names = .ok loc ∧
      fs.node? loc = some node := by
  unfold seen at h
  cases hl : fs.locate current p true with
  | error e =>
    rw [hl] at h
    cases h
  | ok loc' =>
    rw [hl] at h
    simp only [Except.bind] at h
    split at h
    · next hn =>
      cases h
      have hw := walk_of_locate hl
      rw [Bool.true_or] at hw
      exact ⟨rfl, hw, hn⟩
    · cases h

/-- Without links a path names what stands at the end of its way. -/
theorem seen_linkless {fs : FileSystem} (hl : ∀ loc, fs.HasNoLink loc) {current : Location}
    {p : Path} {loc : Location} {node : Node} (h : fs.seen current p = .ok (loc, node)) :
    loc = p.names.foldl partStep (startOf current p) :=
  walk_linkless hl (of_seen h).2.1

theorem seen_eq (p : Path) :
    fs.seen current p = (fs.find current p).map fun x => (x.1, x.2.timeless) := by
  unfold seen find
  cases fs.locate current p true with
  | error e => rfl
  | ok loc =>
    dsimp only [Except.bind, bind, node?]
    cases fs.lookup? loc <;> rfl

theorem isFile_eq (p : Path) :
    fs.isFile current p =
      match fs.seen current p with
      | .ok (_, .file ..) => true
      | _ => false := by
  rw [seen_eq, isFile]
  cases fs.find current p with
  | error e => rfl
  | ok x =>
    obtain ⟨loc, node⟩ := x
    cases node <;> rfl

theorem isDirectory_eq (p : Path) :
    fs.isDirectory current p =
      match fs.seen current p with
      | .ok (_, .directory _) => true
      | _ => false := by
  rw [seen_eq, isDirectory]
  cases fs.find current p with
  | error e => rfl
  | ok x =>
    obtain ⟨loc, node⟩ := x
    cases node <;> rfl

theorem list_eq (p : Path) :
    fs.list current p =
      match fs.seen current p with
      | .ok (loc, .directory _) => .ok (fs.children loc)
      | .ok _ => .error .notDirectory
      | .error e => .error e := by
  rw [seen_eq, list]
  cases fs.find current p with
  | error e => rfl
  | ok x =>
    obtain ⟨loc, node⟩ := x
    cases node <;> rfl

end FileSystem

/-- The locations on the way along a path, if it meets no link. -/
def Path.way (current : Location) (p : Path) : List Location :=
  p.names.scanl FileSystem.partStep (FileSystem.startOf current p)

/-- A path whose way is one of directories leads to the last one. -/
theorem FileSystem.seen_of_directories {fs : FileSystem} {current : Location} {p : Path}
    (hbytes : p.bytes ≠ [] ∧ (0 : UInt8) ∉ p.bytes ∧ p.bytes.length ≤ longestPath)
    (hnames : ∀ part ∈ p.names, IsName part ∧ part.length ≤ longestName)
    (hdirs : ∀ loc ∈ p.way current, fs.HasDirectory loc) {R : Location}
    (hR : p.names.foldl partStep (startOf current p) = R) (hd : fs.HasDirectory R) (fl : Bool) :
    fs.locate current p fl = .ok R ∧ fs.seen current p = .ok (R, .directory 0) := by
  have hloc : ∀ fl, fs.locate current p fl = .ok R := by
    intro fl
    rw [locate_eq, if_neg hbytes.1, if_neg hbytes.2.1, if_neg (Nat.not_lt.2 hbytes.2.2),
      walk_directories hnames hdirs, hR]
    simp only [Except.bind, settle]
    rw [hd]
  refine ⟨hloc fl, ?_⟩
  rw [seen, hloc]
  simp only [Except.bind]
  rw [hd]

namespace World

/-- What can be read of what stands at a location. -/
def readable : Option Node → Option Node
  | some (.directory _) => none
  | node? => node?

/-- What is read at a path, links followed: a file with its rights, or a
device. -/
def content? (w : World) (q : Path) : Option Node :=
  readable ((w.files.seen w.current q).toOption.map Prod.snd)

/-- The locations that are looked at on the way to what a path names. -/
def lookedAt (w : World) (q : Path) : List Location :=
  w.files.looked FileSystem.linkAllowance (FileSystem.startOf w.current q) q.names

/-- A path that is reached without a look at any of some locations. -/
def Apart (w : World) (X : Set Location) (q : Path) : Prop := ∀ loc ∈ w.lookedAt q, loc ∉ X

/-- Without links a path is apart from what is not on its way. -/
theorem apart_of_linkless {w : World} (hl : ∀ loc, w.files.HasNoLink loc) {X : Set Location}
    {q : Path} (h : ∀ loc ∈ q.way w.current, loc ∉ X) : w.Apart X q :=
  fun loc hloc => h loc (FileSystem.looked_linkless hl hloc)

/-- Machines that differ, times aside, at most in what stands at some
locations. -/
structure Alike (X : Set Location) (w w' : World) : Prop where
  current : w'.current = w.current
  node : ∀ loc, loc ∉ X → w'.files.node? loc = w.files.node? loc

namespace Alike

variable {X Y : Set Location} {w w' w'' : World}

theorem refl (X : Set Location) (w : World) : Alike X w w := ⟨rfl, fun _ _ => rfl⟩

theorem symm (h : Alike X w w') : Alike X w' w :=
  ⟨h.current.symm, fun loc hloc => (h.node loc hloc).symm⟩

theorem trans (h : Alike X w w') (h' : Alike X w' w'') : Alike X w w'' :=
  ⟨h'.current.trans h.current, fun loc hloc => (h'.node loc hloc).trans (h.node loc hloc)⟩

theorem mono (h : Alike X w w') (hXY : X ⊆ Y) : Alike Y w w' :=
  ⟨h.current, fun loc hloc => h.node loc fun hX => hloc (hXY hX)⟩

variable {q : Path}

theorem walk (h : Alike X w w') (ha : w.Apart X q) (fl : Bool) :
    w'.files.walk fl FileSystem.linkAllowance (FileSystem.startOf w'.current q) q.names =
        w.files.walk fl FileSystem.linkAllowance (FileSystem.startOf w.current q) q.names ∧
      w'.lookedAt q = w.lookedAt q := by
  rw [lookedAt, h.current]
  exact FileSystem.walk_congr fl fun loc hloc => h.node loc (ha loc hloc)

theorem apart (h : Alike X w w') (ha : w.Apart X q) : w'.Apart X q := by
  rw [Apart, (h.walk ha true).2]
  exact ha

/-- Where a path leads that is apart from all differences. -/
theorem locate (h : Alike X w w') (ha : w.Apart X q) (fl : Bool) :
    w'.files.locate w'.current q fl = w.files.locate w.current q fl := by
  rw [FileSystem.locate_eq, FileSystem.locate_eq, (h.walk ha _).1]
  cases hw : w.files.walk (fl || q.endsWithSlash) FileSystem.linkAllowance
      (FileSystem.startOf w.current q) q.names with
  | error e => rfl
  | ok loc =>
    have hloc := h.node loc (ha loc (FileSystem.mem_looked_of_walk hw))
    simp only [Except.bind, FileSystem.settle, hloc]

/-- What a path names that is apart from all differences. -/
theorem seen (h : Alike X w w') (ha : w.Apart X q) :
    w'.files.seen w'.current q = w.files.seen w.current q := by
  rw [FileSystem.seen, FileSystem.seen, h.locate ha]
  cases hl : w.files.locate w.current q true with
  | error e => rfl
  | ok loc =>
    have hmem : loc ∈ w.lookedAt q :=
      FileSystem.mem_looked_of_walk (FileSystem.walk_of_locate hl)
    simp only [Except.bind, h.node loc (ha loc hmem)]

theorem content (h : Alike X w w') (ha : w.Apart X q) : w'.content? q = w.content? q := by
  rw [content?, content?, h.seen ha]

theorem isFile (h : Alike X w w') (ha : w.Apart X q) :
    w'.files.isFile w'.current q = w.files.isFile w.current q := by
  rw [FileSystem.isFile_eq, FileSystem.isFile_eq, h.seen ha]

theorem isDirectory (h : Alike X w w') (ha : w.Apart X q) :
    w'.files.isDirectory w'.current q = w.files.isDirectory w.current q := by
  rw [FileSystem.isDirectory_eq, FileSystem.isDirectory_eq, h.seen ha]

end Alike

end World

end GuardCost
