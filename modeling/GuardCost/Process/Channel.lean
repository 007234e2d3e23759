/-
GuardCost/Process/Channel.lean

Open channels and what all processes share.  A channel leads to a pipe, a
file, a directory or a device; processes refer to it by a number, so that two
of them can share a place in a file.

Processes that run side by side are carried out one after the other, each by
its own clock.  So whatever goes into a pipe carries the time at which it was
written, and a reader that takes it out waits until then.
-/
import GuardCost.Machine.Command
import GuardCost.Text.Bytes

namespace GuardCost.Process

/-! ### Channels -/

/-- Where a channel leads. -/
inductive Target where
  | pipe
  | file (place : Location)
  | directory
  | device (device : Device)
  deriving DecidableEq, Repr

/-- A text with the time at which it was written. -/
abbrev Piece := Time × String

/-- An open channel. -/
structure Channel where
  target : Target
  readable : Bool := true
  writable : Bool := true
  /-- Whether everything is written to the end of the file. -/
  appends : Bool := false
  /-- The place in a file. -/
  offset : Nat := 0
  /-- What was loaded, but not yet read. -/
  unread : List Char := []
  /-- What comes next out of a pipe, the oldest first. -/
  arriving : List Piece := []
  /-- When the last writer of a pipe went away. -/
  endTime : Time := 0
  /-- What was written into a pipe, the newest first. -/
  written : List Piece := []
  /-- How much more may be written into a pipe before its reader is looked
  at. -/
  room? : Option Nat := none
  /-- Whether more was to be written into a pipe than there was room for. -/
  broken : Bool := false
  /-- Whether a reader has come to the end. -/
  exhausted : Bool := false

namespace Channel

/-- The text that was written into a pipe, by the time of writing. -/
def collected (c : Channel) : List Piece :=
  c.written.reverse.mergeSort fun a b => a.1 ≤ b.1

/-- The whole text that was written into a pipe. -/
def text (c : Channel) : String := String.join (c.collected.map (·.2))

/-- A pipe from which this text can be read. -/
def ofText (s : String) : Channel := { target := .pipe, arriving := [(0, s)] }

end Channel

/-! ### What processes share -/

/-- A signal on its way to a process. -/
structure Signal where
  time : Time
  process : Nat
  number : Nat
  deriving DecidableEq, Repr

/-- What all processes share. -/
structure Machine where
  files : FileSystem
  /-- The clock of the process that is being carried out. -/
  clock : Time
  channels : List (Nat × Channel) := []
  nextChannel : Nat := 0
  nextProcess : Nat := 1000
  signals : List Signal := []
  /-- Nothing happens after this time. -/
  deadline? : Option Time := none

namespace Machine

/-- Whether the deadline has passed. -/
def isOverdue (m : Machine) : Bool :=
  match m.deadline? with
  | some deadline => decide (deadline < m.clock)
  | none => false

/-- Let the clock go on to a later time. -/
def waitUntil (m : Machine) (time : Time) : Machine := { m with clock := max m.clock time }

/-- A channel. -/
def channel? (m : Machine) (n : Nat) : Option Channel := m.channels.lookup n

/-- Change a channel. -/
def setChannel (m : Machine) (n : Nat) (c : Channel) : Machine :=
  { m with channels := m.channels.map fun entry => if entry.1 == n then (n, c) else entry }

/-- Open a channel. -/
def addChannel (m : Machine) (c : Channel) : Nat × Machine :=
  (m.nextChannel,
    { m with channels := (m.nextChannel, c) :: m.channels, nextChannel := m.nextChannel + 1 })

/-- Close the channels that were opened since a number was the next one, but
for some. -/
def closeSince (m : Machine) (first : Nat) (but : List Nat) : Machine :=
  { m with channels := m.channels.filter fun entry => entry.1 < first || but.contains entry.1 }

/-- Send a signal. -/
def send (m : Machine) (s : Signal) : Machine := { m with signals := m.signals ++ [s] }

/-! ### Writing -/

/-- Put bytes at a place into others; a gap before it is filled with zeros. -/
def overwrite (content : Bytes) (offset : Nat) (new : Bytes) : Bytes :=
  let head := content.take offset
  head ++ List.replicate (offset - head.length) 0 ++ new ++ content.drop (offset + new.length)

/-- Write bytes to a file; where they end in it. -/
def writeFile (m : Machine) (place : Location) (offset? : Option Nat) (new : Bytes) :
    Nat × Machine :=
  match m.files.lookup? place with
  | some (.file content rights _) =>
    let content := match offset? with
      | some offset => overwrite content offset new
      | none => content ++ new
    let files := m.files.insert place (.file content rights m.clock)
    (offset?.getD 0 + new.length, { m with files })
  | _ => (offset?.getD 0 + new.length, m)

/-- Write to a channel. -/
def write (m : Machine) (n : Nat) (s : String) : Except SystemError Machine :=
  match m.channel? n with
  | none => .error .badDescriptor
  | some c =>
    if !c.writable then .error .badDescriptor
    else match c.target with
      | .pipe =>
        if c.room?.any (· < s.length) then .error .brokenPipe
        else
          let c := { c with
            written := (m.clock, s) :: c.written
            room? := c.room?.map (· - s.length) }
          .ok (m.setChannel n c)
      | .file place =>
        let (offset, m) := m.writeFile place (if c.appends then none else some c.offset)
          (Bytes.narrow s)
        .ok (m.setChannel n { c with offset, unread := [] })
      | .device .full => if s.isEmpty then .ok m else .error .noSpace
      | .device _ => .ok m
      | .directory => .error .badDescriptor

/-- Note that more was to be written into a pipe than there was room for. -/
def breakPipe (m : Machine) (n : Nat) : Machine :=
  match m.channel? n with
  | some c => m.setChannel n { c with broken := true, room? := some 0 }
  | none => m

/-! ### Reading -/

/-- How much a program reads at once. -/
def blockSize : Nat := 8192

/-- What was loaded of a channel and not yet read, after loading more if there
was nothing left.  The clock goes on to when it was written. -/
def load (m : Machine) (n : Nat) : List Char × Machine :=
  match m.channel? n with
  | none => ([], m)
  | some c =>
    if !c.unread.isEmpty then (c.unread, m)
    else match c.target with
      | .pipe =>
        match c.arriving.dropWhile fun piece => piece.2.isEmpty with
        | (time, s) :: arriving =>
          let unread := s.toList
          (unread, (m.waitUntil time).setChannel n { c with unread, arriving })
        | [] =>
          ([], (m.waitUntil c.endTime).setChannel n { c with arriving := [], exhausted := true })
      | .file place =>
        match m.files.lookup? place with
        | some (.file content ..) =>
          let unread := (Bytes.widen (content.drop c.offset)).toList
          (unread, m.setChannel n { c with unread })
        | _ => ([], m)
      | .device .zero =>
        let unread := List.replicate blockSize '\x00'
        (unread, m.setChannel n { c with unread })
      | _ => ([], m)

/-- Take characters that were loaded. -/
def take (m : Machine) (n count : Nat) : Machine :=
  match m.channel? n with
  | none => m
  | some c =>
    m.setChannel n { c with unread := c.unread.drop count, offset := c.offset + count }

/-- Read what is there, but no more than a block. -/
def readSome (m : Machine) (n : Nat) : List Char × Machine :=
  let (loaded, m) := m.load n
  let part := loaded.take blockSize
  (part, m.take n part.length)

/-- Read the next line with its line break, up to an allowance of loads. -/
def readLine (m : Machine) (n : Nat) (allowance : Nat) : List Char × Machine :=
  match allowance with
  | 0 => ([], m)
  | k + 1 =>
    let (loaded, m) := m.load n
    let line := loaded.takeWhile (· != '\n')
    if loaded.isEmpty then ([], m)
    else if line.length < loaded.length then (line ++ ['\n'], m.take n (line.length + 1))
    else
      let (more, m) := (m.take n line.length).readLine n k
      (line ++ more, m)

/-- Read up to so many characters, or up to a character that ends them, with
that, up to an allowance of loads. -/
def readUpTo (m : Machine) (n : Nat) (final? : Option Char) (most allowance : Nat) :
    List Char × Machine :=
  match allowance with
  | 0 => ([], m)
  | k + 1 =>
    let (loaded, m) := m.load n
    let part := (loaded.take most).takeWhile fun c => some c != final?
    if loaded.isEmpty then ([], m)
    else if part.length = most then (part, m.take n most)
    else if part.length < loaded.length then (part ++ final?.toList, m.take n (part.length + 1))
    else
      let (more, m) := (m.take n part.length).readUpTo n final? (most - part.length) k
      (part ++ more, m)

/-- Read all that is left, up to an allowance of loads. -/
def readAll (m : Machine) (n : Nat) (allowance : Nat) : List (List Char) × Machine :=
  match allowance with
  | 0 => ([], m)
  | k + 1 =>
    let (loaded, m) := m.load n
    if loaded.isEmpty then ([], m)
    else
      let (more, m) := (m.take n loaded.length).readAll n k
      (loaded :: more, m)

end Machine

end GuardCost.Process
