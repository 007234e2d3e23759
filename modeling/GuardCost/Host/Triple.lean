/-
GuardCost/Host/Triple.lean

Word widths, processor families and target triples.  A triple
`arch-vendor-os[-env]` names the machine that code is compiled for; only its
first field and its spelling are looked at.  A text is a triple when, blanks
at both ends dropped, it has a dash and something before the first one.
-/
import GuardCost.Text.Basic

namespace GuardCost

/-! ### Word widths and processor families -/

/-- The native word width of a machine. -/
inductive WordWidth where
  | bits32
  | bits64
  deriving DecidableEq, Repr

/-- A processor family. -/
inductive CpuFamily where
  | x86
  | arm
  | other
  deriving DecidableEq, Repr

/-- What can be wrong with the description of a machine. -/
inductive HostError where
  | invalidWordWidth (bits : Nat)
  | invalidTriple (text : String)
  deriving DecidableEq, Repr

/-- The wording of an error. -/
def HostError.message : HostError → String
  | .invalidWordWidth n =>
    "unsupported word width " ++ toString n ++ " (expected 32 or 64)"
  | .invalidTriple s => "invalid target triple '" ++ s ++ "'"

namespace WordWidth

/-- The width with this many bits. -/
def ofBits : Nat → Except HostError WordWidth
  | 32 => .ok bits32
  | 64 => .ok bits64
  | n => .error (.invalidWordWidth n)

/-- The number of bits. -/
def bits : WordWidth → Nat
  | bits32 => 32
  | bits64 => 64

/-- A width as text. -/
def text (w : WordWidth) : String := toString w.bits ++ "-bit"

end WordWidth

namespace CpuFamily

/-- The family of an architecture name.  Any name with `86` in it is x86. -/
def ofArch (arch : String) : CpuFamily :=
  let name := Text.lower arch
  if Text.contains name "86" || name == "amd64" then x86
  else if Text.startsWith name "arm" || Text.startsWith name "aarch64"
      || Text.startsWith name "thumb" then arm
  else other

/-- A family as text. -/
def text : CpuFamily → String
  | x86 => "x86"
  | arm => "arm"
  | other => "other"

end CpuFamily

/-! ### Triples -/

/-- A target triple: its text without the blanks around it, and the
architecture, which is what stands before the first dash. -/
structure Triple where
  text : String
  arch : String
  deriving DecidableEq, Repr

namespace Triple

/-- Read a triple.  The error shows the text as given. -/
def parse (s : String) : Except HostError Triple :=
  let chars := Text.trimChars s.toList
  match splitFirst? '-' chars with
  | some (c :: before, _) => .ok ⟨String.ofList chars, String.ofList (c :: before)⟩
  | _ => .error (.invalidTriple s)

/-- The processor family of the architecture. -/
def cpu (t : Triple) : CpuFamily := CpuFamily.ofArch t.arch

/-- The word width: 64 bits if the architecture mentions `64`. -/
def wordWidth (t : Triple) : WordWidth :=
  if Text.contains t.arch "64" then .bits64 else .bits32

/-- Whether a field after the first one is `none`: the target has no
operating system. -/
def isBareMetal (t : Triple) : Bool :=
  (partsAt '-' t.text.toList).tail.any fun part => part == "none".toList

/-- Whether the triple names the operating system `os`.  A system without a
known spelling matches every triple. -/
def matchesSystem (t : Triple) (os : String) : Bool :=
  let name := Text.lower t.text
  if os == "linux" then Text.contains name "linux"
  else if os == "macos" then
    ["apple", "darwin", "macos"].any fun spelling => Text.contains name spelling
  else if os == "windows" then Text.contains name "windows"
  else true

end Triple

end GuardCost
