/-
GuardCost/Host/Basic.lean

The machine that programs are built on, and the question whether code for
its target can run there.  Without a target the code is for the machine
itself and always runs.  With one, the target must have an operating system,
the machine's processor and system, and words no wider than the machine's.
-/
import GuardCost.Host.Triple

namespace GuardCost

/-- The machine that programs are built and measured on, and the target they
are built for if that is another one. -/
structure Host where
  wordWidth : WordWidth
  cpu : CpuFamily
  /-- The name of the architecture. -/
  arch : String
  /-- The name of the operating system. -/
  os : String
  target? : Option Triple
  deriving DecidableEq, Repr

namespace Host

/-- The architecture of the running machine. -/
def nativeArch : String := "x86_64"

/-- The operating system of the running machine. -/
def nativeSystem : String := "linux"

/-- A machine with this word width and processor.  Its architecture is the
running machine's where the families agree. -/
def new (wordWidth : WordWidth) (cpu : CpuFamily) : Host where
  wordWidth
  cpu
  arch := if CpuFamily.ofArch nativeArch = cpu then nativeArch else cpu.text
  os := nativeSystem
  target? := none

/-- The running machine. -/
def detect : Host := new .bits64 (CpuFamily.ofArch nativeArch)

/-- Set the target. -/
def withTarget (h : Host) (t : Triple) : Host := { h with target? := some t }

/-- Set the architecture; the processor family follows it. -/
def withArch (h : Host) (arch : String) : Host :=
  { h with arch, cpu := CpuFamily.ofArch arch }

/-- Set the operating system. -/
def withSystem (h : Host) (os : String) : Host := { h with os }

/-- Whether the machine has 64-bit words. -/
def is64Bit (h : Host) : Bool := h.wordWidth == .bits64

/-- Whether the machine has an x86 processor. -/
def isX86 (h : Host) : Bool := h.cpu == .x86

/-- Whether the machine is a 32-bit x86. -/
def is32BitX86 (h : Host) : Bool := !h.is64Bit && h.isX86

/-- Whether the processor of `h` executes code for `t`.  Of a processor of no
known family the architecture decides: `riscv64` runs `riscv64gc`. -/
def executes (h : Host) (t : Triple) : Bool :=
  match h.cpu with
  | .other => Text.startsWith (Text.lower t.arch) (Text.lower h.arch)
  | family => t.cpu == family

/-- Whether code for the target can run on the machine. -/
def isRunnable (h : Host) : Bool :=
  match h.target? with
  | none => true
  | some t =>
    !t.isBareMetal && h.executes t && decide (t.wordWidth.bits ≤ h.wordWidth.bits)
      && t.matchesSystem h.os

/-- A machine as text. -/
def text (h : Host) : String :=
  let base := h.wordWidth.text ++ " " ++ h.cpu.text ++ " (" ++ h.os ++ ")"
  match h.target? with
  | none => base
  | some t => base ++ " targeting " ++ t.text

end Host

end GuardCost
