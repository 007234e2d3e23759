/-
GuardCost/Host/Plan.lean

Memory protections and the plan of a run.  A variant is one way to protect
the memory of a lowered program; `Variant.info` is the table of what is
known about each.  The plan of a machine says which variants are built:
those that apply to it when its target can run there, and otherwise none,
because then nothing is lowered to native code.
-/
import GuardCost.Host.Basic

namespace GuardCost

/-! ### Variants -/

/-- A way to protect memory. -/
inductive Variant where
  /-- No protection, lowered from the unchecked bytecode. -/
  | noProtectionUnsafe
  /-- No protection. -/
  | noProtection
  /-- A bounds check at every access. -/
  | boundsChecked
  /-- Hardware bounds registers. -/
  | mpx
  /-- Guard pages in a reserved 64-bit address range. -/
  | virtualMemory
  /-- Segment registers. -/
  | segmentation
  /-- The constrained memory of a microcontroller. -/
  | cortexM
  deriving DecidableEq, Repr

/-- Which bytecode a variant is lowered from: with the checks kept, or with
the checks left out. -/
inductive Flavor where
  | checked
  | unchecked
  deriving DecidableEq, Repr

/-- What is known about a variant. -/
structure Variant.Info where
  /-- The short name, which ends the file name of its executables. -/
  id : String
  /-- The heading of its column. -/
  label : String
  /-- Its memory implementation, below `memory` in the runtime directory. -/
  runtimeSource : String
  flavor : Flavor

namespace Variant

/-- Every variant, in the order of measurement and of the columns. -/
def all : List Variant :=
  [noProtectionUnsafe, noProtection, boundsChecked, mpx, virtualMemory, segmentation, cortexM]

/-- The table of variants. -/
def info : Variant → Info
  | noProtectionUnsafe => ⟨"np_us", "wasm no protection unsafe", "no_protection.c", .unchecked⟩
  | noProtection => ⟨"np", "wasm no protection", "no_protection.c", .checked⟩
  | boundsChecked => ⟨"bc", "wasm bounds checked", "generic.c", .checked⟩
  | mpx => ⟨"mpx", "wasm mpx", "mpx.c", .checked⟩
  | virtualMemory => ⟨"vm", "wasm virtual memory", "64bit_nix.c", .checked⟩
  | segmentation => ⟨"sm", "wasm segmentation", "segmented.c", .checked⟩
  | cortexM => ⟨"cm", "wasm cortex-m", "cortex_m.c", .checked⟩

/-- The short name. -/
def id (v : Variant) : String := v.info.id

/-- The heading of the column. -/
def label (v : Variant) : String := v.info.label

/-- The memory implementation. -/
def runtimeSource (v : Variant) : String := v.info.runtimeSource

/-- The bytecode it is lowered from. -/
def flavor (v : Variant) : Flavor := v.info.flavor

/-- The variant with this short name. -/
def ofId? (id : String) : Option Variant := all.find? fun v => v.id == id

/-- Whether a variant can be built on a machine. -/
def appliesTo (v : Variant) (h : Host) : Bool :=
  match v with
  | mpx => h.isX86
  | virtualMemory => h.is64Bit
  | segmentation => h.is32BitX86
  | _ => true

theorem mem_all (v : Variant) : v ∈ all := by cases v <;> decide

end Variant

/-! ### Plans -/

/-- How far a build goes. -/
inductive Mode where
  /-- To the executables of every planned variant. -/
  | full
  /-- To the bytecode: the target cannot run on this machine. -/
  | compileOnly
  deriving DecidableEq, Repr

/-- What is built in a run. -/
structure Plan where
  mode : Mode
  /-- The variants to build and measure, in table order. -/
  variants : List Variant
  deriving DecidableEq, Repr

namespace Plan

/-- The variants that apply to a machine, in table order. -/
def applicable (h : Host) : List Variant := Variant.all.filter (·.appliesTo h)

/-- The plan of a machine. -/
def ofHost (h : Host) : Plan :=
  if h.isRunnable then ⟨.full, applicable h⟩ else ⟨.compileOnly, []⟩

/-- Whether the build stops at the bytecode. -/
def isCompileOnly (p : Plan) : Bool := p.mode == .compileOnly

/-- Whether a variant is planned. -/
def includes (p : Plan) (v : Variant) : Bool := decide (v ∈ p.variants)

end Plan

/-! ### Columns -/

/-- A column of the report: the native executable, or a variant. -/
inductive Column where
  | native
  | variant (v : Variant)
  deriving DecidableEq, Repr

namespace Column

/-- The short name of a column. -/
def key : Column → String
  | native => "native"
  | variant v => v.id

/-- The heading of a column. -/
def label : Column → String
  | native => "native"
  | variant v => v.label

/-- The column with this short name. -/
def ofKey? (key : String) : Option Column :=
  if key == "native" then some native else (Variant.ofId? key).map variant

end Column

/-- The columns of a report: native, then the planned variants. -/
def Plan.columns (p : Plan) : List Column := .native :: p.variants.map .variant

end GuardCost
