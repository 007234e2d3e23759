/-
GuardCost/Cli/Given.lean

The options given at one level of the command line.  `Given.set` reads the
value of an option into its place; an option that does not repeat can be set
once.  When the level has been read, no two options that exclude each other
may be among those given.
-/
import GuardCost.Bench.Reduction
import GuardCost.Cli.UsageError
import GuardCost.Host.Basic

namespace GuardCost.Cli

/-- The options given at one level. -/
structure Given where
  /-- Every option that was given. -/
  options : List Opt := []
  programs? : Option Path := none
  only : List String := []
  target? : Option Triple := none
  hostBits? : Option WordWidth := none
  hostArch? : Option CpuFamily := none
  root? : Option Path := none
  benchRoot? : Option Path := none
  runtimeDir? : Option Path := none
  wasmToolchain? : Option Path := none
  tool? : Option Path := none
  toolName? : Option String := none
  cc? : Option String := none
  cxx? : Option String := none
  wasmCc? : Option Path := none
  jobs? : Option Nat := none
  timeout? : Option Nat := none
  runs? : Option Nat := none
  reduction? : Option Reduction := none
  csv? : Option Path := none
  markdown? : Option Path := none
  deriving DecidableEq, Repr

/-! ### Values -/

/-- The number that decimal digits write; there must be one. -/
def naturalOfDigits? (ds : List Char) : Option Nat :=
  if ds.isEmpty || !ds.all (fun c => '0' ≤ c && c ≤ '9') then none
  else some (ds.foldl (fun n c => n * 10 + (c.toNat - '0'.toNat)) 0)

/-- Read a natural number below a bound; a plus sign may stand before it. -/
def natural? (bound : Nat) (s : String) : Option Nat :=
  let digits := match s.toList with
    | '+' :: ds => ds
    | ds => ds
  (naturalOfDigits? digits).filter fun n => decide (n < bound)

/-- The greatest number of runs. -/
def mostRuns : Nat := 4294967295

/-- Read a number of runs. -/
def runs? (s : String) : Option Nat :=
  (natural? (mostRuns + 1) s).filter fun n => decide (1 ≤ n)

/-- Read a number of 64 bits. -/
def word64? (s : String) : Option Nat := natural? UInt64.size s

/-- The texts between commas. -/
def splitCommas (s : String) : List String := (partsAt ',' s.toList).map String.ofList

/-- A path as a value; it cannot be empty. -/
def pathValue (o : Opt) (word : Bytes) : Except UsageError Path :=
  if word = [] then .error (.missingValue o) else .ok ⟨word⟩

/-- A text as a value. -/
def textValue (o : Opt) (word : Bytes) : Except UsageError String :=
  match Bytes.decode? word with
  | some s => .ok s
  | none => .error (.notText o word)

/-- A value that is read from text. -/
def readValue {α : Type} (read : String → Option α) (o : Opt) (word : Bytes) :
    Except UsageError α := do
  let s ← textValue o word
  match read s with
  | some x => .ok x
  | none => .error (.unreadableValue o word)

/-- A value that is one of a few words. -/
def choiceValue {α : Type} (choose : String → Option α) (o : Opt) (word : Bytes) :
    Except UsageError α :=
  match (Bytes.decode? word).bind choose with
  | some x => .ok x
  | none => .error (.impossibleValue o word)

/-- The texts between commas, each of them text by itself. -/
def listValue (o : Opt) (word : Bytes) : Except UsageError (List String) := do
  let s ← textValue o word
  return splitCommas s

/-- The word widths that can be named. -/
def wordWidth? : String → Option WordWidth
  | "32" => some .bits32
  | "64" => some .bits64
  | _ => none

/-- The processor families that can be named. -/
def cpuFamily? (s : String) : Option CpuFamily :=
  [CpuFamily.x86, .arm, .other].find? fun family => family.text == s

/-- Read a target triple. -/
def triple? (s : String) : Option Triple := (Triple.parse s).toOption

/-! ### Setting options -/

namespace Given

/-- Whether an option was given. -/
def has (g : Given) (o : Opt) : Bool := decide (o ∈ g.options)

/-- Read the value of an option into its place; a flag has none. -/
def place (g : Given) (o : Opt) (word : Bytes) : Except UsageError Given := do
  match o with
  | .help | .version | .metrics | .verbose | .silent | .release | .debug | .noDebugSymbols =>
    return g
  | .programs => return { g with programs? := some (← pathValue o word) }
  | .only => return { g with only := g.only ++ (← listValue o word) }
  | .target => return { g with target? := some (← readValue triple? o word) }
  | .hostBits => return { g with hostBits? := some (← choiceValue wordWidth? o word) }
  | .hostArch => return { g with hostArch? := some (← choiceValue cpuFamily? o word) }
  | .root => return { g with root? := some (← pathValue o word) }
  | .benchRoot => return { g with benchRoot? := some (← pathValue o word) }
  | .runtimeDir => return { g with runtimeDir? := some (← pathValue o word) }
  | .wasmToolchain => return { g with wasmToolchain? := some (← pathValue o word) }
  | .tool => return { g with tool? := some (← pathValue o word) }
  | .toolName => return { g with toolName? := some (← textValue o word) }
  | .cc => return { g with cc? := some (← textValue o word) }
  | .cxx => return { g with cxx? := some (← textValue o word) }
  | .wasmCc => return { g with wasmCc? := some (← pathValue o word) }
  | .jobs => return { g with jobs? := some (← readValue word64? o word) }
  | .timeout => return { g with timeout? := some (← readValue word64? o word) }
  | .runs => return { g with runs? := some (← readValue Cli.runs? o word) }
  | .reduction => return { g with reduction? := some (← choiceValue Reduction.ofText? o word) }
  | .csv => return { g with csv? := some (← pathValue o word) }
  | .markdown => return { g with markdown? := some (← pathValue o word) }

/-- Give an option, with the word that is its value. -/
def set (g : Given) (o : Opt) (word : Bytes) : Except UsageError Given :=
  match o with
  | .help => .error .helpWanted
  | .version => .error .versionWanted
  | o =>
    if g.has o && !o.repeats then .error (.conflict o o)
    else do
      let g ← g.place o word
      return { g with options := g.options ++ [o] }

/-- Refuse options that exclude each other. -/
def refuseConflicts (g : Given) : Except UsageError Unit :=
  match Opt.exclusive.find? fun (a, b) => g.has a && g.has b with
  | some (a, b) => .error (.conflict a b)
  | none => .ok ()

end Given

end GuardCost.Cli
