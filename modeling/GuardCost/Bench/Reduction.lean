/-
GuardCost/Bench/Reduction.lean

Collapsing repeated samples into one value, and repeating a measurement.
`measureWith` calls a run so often, stops at its first failure, and accepts
only a reduced value that is positive and finite.
-/
import GuardCost.Machine.Command

namespace GuardCost

/-! ### Reductions -/

/-- How repeated samples become one value. -/
inductive Reduction where
  /-- The least sample. -/
  | min
  /-- The middle sample, or the midpoint of the two middle ones. -/
  | median
  /-- The arithmetic mean. -/
  | mean
  deriving DecidableEq, Repr

namespace Reduction

/-- A reduction as text. -/
def text : Reduction → String
  | min => "min"
  | median => "median"
  | mean => "mean"

/-- The reduction with this name. -/
def ofText? (s : String) : Option Reduction := [min, median, mean].find? fun r => r.text == s

/-- Samples in the total order. -/
def sortSamples (xs : List Float) : List Float :=
  xs.mergeSort fun a b => decide (Binary64.rank a ≤ Binary64.rank b)

/-- The middle of an ascending list. -/
def middle? (xs : List Float) : Option Float :=
  let mid := xs.length / 2
  if xs.length % 2 = 0 then
    match xs[mid - 1]?, xs[mid]? with
    | some a, some b => some (Binary64.midpoint a b)
    | _, _ => none
  else xs[mid]?

/-- The value of a list of samples; there is none without samples. -/
def reduce? (r : Reduction) (xs : List Float) : Option Float :=
  if xs.isEmpty then none
  else match r with
    | min => some (xs.foldl Binary64.lesser Binary64.infinity)
    | mean => some (Binary64.mean xs)
    | median => middle? (sortSamples xs)

end Reduction

/-! ### Measuring -/

/-- Why there is no trustworthy measurement. -/
inductive MeasureError where
  /-- There is no such executable. -/
  | missing (path : Path)
  /-- A run failed. -/
  | command (cause : CommandError)
  /-- The reduced value is not positive and finite. -/
  | invalidDuration (seconds : Float)
  | noSamples

namespace MeasureError

/-- The wording of an error. -/
def message : MeasureError → String
  | missing path => "executable not found: " ++ path.text
  | command cause => cause.message
  | invalidDuration x =>
    "invalid duration " ++ Decimal.text Decimal.plain x ++ " (must be positive and finite)"
  | noSamples => "no samples collected"

/-- The wording of the causes behind an error, the nearest first. -/
def causes : MeasureError → List String
  | command cause => cause.causes
  | _ => []

end MeasureError

/-- How a measurement is repeated and reduced. -/
structure Policy where
  repetitions : Nat := 10
  reduction : Reduction := .min
  /-- Stop a single run after this long. -/
  limit? : Option Duration := none
  deriving DecidableEq, Repr

/-- Call a run `n` times, up to its first failure. -/
def collect {σ : Type} (run : StateM σ (Except MeasureError Float)) :
    (n : Nat) → StateM σ (Except MeasureError (List Float))
  | 0 => return .ok []
  | n + 1 => do
    match ← run with
    | .error e => return .error e
    | .ok x =>
      match ← collect run n with
      | .error e => return .error e
      | .ok xs => return .ok (x :: xs)

/-- The reduced value of samples, if it can be trusted. -/
def acceptSamples (r : Reduction) (xs : List Float) : Except MeasureError Float :=
  match r.reduce? xs with
  | none => .error .noSamples
  | some x => if Binary64.isUsable x then .ok x else .error (.invalidDuration x)

/-- Repeat a run and reduce what it measured. -/
def measureWith {σ : Type} (repetitions : Nat) (r : Reduction)
    (run : StateM σ (Except MeasureError Float)) : StateM σ (Except MeasureError Float) := do
  match ← collect run repetitions with
  | .error e => return .error e
  | .ok xs => return acceptSamples r xs

end GuardCost
