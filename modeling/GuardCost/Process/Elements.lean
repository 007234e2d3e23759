/-
GuardCost/Process/Elements.lean

Lists of values in a variable.  The keys of a list are whole numbers, in
ascending order, or texts.  Lists with texts for keys are kept in the order of
a table with so many places, and the newest of those at one place comes first.
-/
import GuardCost.Text.Basic

namespace GuardCost.Process

/-- The values of a list under their keys, in their order. -/
structure Elements where
  /-- Whether the keys are texts. -/
  named : Bool := false
  entries : List (String × String) := []
  deriving DecidableEq, Repr

namespace Elements

/-! ### Order -/

/-- The number of places. -/
def places : Nat := 1024

/-- The place of a key. -/
def placeOf (key : String) : Nat := Text.spreadOver .before places key

/-- Whether one key comes before another one that was there before it. -/
def precedes (named : Bool) (key old : String) : Bool :=
  if named then placeOf key ≤ placeOf old else (key.toNat?.getD 0) < (old.toNat?.getD 0)

/-! ### Values -/

/-- The value of a key. -/
def value? (e : Elements) (key : String) : Option String := e.entries.lookup key

/-- Put a pair in its place. -/
def place (named : Bool) (key value : String) : List (String × String) → List (String × String)
  | [] => [(key, value)]
  | (k, v) :: rest =>
    if precedes named key k then (key, value) :: (k, v) :: rest
    else (k, v) :: place named key value rest

/-- Give a key a value. -/
def insert (e : Elements) (key value : String) : Elements :=
  if (e.value? key).isSome then
    { e with entries := e.entries.map fun (k, v) => if k == key then (k, value) else (k, v) }
  else { e with entries := place e.named key value e.entries }

/-- Take a key away. -/
def erase (e : Elements) (key : String) : Elements :=
  { e with entries := e.entries.filter fun entry => entry.1 != key }

/-- The values. -/
def values (e : Elements) : List String := e.entries.map (·.2)

/-- The keys. -/
def keys (e : Elements) : List String := e.entries.map (·.1)

/-- The number after the greatest key. -/
def nextKey (e : Elements) : Nat :=
  match e.entries.getLast? with
  | some (key, _) => if e.named then 0 else (key.toNat?.getD 0) + 1
  | none => 0

/-- A list of values under the numbers from zero on. -/
def ofList (values : List String) : Elements :=
  { entries := values.zipIdx.map fun (value, i) => (toString i, value) }

end Elements

end GuardCost.Process
