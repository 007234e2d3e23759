/-
GuardCost/Metrics/Store.lean

Metrics in memory.  A metric is a counter, a gauge or a histogram, and is
found under its rendered key `name{label=value,…}`.  The three kinds have
tables of their own, so the same key can be used in each of them.  A store
that was never installed takes no events.

The tables have text keys, in ascending order.  The order of texts is that of
their characters, which is also that of their UTF-8 bytes.  `Sorted.update`
changes the value at one key and puts a missing key in its place; what stands
at the other keys is not touched.
-/
import GuardCost.Number.Decimal
import GuardCost.Text.Basic

namespace GuardCost

/-! ### Tables -/

namespace Sorted

variable {α : Type}

/-- Change the value at a key; `none` is passed on for a missing one. -/
def update (key : String) (change : Option α → α) : List (String × α) → List (String × α)
  | [] => [(key, change none)]
  | (k, v) :: rest =>
    if key = k then (k, change (some v)) :: rest
    else if key < k then (key, change none) :: (k, v) :: rest
    else (k, v) :: update key change rest

/-- The value at a key. -/
def get? (key : String) (table : List (String × α)) : Option α := table.lookup key

/-- The keys are strictly ascending. -/
def Ascending (table : List (String × α)) : Prop :=
  table.Pairwise fun a b => a.1 < b.1

end Sorted

namespace Metrics

/-! ### Keys -/

/-- A metric's name and its labels, in the order in which they were given. -/
structure Key where
  name : String
  labels : List (String × String)
  deriving DecidableEq, Repr

/-- A key as text. -/
def Key.text (k : Key) : String :=
  if k.labels.isEmpty then k.name
  else
    k.name ++ "\x7b" ++ Text.join "," (k.labels.map fun (l, v) => l ++ "=" ++ v) ++ "\x7d"

/-! ### Events -/

/-- What happens to a counter. -/
inductive CounterEvent where
  | increment (n : UInt64)
  | absolute (n : UInt64)

/-- What happens to a gauge. -/
inductive GaugeEvent where
  | increment (x : Float)
  | decrement (x : Float)
  | set (x : Float)

/-- What happens to the metric under a key. -/
inductive Event where
  | counter (event : CounterEvent)
  | gauge (event : GaugeEvent)
  | histogram (x : Float)

/-- The value of a counter after an event; a new counter starts at zero. -/
def CounterEvent.apply (event : CounterEvent) (old : Option UInt64) : UInt64 :=
  match event with
  | increment n => old.getD 0 + n
  | absolute n => n

/-- The value of a gauge after an event; a new gauge starts at zero. -/
def GaugeEvent.apply (event : GaugeEvent) (old : Option Float) : Float :=
  match event with
  | increment x => old.getD 0 + x
  | decrement x => old.getD 0 - x
  | set x => x

/-! ### Stores -/

/-- Every metric recorded so far. -/
structure Store where
  counters : List (String × UInt64)
  gauges : List (String × Float)
  histograms : List (String × List Float)

namespace Store

/-- The store with no metric in it. -/
def empty : Store := ⟨[], [], []⟩

/-- Let an event happen to the metric under a rendered key. -/
def record (s : Store) (key : String) : Event → Store
  | .counter event => { s with counters := Sorted.update key event.apply s.counters }
  | .gauge event => { s with gauges := Sorted.update key event.apply s.gauges }
  | .histogram x =>
    { s with histograms := Sorted.update key (fun old => old.getD [] ++ [x]) s.histograms }

/-- The value of a counter. -/
def counter? (s : Store) (key : String) : Option UInt64 := Sorted.get? key s.counters

/-- The value of a gauge. -/
def gauge? (s : Store) (key : String) : Option Float := Sorted.get? key s.gauges

/-! ### Summary -/

/-- A value with six places. -/
def amount (x : Float) : String := Decimal.fixed 6 x

/-- The line of a histogram. -/
def histogramText (xs : List Float) : String :=
  "count=" ++ toString xs.length
    ++ ", min=" ++ amount (xs.foldl Binary64.lesser Binary64.infinity)
    ++ ", max=" ++ amount (xs.foldl Binary64.greater (-Binary64.infinity))
    ++ ", avg=" ++ amount (Binary64.mean xs)

/-- A section of the summary; without entries there is none. -/
def section_ {α : Type} (title : String) (value : α → String)
    (table : List (String × α)) : String :=
  if table.isEmpty then ""
  else
    "### " ++ title ++ "\n"
      ++ String.join (table.map fun (key, x) => "  " ++ key ++ ": " ++ value x ++ "\n")
      ++ "\n"

/-- Every metric as text. -/
def summary (s : Store) : String :=
  if s.counters.isEmpty && s.gauges.isEmpty && s.histograms.isEmpty then
    "No metrics collected.\n"
  else
    "\n## Metrics Summary\n\n"
      ++ section_ "Counters" (fun n : UInt64 => toString n.toNat) s.counters
      ++ section_ "Gauges" amount s.gauges
      ++ section_ "Histograms" histogramText s.histograms

end Store

/-! ### Recorders -/

/-- Where events go: to a store, once one is installed. -/
abbrev Recorder := Option Store

namespace Recorder

/-- Install a store; a second one is refused. -/
def install : Recorder → Bool × Recorder
  | none => (true, some .empty)
  | some s => (false, some s)

/-- Record an event, if there is a store. -/
def record (r : Recorder) (key : Key) (event : Event) : Recorder :=
  r.map fun s => s.record key.text event

end Recorder

end Metrics

end GuardCost
