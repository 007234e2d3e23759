/-
GuardCost/Proofs/Recordings.lean

What a recorder holds.  An event makes a new entry of the old one under its
kind and its rendered key, and touches no other one.  So the entry there is
decided by the events there alone:

    entry of (kind, key)  =  the events at (kind, key), one after the other
                                                        (held?_recordAll)

Hence operations with the same events at every kind and key leave the same
store, whatever else lies between them.  A hash map meets its entries in an
order of its own; such a store answers in the same way, and once its entries
are sorted it is the store in ascending order (`Store.SameEntries`).
-/
import GuardCost.Proofs.MetricTables
import Mathlib.Algebra.BigOperators.Group.List.Basic
import Mathlib.Algebra.Order.Ring.Nat
import Mathlib.Data.List.Induction

namespace GuardCost.Metrics

/-! ### Entries -/

/-- The kinds of metrics, each with a table of its own. -/
inductive Kind where
  | counter
  | gauge
  | histogram
  deriving DecidableEq, Repr

/-- The kind of metric that an event happens to. -/
def Event.kind : Event → Kind
  | .counter _ => .counter
  | .gauge _ => .gauge
  | .histogram _ => .histogram

/-- What is held under a kind and a key. -/
inductive Entry where
  | counter (n : UInt64)
  | gauge (x : Float)
  | histogram (xs : List Float)

/-- The entry that an event makes of the one before it. -/
def Event.entry : Event → Option Entry → Entry
  | .counter e, some (.counter n) => .counter (e.apply (some n))
  | .counter e, _ => .counter (e.apply none)
  | .gauge e, some (.gauge x) => .gauge (e.apply (some x))
  | .gauge e, _ => .gauge (e.apply none)
  | .histogram x, some (.histogram xs) => .histogram (xs ++ [x])
  | .histogram x, _ => .histogram [x]

/-- What is held after events, one after the other. -/
def Entry.after (events : List Event) (old : Option Entry) : Option Entry :=
  events.foldl (fun old e => some (e.entry old)) old

/-- An event under a key. -/
abbrev Operation := Key × Event

/-- The events that operations bring to a kind and a rendered key, in order. -/
def eventsAt (kind : Kind) (key : String) (ops : List Operation) : List Event :=
  (ops.filter fun op => op.2.kind = kind ∧ op.1.text = key).map Prod.snd

namespace Store

/-- What a store holds under a kind and a key. -/
def held? (s : Store) : Kind → String → Option Entry
  | .counter, key => (s.counter? key).map .counter
  | .gauge, key => (s.gauge? key).map .gauge
  | .histogram, key => (Sorted.get? key s.histograms).map .histogram

/-- A store whose tables are in ascending order. -/
structure Ordered (s : Store) : Prop where
  counters : Sorted.Ascending s.counters
  gauges : Sorted.Ascending s.gauges
  histograms : Sorted.Ascending s.histograms

variable {s t : Store} {kind : Kind} {key key' : String}

theorem ordered_empty : Ordered empty := ⟨.nil, .nil, .nil⟩

theorem Ordered.record (h : s.Ordered) (key : String) (e : Event) : (s.record key e).Ordered := by
  cases e with
  | counter e => exact ⟨Sorted.ascending_update h.counters _, h.gauges, h.histograms⟩
  | gauge e => exact ⟨h.counters, Sorted.ascending_update h.gauges _, h.histograms⟩
  | histogram x => exact ⟨h.counters, h.gauges, Sorted.ascending_update h.histograms _⟩

/-- **An event changes no other entry** than that of its kind and its key. -/
theorem held?_record_ne (s : Store) {e : Event} (h : (kind, key') ≠ (e.kind, key)) :
    (s.record key e).held? kind key' = s.held? kind key' := by
  have hkey : kind = e.kind → key' ≠ key := by
    rintro rfl rfl
    exact h rfl
  cases e <;> cases kind <;> first
    | rfl
    | exact congrArg (Option.map _) (Sorted.get?_update_ne _ (hkey rfl))

/-- An event makes a new entry of the old one. -/
theorem held?_record_self (h : s.Ordered) (key : String) (e : Event) :
    (s.record key e).held? e.kind key = some (e.entry (s.held? e.kind key)) := by
  cases e with
  | counter e =>
    simp only [Store.record, Event.kind, held?, counter?, Sorted.get?_update_self h.counters]
    cases Sorted.get? key s.counters <;> rfl
  | gauge e =>
    simp only [Store.record, Event.kind, held?, gauge?, Sorted.get?_update_self h.gauges]
    cases Sorted.get? key s.gauges <;> rfl
  | histogram x =>
    simp only [Store.record, Event.kind, held?, Sorted.get?_update_self h.histograms]
    cases Sorted.get? key s.histograms <;> rfl

/-! ### Runs of operations -/

/-- Let operations happen, one after the other. -/
def recordAll (s : Store) (ops : List Operation) : Store :=
  ops.foldl (fun s op => s.record op.1.text op.2) s

theorem recordAll_cons (s : Store) (op : Operation) (ops : List Operation) :
    s.recordAll (op :: ops) = (s.record op.1.text op.2).recordAll ops := rfl

theorem Ordered.recordAll (h : s.Ordered) (ops : List Operation) : (s.recordAll ops).Ordered := by
  induction ops generalizing s with
  | nil => exact h
  | cons op rest ih => exact ih (h.record _ _)

/-- **The events under a kind and a key decide what is held there.** -/
theorem held?_recordAll (h : s.Ordered) (ops : List Operation) (kind : Kind) (key : String) :
    (s.recordAll ops).held? kind key =
      Entry.after (eventsAt kind key ops) (s.held? kind key) := by
  induction ops generalizing s with
  | nil => rfl
  | cons op rest ih =>
    rw [recordAll_cons, ih (h.record _ _), eventsAt, eventsAt, List.filter_cons]
    by_cases hop : op.2.kind = kind ∧ op.1.text = key
    · obtain ⟨rfl, rfl⟩ := hop
      simp [held?_record_self h, Entry.after]
    · have hne : (kind, key) ≠ (op.2.kind, op.1.text) := by
        intro heq
        cases heq
        exact hop ⟨rfl, rfl⟩
      simp [held?_record_ne s hne, hop]

theorem held?_recordAll_empty (ops : List Operation) (kind : Kind) (key : String) :
    (empty.recordAll ops).held? kind key = Entry.after (eventsAt kind key ops) none := by
  rw [held?_recordAll ordered_empty]
  cases kind <;> rfl

/-- A store in ascending order is known by its entries. -/
theorem Ordered.ext (hs : s.Ordered) (ht : t.Ordered)
    (h : ∀ kind key, t.held? kind key = s.held? kind key) : t = s := by
  obtain ⟨counters, gauges, histograms⟩ := s
  obtain ⟨counters', gauges', histograms'⟩ := t
  have hc : counters' = counters := by
    apply Sorted.eq_of_get? hs.counters ht.counters
    intro key
    exact Option.map_injective (fun _ _ => Entry.counter.inj) (h .counter key)
  have hg : gauges' = gauges := by
    apply Sorted.eq_of_get? hs.gauges ht.gauges
    intro key
    exact Option.map_injective (fun _ _ => Entry.gauge.inj) (h .gauge key)
  have hh : histograms' = histograms := by
    apply Sorted.eq_of_get? hs.histograms ht.histograms
    intro key
    exact Option.map_injective (fun _ _ => Entry.histogram.inj) (h .histogram key)
  rw [hc, hg, hh]

/-- Operations with the same events at each kind and key leave the same store. -/
theorem recordAll_congr {ops ops' : List Operation}
    (h : ∀ kind key, eventsAt kind key ops' = eventsAt kind key ops) :
    empty.recordAll ops' = empty.recordAll ops := by
  apply (ordered_empty.recordAll ops).ext (ordered_empty.recordAll ops')
  intro kind key
  rw [held?_recordAll_empty, held?_recordAll_empty, h]

/-! ### Entries met in another order -/

/-- A store that holds the same entries, met in any order. -/
structure SameEntries (t s : Store) : Prop where
  counters : t.counters.Perm s.counters
  gauges : t.gauges.Perm s.gauges
  histograms : t.histograms.Perm s.histograms

/-- A store with its entries sorted by the bytes of their keys. -/
def sorted (s : Store) : Store :=
  ⟨Sorted.byBytes s.counters, Sorted.byBytes s.gauges, Sorted.byBytes s.histograms⟩

theorem sorted_of_sameEntries (hs : s.Ordered) (h : t.SameEntries s) : t.sorted = s := by
  rw [sorted, Sorted.byBytes_of_perm hs.counters h.counters,
    Sorted.byBytes_of_perm hs.gauges h.gauges, Sorted.byBytes_of_perm hs.histograms h.histograms]

theorem counter?_of_sameEntries (hs : s.Ordered) (h : t.SameEntries s) (key : String) :
    t.counter? key = s.counter? key :=
  Sorted.get?_of_perm hs.counters.nodup h.counters key

theorem gauge?_of_sameEntries (hs : s.Ordered) (h : t.SameEntries s) (key : String) :
    t.gauge? key = s.gauge? key :=
  Sorted.get?_of_perm hs.gauges.nodup h.gauges key

/-! ### The entries of a kind -/

/-- The entries of a kind in the order of their table. -/
def listed (s : Store) : Kind → List (String × Entry)
  | .counter => s.counters.map fun (key, n) => (key, .counter n)
  | .gauge => s.gauges.map fun (key, x) => (key, .gauge x)
  | .histogram => s.histograms.map fun (key, xs) => (key, .histogram xs)

/-- The keys of each kind are strictly ascending. -/
theorem Ordered.listed_ascending (h : s.Ordered) (kind : Kind) :
    (s.listed kind).Pairwise fun a b => Bytes.ofString a.1 < Bytes.ofString b.1 := by
  simp only [Bytes.ofString_lt_iff]
  cases kind
  · exact List.pairwise_map.2 h.counters
  · exact List.pairwise_map.2 h.gauges
  · exact List.pairwise_map.2 h.histograms

theorem mem_map_entry_iff {α : Type} {table : List (String × α)}
    (hnd : (table.map Prod.fst).Nodup) (f : α → Entry) (key : String) (entry : Entry) :
    (key, entry) ∈ table.map (fun (key, x) => (key, f x)) ↔
      (Sorted.get? key table).map f = some entry := by
  rw [Option.map_eq_some_iff]
  constructor
  · intro h
    obtain ⟨⟨k, x⟩, hmem, heq⟩ := List.mem_map.1 h
    cases heq
    exact ⟨x, (Sorted.get?_eq_some_iff hnd).2 hmem, rfl⟩
  · rintro ⟨x, hget, rfl⟩
    exact List.mem_map.2 ⟨(key, x), Sorted.mem_of_get? hget, rfl⟩

/-- What is listed of a kind is what is held of it. -/
theorem Ordered.mem_listed_iff (h : s.Ordered) (kind : Kind) (key : String) (entry : Entry) :
    (key, entry) ∈ s.listed kind ↔ s.held? kind key = some entry := by
  cases kind
  · exact mem_map_entry_iff h.counters.nodup .counter key entry
  · exact mem_map_entry_iff h.gauges.nodup .gauge key entry
  · exact mem_map_entry_iff h.histograms.nodup .histogram key entry

end Store

/-! ### Readings of a counter -/

/-- Among events of a counter, `base` is the last absolute value, or zero if
there is none, and `later` are the increments since. -/
inductive CountsFrom : UInt64 → List UInt64 → List Event → Prop
  | unset (later : List UInt64) :
    CountsFrom 0 later (later.map fun n => .counter (.increment n))
  | set (before : List Event) (base : UInt64) (later : List UInt64) :
    CountsFrom base later
      (before ++ .counter (.absolute base) :: later.map fun n => .counter (.increment n))

/-- The value of a counter, which is zero when there is none. -/
def Entry.count : Option Entry → UInt64
  | some (.counter n) => n
  | _ => 0

theorem Entry.after_append_singleton (events : List Event) (e : Event) (old : Option Entry) :
    Entry.after (events ++ [e]) old = some (e.entry (Entry.after events old)) := by
  simp [Entry.after]

/-- The events of a counter add up from its last absolute value. -/
theorem countsFrom_of_counter {events : List Event} (h : ∀ e ∈ events, e.kind = .counter) :
    ∃ base later, CountsFrom base later events ∧
      (Entry.count (Entry.after events none)).toNat =
        (base.toNat + (later.map UInt64.toNat).sum) % 2 ^ 64 := by
  induction events using List.reverseRecOn with
  | nil => exact ⟨0, [], .unset [], rfl⟩
  | append_singleton events e ih =>
    obtain ⟨base, later, hfrom, hcount⟩ := ih fun e he => h e (List.mem_append_left _ he)
    have hkind := h e (by simp)
    rw [Entry.after_append_singleton]
    rcases e with (n | n) | e | x
    · refine ⟨base, later ++ [n], ?_, ?_⟩
      · cases hfrom with
        | unset =>
          have := CountsFrom.unset (later ++ [n])
          simpa using this
        | set before =>
          have := CountsFrom.set before base (later ++ [n])
          simpa using this
      · have hadd : Entry.count (some (Event.entry (.counter (.increment n))
            (Entry.after events none))) = Entry.count (Entry.after events none) + n := by
          rcases Entry.after events none with - | (m | x | xs) <;> rfl
        rw [hadd, UInt64.toNat_add, hcount]
        simp [Nat.add_assoc]
    · refine ⟨n, [], .set events n [], ?_⟩
      have hset : Entry.count (some (Event.entry (.counter (.absolute n))
          (Entry.after events none))) = n := by
        rcases Entry.after events none with - | (m | x | xs) <;> rfl
      rw [hset]
      exact (Nat.mod_eq_of_lt n.toNat_lt).symm
    · cases hkind
    · cases hkind

theorem Entry.after_eq_none_iff {events : List Event} :
    Entry.after events none = none ↔ events = [] := by
  constructor
  · intro h
    rcases List.eq_nil_or_concat' events with rfl | ⟨init, last, rfl⟩
    · rfl
    · rw [Entry.after_append_singleton] at h
      cases h
  · rintro rfl
    rfl

theorem kind_of_mem_eventsAt {kind : Kind} {key : String} {ops : List Operation} {e : Event}
    (h : e ∈ eventsAt kind key ops) : e.kind = kind := by
  obtain ⟨op, hop, rfl⟩ := List.mem_map.1 h
  have hkind : op.2.kind = kind ∧ op.1.text = key := by simpa using (List.mem_filter.1 hop).2
  exact hkind.1

/-- Something is held under a kind and a key if there was an event. -/
theorem Store.exists_held?_iff {ops : List Operation} {kind : Kind} {key : String} :
    (∃ entry, (Store.empty.recordAll ops).held? kind key = some entry) ↔
      eventsAt kind key ops ≠ [] := by
  rw [← Option.isSome_iff_exists, ← Option.ne_none_iff_isSome, Store.held?_recordAll_empty, Ne,
    Entry.after_eq_none_iff]

/-- **A counter reads as its last absolute value and the increments since**, as long
as these fit. -/
theorem Store.exists_counts {ops : List Operation} {key : String}
    (h : eventsAt .counter key ops ≠ []) :
    ∃ base later n, CountsFrom base later (eventsAt .counter key ops) ∧
      (Store.empty.recordAll ops).counter? key = some n ∧
        (base.toNat + (later.map UInt64.toNat).sum < 2 ^ 64 →
          n.toNat = base.toNat + (later.map UInt64.toNat).sum) := by
  obtain ⟨base, later, hfrom, hcount⟩ := countsFrom_of_counter fun _ => kind_of_mem_eventsAt
  obtain ⟨entry, hentry⟩ := Store.exists_held?_iff.2 h
  obtain ⟨n, hn, -⟩ := Option.map_eq_some_iff.1 hentry
  rw [← Store.held?_recordAll_empty, Store.held?, hn] at hcount
  refine ⟨base, later, n, hfrom, hn, fun hfits => ?_⟩
  rw [Nat.mod_eq_of_lt hfits] at hcount
  exact hcount

/-! ### Recorders -/

/-- Let operations happen on a recorder, one after the other. -/
def Recorder.recordAll (r : Recorder) (ops : List Operation) : Recorder :=
  ops.foldl (fun r op => r.record op.1 op.2) r

theorem Recorder.recordAll_append (r : Recorder) (ops ops' : List Operation) :
    r.recordAll (ops ++ ops') = (r.recordAll ops).recordAll ops' :=
  List.foldl_append

theorem Recorder.recordAll_some (s : Store) (ops : List Operation) :
    Recorder.recordAll (some s) ops = some (s.recordAll ops) := by
  induction ops generalizing s with
  | nil => rfl
  | cons op rest ih => exact ih _

end GuardCost.Metrics
