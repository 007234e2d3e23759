/-
GuardCost/Proofs/StageCounts.lean

The counters of stages.  Each stage that ends adds one to a counter, whose key

    membench_stages_succeeded_total{stage=<kind>}
    membench_stages_failed_total{stage=<kind>}

says whether the stage went well and what kind it is of; no two of these keys
are the same (`stageCounter_inj`).  So a recorder that has seen nothing but
stages shows how many there were of each kind, and nothing else
(`counter?_countAll`), in whatever order they came (`ShowsBuilds.of_perm`).
-/
import GuardCost.Proofs.BuildDeeds
import GuardCost.Proofs.RatioGauges

namespace GuardCost

open GuardCost.Action Metrics

/-! ### Keys -/

/-- The name of the counters of stages that went well, or of those that did not. -/
def stageTotal : Bool → String
  | true => "membench_stages_succeeded_total"
  | false => "membench_stages_failed_total"

/-- The counter that a stage goes to. -/
def stageKey (stage : Stage) (ok : Bool) : Key := ⟨stageTotal ok, [("stage", stage.kind)]⟩

/-- The rendered key of the counter of a kind of stages. -/
def stageCounter (ok : Bool) (kind : String) : String :=
  stageTotal ok ++ "\x7bstage=" ++ kind ++ "\x7d"

theorem stageCounter_true (kind : String) :
    stageCounter true kind = "membench_stages_succeeded_total\x7bstage=" ++ kind ++ "\x7d" := by
  apply String.toList_inj.1
  simp [stageCounter, stageTotal]

theorem stageCounter_false (kind : String) :
    stageCounter false kind = "membench_stages_failed_total\x7bstage=" ++ kind ++ "\x7d" := by
  apply String.toList_inj.1
  simp [stageCounter, stageTotal]

theorem text_stageKey (stage : Stage) (ok : Bool) :
    (stageKey stage ok).text = stageCounter ok stage.kind := by
  generalize hname : stageTotal ok = name
  rw [stageKey, stageCounter, hname]
  apply String.toList_inj.1
  simp [Key.text, Text.join]

theorem stageTotal_injective : Function.Injective stageTotal := by
  rintro (- | -) (- | -) h
  · rfl
  · exact absurd h (by decide)
  · exact absurd h (by decide)
  · rfl

theorem brace_notMem_stageTotal (ok : Bool) : '\x7b' ∉ (stageTotal ok).toList := by
  cases ok <;> decide

/-- The key tells whether the stages went well, and their kind. -/
theorem stageCounter_inj {ok ok' : Bool} {kind kind' : String}
    (h : stageCounter ok kind = stageCounter ok' kind') : ok = ok' ∧ kind = kind' := by
  have hkey : ∀ ok kind, (stageCounter ok kind).toList =
      (stageTotal ok).toList ++ '\x7b' :: ("stage=".toList ++ (kind.toList ++ ['\x7d'])) := by
    intro ok kind
    simp [stageCounter]
  have hlist := congrArg String.toList h
  rw [hkey, hkey] at hlist
  obtain ⟨hnames, hkinds⟩ := append_cons_inj_of_notMem_front (brace_notMem_stageTotal ok)
    (brace_notMem_stageTotal ok') hlist
  have hkind := List.append_cancel_right (List.append_cancel_left hkinds)
  exact ⟨stageTotal_injective (String.toList_inj.1 hnames), String.toList_inj.1 hkind⟩

/-! ### Counting -/

/-- The operation that counts a stage, given whether it went well. -/
def countStage (outcome : Stage × Bool) : Operation :=
  (stageKey outcome.1 outcome.2, .counter (.increment 1))

/-- What a counter reads that counted to `n`, in its 64 bits; one that never
counted is not there. -/
def reading (n : Nat) : Option UInt64 := if n = 0 then none else some (UInt64.ofNat n)

/-- A counter that goes up by one at a time. -/
theorem Metrics.Entry.after_increments (n : Nat) :
    Entry.after (List.replicate n (.counter (.increment 1))) none =
      (reading n).map .counter := by
  induction n with
  | zero => rfl
  | succ n ih =>
    rw [List.replicate_succ', Entry.after_append_singleton, ih]
    cases n with
    | zero => rfl
    | succ n => simp [reading, Event.entry, CounterEvent.apply]

/-- The events at the counter of a kind of stages. -/
theorem eventsAt_countStage (log : List (Stage × Bool)) (ok : Bool) (kind : String) :
    eventsAt .counter (stageCounter ok kind) (log.map countStage) =
      List.replicate (log.countP fun o => o.2 = ok ∧ o.1.kind = kind)
        (.counter (.increment 1)) := by
  have hat : ∀ o : Stage × Bool, ((countStage o).2.kind = .counter ∧
      (countStage o).1.text = stageCounter ok kind) ↔ o.2 = ok ∧ o.1.kind = kind := by
    intro o
    rw [countStage, text_stageKey]
    constructor
    · rintro ⟨-, h⟩
      exact stageCounter_inj h
    · rintro ⟨rfl, rfl⟩
      exact ⟨rfl, rfl⟩
  have hfilter : eventsAt .counter (stageCounter ok kind) (log.map countStage) =
      (log.filter fun o => o.2 = ok ∧ o.1.kind = kind).map fun o => (countStage o).2 := by
    rw [eventsAt, List.filter_map, List.map_map]
    simp only [Function.comp_def, hat]
  rw [hfilter, List.countP_eq_length_filter]
  exact List.map_const' ..

theorem Metrics.counter?_recordAll (ops : List Operation) (key : String) :
    ((Store.empty.recordAll ops).counter? key).map .counter =
      Entry.after (eventsAt .counter key ops) none :=
  Store.held?_recordAll_empty ops .counter key

/-- **The counters of stages show how many there were**, and there are no other
ones. -/
theorem counter?_countAll (log : List (Stage × Bool)) :
    let store := Store.empty.recordAll (log.map countStage)
    (∀ ok kind, store.counter? (stageCounter ok kind) =
      reading (log.countP fun o => o.2 = ok ∧ o.1.kind = kind)) ∧
    ∀ key n, store.counter? key = some n → ∃ ok kind, key = stageCounter ok kind := by
  intro store
  constructor
  · intro ok kind
    have hcounter := counter?_recordAll (log.map countStage) (stageCounter ok kind)
    rw [eventsAt_countStage, Entry.after_increments] at hcounter
    exact Option.map_injective (fun _ _ => Entry.counter.inj) hcounter
  · intro key n hn
    have hcounter := counter?_recordAll (log.map countStage) key
    rw [show (Store.empty.recordAll _).counter? key = some n from hn] at hcounter
    -- a counter that is there has had an event
    have hne : eventsAt .counter key (log.map countStage) ≠ [] := by
      intro hnil
      rw [hnil] at hcounter
      cases hcounter
    obtain ⟨e, he⟩ := List.exists_mem_of_ne_nil _ hne
    obtain ⟨op, hop, -⟩ := List.mem_map.1 he
    obtain ⟨hmem, hkey⟩ := List.mem_filter.1 hop
    obtain ⟨o, -, rfl⟩ := List.mem_map.1 hmem
    simp only [decide_eq_true_eq] at hkey
    exact ⟨o.2, o.1.kind, hkey.2.symm.trans (text_stageKey _ _)⟩

/-! ### Builds -/

/-- The outcomes of stages that a build tells of. -/
def Build.outcomes (b : Build) : List (Stage × Bool) :=
  b.artifacts.map (fun a => (a.stage, true)) ++ b.failures.map fun e => (e.failedStage, false)

/-- The counters of a recorder agree with builds: each reads the number of the
artifacts, or of the failures, of stages of its kind. -/
structure ShowsBuilds (store : Store) (builds : List Build) : Prop where
  succeeded : ∀ kind,
    store.counter? ("membench_stages_succeeded_total\x7bstage=" ++ kind ++ "\x7d") =
      reading ((builds.flatMap (·.artifacts)).countP fun a => a.stage.kind = kind)
  failed : ∀ kind,
    store.counter? ("membench_stages_failed_total\x7bstage=" ++ kind ++ "\x7d") =
      reading ((builds.flatMap (·.failures)).countP fun e => e.failedStage.kind = kind)
  others : ∀ key n, store.counter? key = some n → ∃ kind,
    key = "membench_stages_succeeded_total\x7bstage=" ++ kind ++ "\x7d" ∨
      key = "membench_stages_failed_total\x7bstage=" ++ kind ++ "\x7d"

theorem countP_outcomes (builds : List Build) (ok : Bool) (kind : String) :
    (builds.flatMap Build.outcomes).countP (fun o => o.2 = ok ∧ o.1.kind = kind) =
      if ok then (builds.flatMap (·.artifacts)).countP fun a => a.stage.kind = kind
      else (builds.flatMap (·.failures)).countP fun e => e.failedStage.kind = kind := by
  induction builds with
  | nil => cases ok <;> rfl
  | cons b rest ih =>
    simp only [List.flatMap_cons, List.countP_append, ih, Build.outcomes, List.countP_map]
    cases ok <;> simp [Function.comp_def]

/-- A recorder shows builds if it has counted their outcomes, in any order. -/
theorem ShowsBuilds.of_perm {log : List (Stage × Bool)} {builds : List Build}
    (h : log.Perm (builds.flatMap Build.outcomes)) :
    ShowsBuilds (Store.empty.recordAll (log.map countStage)) builds := by
  obtain ⟨hcounts, honly⟩ := counter?_countAll log
  have hread : ∀ ok kind, (Store.empty.recordAll (log.map countStage)).counter?
      (stageCounter ok kind) =
        reading (if ok then (builds.flatMap (·.artifacts)).countP fun a => a.stage.kind = kind
          else (builds.flatMap (·.failures)).countP fun e => e.failedStage.kind = kind) := by
    intro ok kind
    rw [hcounts, h.countP_eq, countP_outcomes]
  refine ⟨fun kind => ?_, fun kind => ?_, fun key n hn => ?_⟩
  · rw [← stageCounter_true]
    exact hread true kind
  · rw [← stageCounter_false]
    exact hread false kind
  · obtain ⟨ok, kind, hkey⟩ := honly key n hn
    cases ok with
    | true => exact ⟨kind, .inl (hkey.trans (stageCounter_true kind))⟩
    | false => exact ⟨kind, .inr (hkey.trans (stageCounter_false kind))⟩

end GuardCost
