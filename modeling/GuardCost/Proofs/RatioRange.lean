/-
GuardCost/Proofs/RatioRange.lean

How great and how small the ratios of a report can be.  A row takes times that are
positive and finite only, and fills the cell of a variant with

    time of the variant / time of native

Both times being usable does not make the quotient usable: it is zero or infinity
where the exact quotient is out of the range of doubles (`Binary64.div_cases`).  So
there is a sharp condition, `Row.QuotientsFit`, under which the cells of a row are
positive and finite, and with them the cells of a report, of its CSV and its gauges
(`ratios_in_range`); and there are rows for which it fails (`quotients_out_of_range`).
-/
import GuardCost.Proofs.Quotients
import GuardCost.Proofs.RatioGauges

namespace GuardCost

open Binary64 Metrics

/-! ### Cells -/

namespace Row

variable {program : String} {columns : List Column} {samples : List Sample}

/-- A time that is found is usable. -/
theorem isUsable_of_lookup? {c : Column} {x : Float} (h : lookup? program samples c = some x) :
    isUsable x = true := by
  rw [lookup?, Option.filter_eq_some_iff] at h
  exact h.2

/-- What is in the cell of a column. -/
def cellOf (program : String) (samples : List Sample) (c : Column) : Option Float :=
  (lookup? program samples .native).bind fun native =>
    match c with
    | .native => some 1.0
    | .variant v => (lookup? program samples (.variant v)).map (· / native)

theorem cells_ofSamples :
    (ofSamples program columns samples).cells = columns.map (cellOf program samples) := by
  unfold ofSamples
  cases hnative : lookup? program samples .native with
  | none =>
    have hcell : ∀ c ∈ columns, cellOf program samples c = none := by
      intro c _
      rw [cellOf, hnative]
      rfl
    rw [List.map_congr_left hcell, List.map_const']
    rfl
  | some native =>
    refine List.map_congr_left fun c _ => ?_
    rw [cellOf, hnative]
    cases c <;> rfl

theorem cellOf_eq_some_iff {c : Column} {x : Float} :
    cellOf program samples c = some x ↔
      ∃ native, lookup? program samples .native = some native ∧
        ((c = .native ∧ x = 1.0) ∨ ∃ v seconds, c = .variant v ∧
          lookup? program samples (.variant v) = some seconds ∧ x = seconds / native) := by
  rw [cellOf, Option.bind_eq_some_iff]
  refine exists_congr fun native => and_congr_right fun _ => ?_
  cases c with
  | native => simp [eq_comm]
  | variant v => simp [eq_comm]

theorem mem_zip_iff {c : Column} {x? : Option Float} :
    (c, x?) ∈ columns.zip (ofSamples program columns samples).cells ↔
      c ∈ columns ∧ cellOf program samples c = x? := by
  rw [cells_ofSamples, ← List.map_prod_left_eq_zip, List.mem_map]
  constructor
  · rintro ⟨d, hd, heq⟩
    cases heq
    exact ⟨hd, rfl⟩
  · rintro ⟨hc, rfl⟩
    exact ⟨c, hc, rfl⟩

/-- The exact quotients of a row, of each variant that was measured, are in the range
of doubles. -/
def QuotientsFit (program : String) (columns : List Column) (samples : List Sample) : Prop :=
  ∀ v, .variant v ∈ columns → ∀ seconds native,
    lookup? program samples (.variant v) = some seconds →
    lookup? program samples .native = some native → Fits (value seconds / value native)

/-- The cells of a row are usable if and only if its exact quotients are in range. -/
theorem cells_usable_iff :
    (∀ x, some x ∈ (ofSamples program columns samples).cells → isUsable x = true) ↔
      QuotientsFit program columns samples := by
  simp only [cells_ofSamples, List.mem_map]
  constructor
  · intro h v hv seconds native hseconds hnative
    rw [← isUsable_div_iff (isUsable_of_lookup? hseconds) (isUsable_of_lookup? hnative)]
    exact h _ ⟨_, hv, cellOf_eq_some_iff.2
      ⟨native, hnative, .inr ⟨v, seconds, rfl, hseconds, rfl⟩⟩⟩
  · rintro h x ⟨c, hc, hcell⟩
    obtain ⟨native, hnative, ⟨-, rfl⟩ | ⟨v, seconds, rfl, hseconds, rfl⟩⟩ :=
      cellOf_eq_some_iff.1 hcell
    · decide
    · rw [isUsable_div_iff (isUsable_of_lookup? hseconds) (isUsable_of_lookup? hnative)]
      exact h v hc seconds native hseconds hnative

end Row

/-! ### Reports -/

namespace Metrics

/-- A gauge that is only ever set reads one of the values that it was set to. -/
theorem exists_set_of_gauge? {ops : List Operation}
    (hsets : ∀ op ∈ ops, ∃ x, op.2 = .gauge (.set x)) {key : String} {x : Float}
    (h : (Store.empty.recordAll ops).gauge? key = some x) : ∃ op ∈ ops, op.2 = .gauge (.set x) := by
  have hheld := Store.held?_recordAll_empty ops .gauge key
  rw [Store.held?, h] at hheld
  rcases List.eq_nil_or_concat' (eventsAt .gauge key ops) with hnil | ⟨before, last, hlast⟩
  · rw [hnil] at hheld
    cases hheld
  · have hmem : last ∈ eventsAt .gauge key ops := by simp [hlast]
    obtain ⟨op, hop, rfl⟩ := List.mem_map.1 hmem
    have hop' := List.mem_of_mem_filter hop
    obtain ⟨y, hy⟩ := hsets op hop'
    rw [hlast, Entry.after_append_singleton, hy, Event.entry_set] at hheld
    cases hheld
    exact ⟨op, hop', hy⟩

end Metrics

namespace Report

/-- **The range of the ratios of a report.**  Let timings be added to a report over
any columns, while a recorder is installed and empty.  A filled cell holds 1 in the
column of native, and in that of a variant the quotient of two times that are
positive and finite.  This quotient is positive and finite exactly if the exact one
is greater than half of the least double, and less than the greatest one and half a
unit; below that it is zero and above that infinity.  So all filled cells of the
report are positive and finite if and only if all its exact quotients are in that
range, and then so are the ratios that are read from its CSV and all its gauges. -/
theorem ratios_in_range (columns : List Column) :
    (∀ (program : String) (samples : List Sample) (c : Column) (x : Float),
      (c, some x) ∈ columns.zip (Row.ofSamples program columns samples).cells →
      (c = .native ∧ x = 1.0) ∨ ∃ v seconds native, c = .variant v ∧
        Row.lookup? program samples (.variant v) = some seconds ∧
        Row.lookup? program samples .native = some native ∧
        isUsable seconds = true ∧ isUsable native = true ∧ x = seconds / native ∧
        ((value seconds / value native ≤ leastHalf ∧ x = 0) ∨
          (Fits (value seconds / value native) ∧ isUsable x = true) ∨
          (ceiling ≤ value seconds / value native ∧ x = infinity))) ∧
    ∀ (ts : List Timings) (s : Session),
      let run := (ts.foldlM addTimings { columns }).run
        { s with metrics := (Recorder.install none).2 }
      let fit := ∀ t ∈ ts, Row.QuotientsFit t.program columns t.samples
      ((∀ row ∈ run.1.rows, ∀ x, some x ∈ row.cells → isUsable x = true) ↔ fit) ∧
      (fit →
        (∃ headers records, Csv.read run.1.csv = some (headers :: records) ∧
          ∀ record ∈ records, ∀ field ∈ record.tail,
            field = "" ∨ ∃ x, isUsable x = true ∧ field = Csv.ratio x) ∧
        ∃ store, run.2.metrics = some store ∧
          ∀ key x, store.gauge? key = some x → isUsable x = true) := by
  refine ⟨fun program samples c x hcell => ?_, ?_⟩
  · obtain ⟨native, hnative, h | ⟨v, seconds, rfl, hseconds, rfl⟩⟩ :=
      Row.cellOf_eq_some_iff.1 (Row.mem_zip_iff.1 hcell).2
    · exact .inl h
    · have hs := Row.isUsable_of_lookup? hseconds
      have hn := Row.isUsable_of_lookup? hnative
      exact .inr ⟨v, seconds, native, rfl, hseconds, hnative, hs, hn, rfl, div_cases hs hn⟩
  · intro ts s run fit
    let row := fun t : Timings => Row.ofSamples t.program columns t.samples
    have hreport : run.1 = ⟨columns, ts.map row⟩ :=
      (result_foldlM_addTimings _ ts _).trans (foldl_add _ ts)
    have hcells : (∀ row ∈ run.1.rows, ∀ x, some x ∈ row.cells → isUsable x = true) ↔ fit := by
      rw [hreport]
      simp only [List.forall_mem_map, row, Row.cells_usable_iff, fit]
    refine ⟨hcells, fun hfit => ⟨⟨_, _, read_csv run.1, ?_⟩, ?_⟩⟩
    · have husable := hcells.2 hfit
      intro record hrecord field hfield
      obtain ⟨row, hrow, rfl⟩ := List.mem_map.1 hrecord
      obtain ⟨x?, hx, rfl⟩ := List.mem_map.1 hfield
      cases x? with
      | none => exact .inl rfl
      | some x => exact .inr ⟨x, husable row hrow x hx, rfl⟩
    · have hmetrics : run.2.metrics = some (Store.empty.recordAll (operationsOf columns ts)) :=
        (records_foldlM_addTimings _ ts _).trans (Recorder.recordAll_some _ _)
      have hops : ∀ op ∈ operationsOf columns ts,
          ∃ x, isUsable x = true ∧ op.2 = .gauge (.set x) := by
        intro op hop
        obtain ⟨t, ht, v, x, hcell, rfl⟩ := mem_operationsOf.1 hop
        exact ⟨x, Row.cells_usable_iff.2 (hfit t ht) x (List.of_mem_zip hcell).2, rfl⟩
      refine ⟨_, hmetrics, fun key x hgauge => ?_⟩
      obtain ⟨op, hop, hx⟩ := exists_set_of_gauge?
        (fun op hop => (hops op hop).imp fun _ h => h.2) hgauge
      obtain ⟨y, hy, hset⟩ := hops op hop
      rw [hx] at hset
      cases hset
      exact hy

end Report

/-- Two times, of native and of an unprotected variant. -/
def twoTimes (native seconds : Float) : List Sample :=
  [⟨"p", .native, native⟩, ⟨"p", .variant .noProtection, seconds⟩]

/-- Times that are positive and finite, with quotients that are not. -/
theorem quotients_out_of_range :
    (Row.ofSamples "p" [.native, .variant .noProtection] (twoTimes 1e300 1e-300)).cells =
      [some 1.0, some 0] ∧
    (Row.ofSamples "p" [.native, .variant .noProtection] (twoTimes 1e-300 1e300)).cells =
      [some 1.0, some infinity] ∧
    isUsable 0 = false ∧ isUsable infinity = false := by
  decide +kernel

end GuardCost
