/-
GuardCost/Proofs/RatioGauges.lean

The gauges of a report.  A metric of one program and column has the key

    name{program=<program>,column=<column>}

in which nothing is escaped.  It can be read all the same: no name of a metric
has a brace in it, and no name of a column a comma, so that the name ends at the
first brace and the program at the last comma (`columnKey_inj`).  Hence every
filled cell of a variant has a gauge of its own, and a report of programs with
different names leaves no other ones (`ratio_gauges_are_cells`).
-/
import GuardCost.Proofs.Chains
import GuardCost.Proofs.CsvReading
import GuardCost.Proofs.Records

namespace GuardCost

open GuardCost.Action Metrics

/-! ### Keys -/

namespace Column

theorem ofKey?_key (c : Column) : ofKey? c.key = some c := by
  rcases c with - | (- | - | - | - | - | - | -) <;> decide

theorem key_injective : Function.Injective key := by
  intro c c' h
  have hsome : some c = some c' := by rw [← ofKey?_key c, ← ofKey?_key c', h]
  exact Option.some.inj hsome

theorem comma_notMem_key (c : Column) : ',' ∉ c.key.toList := by
  rcases c with - | (- | - | - | - | - | - | -) <;> decide

end Column

/-- The rendered key of a metric of one program and column. -/
def columnKey (name program : String) (column : Column) : String :=
  (⟨name, columnLabels program column⟩ : Key).text

theorem columnKey_eq (name program : String) (column : Column) :
    columnKey name program column =
      name ++ "\x7bprogram=" ++ program ++ ",column=" ++ column.key ++ "\x7d" := by
  rw [← String.toList_inj]
  simp [columnKey, Key.text, columnLabels, Text.join]

theorem columnKey_ratio (program : String) (v : Variant) :
    columnKey "membench_ratio" program (.variant v) =
      "membench_ratio\x7bprogram=" ++ program ++ ",column=" ++ v.id ++ "\x7d" := by
  rw [columnKey_eq, ← String.toList_inj]
  simp [Column.key]

/-- **The key tells the metric, the program and the column.** -/
theorem columnKey_inj {name name' program program' : String} {column column' : Column}
    (hname : '\x7b' ∉ name.toList) (hname' : '\x7b' ∉ name'.toList)
    (h : columnKey name program column = columnKey name' program' column') :
    name = name' ∧ program = program' ∧ column = column' := by
  have hkey : ∀ name program : String, ∀ c : Column, (columnKey name program c).toList =
      name.toList ++ '\x7b' :: (("program=".toList ++ program.toList) ++
        ',' :: ("column=".toList ++ c.key.toList ++ ['\x7d'])) := by
    intro name program c
    simp [columnKey_eq]
  have hcomma : ∀ c : Column, ',' ∉ "column=".toList ++ c.key.toList ++ ['\x7d'] := by
    intro c
    have hc := c.comma_notMem_key
    simp [hc]
  have hlist := congrArg String.toList h
  rw [hkey, hkey] at hlist
  obtain ⟨hnames, hlabels⟩ := append_cons_inj_of_notMem_front hname hname' hlist
  obtain ⟨hprograms, hcolumns⟩ :=
    append_cons_inj_of_notMem_back (hcomma column) (hcomma column') hlabels
  have hprogram := List.append_cancel_left hprograms
  have hcolumn := List.append_cancel_left (List.append_cancel_right hcolumns)
  exact ⟨String.toList_inj.1 hnames, String.toList_inj.1 hprogram,
    Column.key_injective (String.toList_inj.1 hcolumn)⟩

/-- So do the keys of the metrics of programs and columns. -/
theorem columnKey_inj_of_mem {name name' program program' : String} {column column' : Column}
    (hname : name ∈ ["membench_ratio", "membench_time_seconds"])
    (hname' : name' ∈ ["membench_ratio", "membench_time_seconds"])
    (h : columnKey name program column = columnKey name' program' column') :
    name = name' ∧ program = program' ∧ column = column' := by
  have hplain : ∀ name ∈ ["membench_ratio", "membench_time_seconds"], '\x7b' ∉ name.toList := by
    decide
  exact columnKey_inj (hplain name hname) (hplain name' hname') h

/-- The gauges of ratios tell the program and the variant. -/
theorem ratioKey_inj {p p' : String} {v v' : Variant}
    (h : columnKey "membench_ratio" p (.variant v) = columnKey "membench_ratio" p' (.variant v')) :
    p = p' ∧ v = v' := by
  obtain ⟨-, hp, hv⟩ := columnKey_inj_of_mem List.mem_cons_self List.mem_cons_self h
  exact ⟨hp, Column.variant.inj hv⟩

/-! ### Gauges that are set -/

namespace Metrics

/-- What is held of a gauge has no say in what it is set to. -/
theorem Event.entry_set (x : Float) (old : Option Entry) :
    (Event.gauge (.set x)).entry old = .gauge x := by
  rcases old with - | (n | y | ys) <;> rfl

/-- A gauge that is always set to the same value. -/
theorem Entry.after_sets {events : List Event} {x : Float} (hne : events ≠ [])
    (h : ∀ e ∈ events, e = .gauge (.set x)) : Entry.after events none = some (.gauge x) := by
  obtain ⟨rest, last, rfl⟩ : ∃ rest last, events = rest ++ [last] :=
    ⟨_, _, (List.dropLast_append_getLast hne).symm⟩
  rw [Entry.after_append_singleton, h last (by simp), Event.entry_set]

/-- Gauges that are set, each of them always to the same value. -/
theorem gauge?_of_sets {ops : List Operation} (hsets : ∀ op ∈ ops, ∃ x, op.2 = .gauge (.set x))
    (hsame : ∀ op ∈ ops, ∀ op' ∈ ops, op.1.text = op'.1.text → op.2 = op'.2) (key : String)
    (x : Float) : (Store.empty.recordAll ops).gauge? key = some x ↔
      ∃ op ∈ ops, op.1.text = key ∧ op.2 = .gauge (.set x) := by
  have hmem : ∀ e, e ∈ eventsAt .gauge key ops ↔ ∃ op ∈ ops, op.1.text = key ∧ op.2 = e := by
    intro e
    simp only [eventsAt, List.mem_map, List.mem_filter, decide_eq_true_eq]
    constructor
    · rintro ⟨op, ⟨hop, -, hkey⟩, he⟩
      exact ⟨op, hop, hkey, he⟩
    · rintro ⟨op, hop, hkey, he⟩
      obtain ⟨y, hy⟩ := hsets op hop
      exact ⟨op, ⟨hop, by rw [hy]; rfl, hkey⟩, he⟩
  have hentry := Store.held?_recordAll_empty ops .gauge key
  cases hevents : eventsAt .gauge key ops with
  | nil =>
    have hnone : (Store.empty.recordAll ops).gauge? key = none := by
      rw [hevents] at hentry
      exact Option.map_eq_none_iff.1 hentry
    rw [hnone]
    refine iff_of_false (by simp) ?_
    rintro ⟨op, hop, hkey, he⟩
    have := (hmem _).2 ⟨op, hop, hkey, rfl⟩
    rw [hevents] at this
    cases this
  | cons e rest =>
    obtain ⟨op, hop, hkey, rfl⟩ := (hmem e).1 (hevents ▸ List.mem_cons_self)
    obtain ⟨y, hy⟩ := hsets op hop
    -- all events at the key are that of `op`
    have hafter : Entry.after (eventsAt .gauge key ops) none = some (.gauge y) := by
      refine Entry.after_sets (by simp [hevents]) fun e' he' => ?_
      obtain ⟨op', hop', hkey', rfl⟩ := (hmem e').1 he'
      rw [← hy]
      exact hsame op' hop' op hop (hkey'.trans hkey.symm)
    have hgauge : (Store.empty.recordAll ops).gauge? key = some y := by
      rw [hafter] at hentry
      obtain ⟨z, hz, heq⟩ := Option.map_eq_some_iff.1 hentry
      cases heq
      exact hz
    rw [hgauge]
    constructor
    · rintro h
      cases h
      exact ⟨op, hop, hkey, hy⟩
    · rintro ⟨op', hop', hkey', hx⟩
      have hboth := hsame op' hop' op hop (hkey'.trans hkey.symm)
      rw [hx, hy] at hboth
      cases hboth
      rfl

end Metrics

/-! ### Cells that are recorded -/

/-- The events of the filled cells of the variants. -/
def ratioOperations (program : String) (cells : List (Column × Option Float)) : List Operation :=
  cells.filterMap fun
    | (.variant v, some x) =>
      some (⟨"membench_ratio", columnLabels program (.variant v)⟩, .gauge (.set x))
    | _ => none

theorem mem_ratioOperations {program : String} {cells : List (Column × Option Float)}
    {op : Operation} : op ∈ ratioOperations program cells ↔
      ∃ v x, (Column.variant v, some x) ∈ cells ∧
        op = (⟨"membench_ratio", columnLabels program (.variant v)⟩, .gauge (.set x)) := by
  rw [ratioOperations, List.mem_filterMap]
  constructor
  · rintro ⟨⟨- | v, - | x⟩, hcell, hop⟩
    · cases hop
    · cases hop
    · cases hop
    · exact ⟨v, x, hcell, (Option.some.inj hop).symm⟩
  · rintro ⟨v, x, hcell, rfl⟩
    exact ⟨_, hcell, rfl⟩

theorem records_recordCells (program : String) (cells : List (Column × Option Float)) :
    Records (recordCells program cells) fun _ => ratioOperations program cells := by
  induction cells with
  | nil => exact .pure _
  | cons cell rest ih =>
    obtain ⟨- | v, - | x⟩ := cell
    · exact ih
    · exact ih
    · exact ih
    · exact (records_recordEvent _ _).bind (quiet_recordEvent _ _).grounded fun _ => ih

/-- The time of a column in timings: that of its first sample there, if it can be used. -/
def Timings.time? (t : Timings) (column : Column) : Option Float :=
  ((t.samples.find? fun s => s.program = t.program ∧ s.column = column).map (·.seconds)).filter
    fun x => x.isFinite = true ∧ 0 < x

namespace Row

theorem lookup?_eq_time? (t : Timings) (column : Column) :
    lookup? t.program t.samples column = t.time? column := by
  have hsample : (fun s : Sample => s.program == t.program && s.column == column) =
      fun s => decide (s.program = t.program ∧ s.column = column) := by
    funext s
    rw [Bool.decide_and, beq_eq_decide, beq_eq_decide]
  have husable : Binary64.isUsable = fun x => decide (x.isFinite = true ∧ 0 < x) := by
    funext x
    simp [Binary64.isUsable]
  rw [lookup?, hsample, husable]
  rfl

/-- A row has the cells of its timings. -/
theorem ofSamples_eq (t : Timings) (columns : List Column) :
    ofSamples t.program columns t.samples = ⟨t.program, columns.map (cellOf t.time?)⟩ := by
  unfold ofSamples
  simp only [lookup?_eq_time?]
  cases hn : t.time? .native with
  | none =>
    have hcells : columns.map (cellOf t.time?) = columns.map fun _ => none :=
      List.map_congr_left fun c _ => cellOf_eq_none hn c
    rw [hcells, List.map_const']
    rfl
  | some native =>
    refine congrArg (Row.mk t.program) (List.map_congr_left fun c _ => ?_)
    cases c <;> simp [cellOf, hn]

/-- The events of a row. -/
def operations (columns : List Column) (row : Row) : List Operation :=
  ratioOperations row.program (columns.zip row.cells)

/-- Each column has one cell in a row. -/
theorem cell_unique {t : Timings} {columns : List Column} {c : Column} {x y : Option Float}
    (hx : (c, x) ∈ columns.zip (ofSamples t.program columns t.samples).cells)
    (hy : (c, y) ∈ columns.zip (ofSamples t.program columns t.samples).cells) : x = y := by
  have hcell : ∀ x, (c, x) ∈ columns.zip (columns.map (cellOf t.time?)) → x = cellOf t.time? c := by
    intro x h
    rw [← List.map_prod_left_eq_zip, List.mem_map] at h
    obtain ⟨d, -, heq⟩ := h
    cases heq
    rfl
  rw [ofSamples_eq] at hx hy
  rw [hcell x hx, hcell y hy]

end Row

/-! ### Rows that are recorded -/

namespace Report

/-- The events of the rows of timings. -/
def operationsOf (columns : List Column) (ts : List Timings) : List Operation :=
  ts.flatMap fun t => (Row.ofSamples t.program columns t.samples).operations columns

section
variable {columns : List Column} {ts : List Timings}

theorem mem_operationsOf {op : Operation} : op ∈ operationsOf columns ts ↔ ∃ t ∈ ts, ∃ v x,
    (Column.variant v, some x) ∈ columns.zip (Row.ofSamples t.program columns t.samples).cells ∧
      op = (⟨"membench_ratio", columnLabels t.program (.variant v)⟩, .gauge (.set x)) := by
  simp only [operationsOf, List.mem_flatMap, Row.operations, mem_ratioOperations,
    Row.program_ofSamples]

/-- Timings of different programs never set a gauge twice to different values. -/
theorem eq_of_mem_operationsOf (hnames : (ts.map (·.program)).Nodup) {op op' : Operation}
    (hop : op ∈ operationsOf columns ts) (hop' : op' ∈ operationsOf columns ts)
    (hkey : op.1.text = op'.1.text) : op.2 = op'.2 := by
  obtain ⟨t, ht, v, x, hx, rfl⟩ := mem_operationsOf.1 hop
  obtain ⟨t', ht', v', x', hx', rfl⟩ := mem_operationsOf.1 hop'
  -- the same key is that of the same program and variant, and so of the same cell
  obtain ⟨hp, rfl⟩ := ratioKey_inj hkey
  obtain rfl := List.inj_on_of_nodup_map hnames ht ht' hp
  cases Row.cell_unique hx hx'
  rfl

/-- A gauge reads what is in the cell whose key it has. -/
theorem gauge?_operationsOf (hnames : (ts.map (·.program)).Nodup) {key : String} {x : Float} :
    (Store.empty.recordAll (operationsOf columns ts)).gauge? key = some x ↔ ∃ t ∈ ts, ∃ v,
      (Column.variant v, some x) ∈ columns.zip (Row.ofSamples t.program columns t.samples).cells ∧
        columnKey "membench_ratio" t.program (.variant v) = key := by
  have hsets : ∀ op ∈ operationsOf columns ts, ∃ x, op.2 = .gauge (.set x) := by
    intro op hop
    obtain ⟨t, -, v, x, -, rfl⟩ := mem_operationsOf.1 hop
    exact ⟨x, rfl⟩
  have hsame : ∀ op ∈ operationsOf columns ts, ∀ op' ∈ operationsOf columns ts,
      op.1.text = op'.1.text → op.2 = op'.2 :=
    fun op hop op' hop' => eq_of_mem_operationsOf hnames hop hop'
  rw [gauge?_of_sets hsets hsame]
  constructor
  · rintro ⟨op, hop, hkey, hx⟩
    obtain ⟨t, ht, v, x', hcell, rfl⟩ := mem_operationsOf.1 hop
    cases hx
    exact ⟨t, ht, v, hcell, hkey⟩
  · rintro ⟨t, ht, v, hcell, hkey⟩
    exact ⟨_, mem_operationsOf.2 ⟨t, ht, v, x, hcell, rfl⟩, hkey, rfl⟩

end

theorem records_addTimings (r : Report) (t : Timings) : Records (r.addTimings t)
    fun _ => (Row.ofSamples t.program r.columns t.samples).operations r.columns :=
  (records_recordCells _ _).thenPure _

/-- The events of a report are those of its rows. -/
theorem records_foldlM_addTimings (r : Report) (ts : List Timings) :
    Records (ts.foldlM addTimings r) fun _ => operationsOf r.columns ts := by
  induction ts generalizing r with
  | nil => exact .pure _
  | cons t rest ih =>
    rw [List.foldlM_cons]
    intro s
    have hstep := (r.records_addTimings t).bind (grounded_addTimings r t) ih s
    have hcolumns : ((r.addTimings t).deed s.world).result.columns = r.columns := by
      rw [deed_addTimings]
      rfl
    rw [hstep]
    simp only [hcolumns, operationsOf, List.flatMap_cons]

/-- Timings of two programs, the second of them named like a program and a
column. -/
def labelledTimings : List Timings :=
  [⟨"a", [⟨"a", .native, 2⟩, ⟨"a", .variant .boundsChecked, 3⟩], []⟩,
    ⟨"a,column=bc\x7d", [⟨"a,column=bc\x7d", .native, 2⟩,
      ⟨"a,column=bc\x7d", .variant .boundsChecked, 5⟩], []⟩]

end Report

end GuardCost
