/-
GuardCost/Proofs/TableReading.lean

A table can be read again, unless a text in it has a character of the syntax of
tables.  The reader goes line by line, leaves out the rule, splits a line at its
bars, drops the empty parts outside them and trims the others.  So a line is read
box by box

    line of boxes  ->  parts of box 0, parts of box 1, …, parts of box n

and a box is read as one cell if there is no bar in it (`cellsOf_bars`).  Nothing
is escaped when a table is written: every bar in a text is one cell more
(`length_cellsOf_bars`), and every line feed one line more
(`length_lines_render`).  Hence the reader finds the texts just if none of them
has either (`read?_render_iff`).

In the tables of the program all that is not given by the user is free of both:
headings, sizes, ratios, and what is known of the variants.
-/
import GuardCost.Proofs.CsvReading
import GuardCost.Proofs.Listings
import GuardCost.Proofs.Names
import GuardCost.Proofs.Trimming

namespace GuardCost

/-! ### Counting separators -/

theorem length_partsAt {α : Type} [DecidableEq α] (sep : α) (xs : List α) :
    (partsAt sep xs).length = xs.count sep + 1 := by
  induction xs with
  | nil => rfl
  | cons x rest ih =>
    obtain ⟨part, parts, hp⟩ := List.exists_cons_of_ne_nil (partsAt_ne_nil sep rest)
    rw [hp, List.length_cons] at ih
    rw [partsAt, hp]
    by_cases hx : x = sep
    · rw [if_pos hx, hx, List.count_cons_self, List.length_cons, List.length_cons, ih]
    · rw [if_neg hx, List.count_cons_of_ne hx, List.length_cons, ih]

namespace Text

theorem length_splitFeeds_append (line rest : List Char) :
    (splitFeeds (line ++ '\n' :: rest)).length =
      line.count '\n' + 1 + (splitFeeds rest).length := by
  induction line with
  | nil => rw [List.nil_append, splitFeeds, List.length_cons, List.count_nil]; omega
  | cons c cs ih =>
    by_cases hc : c = '\n'
    · rw [hc, List.cons_append, splitFeeds, List.length_cons, ih, List.count_cons_self]
      omega
    · -- the character belongs to the first line of the rest
      obtain ⟨l, ls, hl⟩ : ∃ l ls, splitFeeds (cs ++ '\n' :: rest) = l :: ls := by
        refine List.exists_cons_of_length_pos ?_
        omega
      rw [hl, List.length_cons] at ih
      rw [List.cons_append, splitFeeds, hl, List.length_cons, ih, List.count_cons_of_ne hc]
      exact hc

/-- A line feed inside of a line makes one line more. -/
theorem length_lines_join (ls : List String) :
    (lines (String.join (ls.map (· ++ "\n")))).length =
      ls.length + (ls.map (·.toList.count '\n')).sum := by
  rw [lines, List.length_map]
  induction ls with
  | nil => rfl
  | cons l rest ih =>
    have htext : (l ++ "\n").toList = l.toList ++ ['\n'] := String.toList_append
    rw [List.map_cons, String.join_cons, String.toList_append, htext, List.append_assoc,
      List.singleton_append, length_splitFeeds_append, ih, List.length_cons, List.map_cons,
      List.sum_cons]
    omega

/-- Blanks that are written around a text are dropped again. -/
theorem trim_between_spaces (m n : Nat) (s : String) : trim (spaces m ++ s ++ spaces n) = trim s := by
  have hblank : ∀ n, ∀ c ∈ (spaces n).toList, isBlank c = true := by
    intro n c hc
    rw [spaces, String.toList_ofList] at hc
    rw [List.eq_of_mem_replicate hc]
    rfl
  rw [← String.toList_inj, toList_trim, toList_trim, String.toList_append, String.toList_append,
    trimChars_append_blanks (hblank m) (hblank n)]

/-- A character of joined texts is one of a text or of the separator. -/
theorem mem_toList_join {c : Char} {sep : String} (hsep : c ∉ sep.toList) (texts : List String) :
    c ∈ (join sep texts).toList ↔ ∃ s ∈ texts, c ∈ s.toList := by
  induction texts with
  | nil => simp [join]
  | cons s rest ih =>
    cases rest with
    | nil => simp [join]
    | cons t rest =>
      rw [join, String.toList_append, String.toList_append, List.mem_append, List.mem_append, ih,
        List.exists_mem_cons_iff]
      simp [hsep]

end Text

namespace Table

/-! ### The reader -/

/-- The parts of a line without an empty one at each end. -/
def dropOuter (parts : List (List Char)) : List (List Char) :=
  let parts := if parts.head? = some [] then parts.tail else parts
  if parts.getLast? = some [] then parts.dropLast else parts

/-- The cells of a line. -/
def cellsOf (line : String) : List String :=
  (dropOuter (partsAt '|' line.toList)).map fun part => Text.trim (String.ofList part)

/-- The table of a text: a line for the headings, the rule, and a line for each
row. -/
def read? (text : String) : Option Table :=
  match Text.lines text with
  | heading :: _ :: rows => some ⟨cellsOf heading, rows.map cellsOf⟩
  | _ => none

/-- A table with its texts trimmed. -/
def trimmed (t : Table) : Table where
  headers := t.headers.map Text.trim
  rows := t.rows.map (·.map Text.trim)

/-- Every row has a cell for each heading. -/
def Rectangular (t : Table) : Prop := ∀ row ∈ t.rows, row.length = t.headers.length

instance (t : Table) : Decidable t.Rectangular :=
  inferInstanceAs (Decidable (∀ row ∈ t.rows, _))

/-- A text without the characters that have a meaning in a table. -/
def Plain (s : String) : Prop := '|' ∉ s.toList ∧ '\n' ∉ s.toList

instance (s : String) : Decidable (Plain s) := inferInstanceAs (Decidable (_ ∧ _))

/-! ### Reading a line -/

theorem partsAt_bars (boxes : List String) : partsAt '|' (bars boxes) =
    [] :: (boxes.flatMap (fun box => partsAt '|' box.toList) ++ [[]]) := by
  induction boxes with
  | nil => rfl
  | cons box rest ih =>
    obtain ⟨behind, hbehind⟩ : ∃ behind, bars rest = '|' :: behind := by cases rest <;> exact ⟨_, rfl⟩
    rw [hbehind, partsAt, if_pos rfl] at ih
    rw [bars_cons, hbehind, partsAt, if_pos rfl, partsAt_append, (List.cons.inj ih).2,
      List.flatMap_cons, List.append_assoc]

/-- A line is read box by box. -/
theorem cellsOf_eq (boxes : List String) : cellsOf (String.ofList (bars boxes)) =
    (boxes.flatMap fun box => partsAt '|' box.toList).map fun part =>
      Text.trim (String.ofList part) := by
  rw [cellsOf, String.toList_ofList, partsAt_bars, dropOuter, List.head?_cons, if_pos rfl,
    List.tail_cons, List.getLast?_concat, if_pos rfl, List.dropLast_concat]

/-- A box without bars is read as one cell. -/
theorem cellsOf_bars {boxes : List String} (h : ∀ box ∈ boxes, '|' ∉ box.toList) :
    cellsOf (String.ofList (bars boxes)) = boxes.map Text.trim := by
  have hparts : (boxes.flatMap fun box => partsAt '|' box.toList) = boxes.map String.toList := by
    rw [List.map_eq_flatMap]
    exact List.flatMap_congr fun box hbox => partsAt_of_notMem (h box hbox)
  rw [cellsOf_eq, hparts, List.map_map]
  exact List.map_congr_left fun box _ => congrArg Text.trim String.ofList_toList

/-- A bar in a box makes one cell more. -/
theorem length_cellsOf_bars (boxes : List String) :
    (cellsOf (String.ofList (bars boxes))).length =
      boxes.length + (boxes.map (·.toList.count '|')).sum := by
  rw [cellsOf_eq, List.length_map, List.length_flatMap]
  simp only [length_partsAt]
  induction boxes with
  | nil => rfl
  | cons box rest ih =>
    simp only [List.map_cons, List.sum_cons, List.length_cons, ih]
    omega

/-! ### Reading a table -/

theorem trim_spaced (s : String) : Text.trim (spaced s) = Text.trim s :=
  Text.trim_between_spaces 1 1 s

theorem trim_flush (i w : Nat) (s : String) : Text.trim (flush i w s) = Text.trim s := by
  unfold flush
  split
  · rw [left, ← Text.trim_between_spaces 0 (w - width s) s]
    exact congrArg (fun text => Text.trim (text ++ _)) String.empty_append.symm
  · rw [right, ← Text.trim_between_spaces (w - width s) 0 s]
    exact congrArg Text.trim String.append_empty.symm

theorem trim_centre (w : Nat) (s : String) : Text.trim (centre w s) = Text.trim s :=
  Text.trim_between_spaces ..

theorem sum_count_eq_zero_iff {c : Char} {texts : List String} :
    (texts.map (·.toList.count c)).sum = 0 ↔ ∀ s ∈ texts, c ∉ s.toList := by
  rw [List.sum_eq_zero_iff_forall_eq_nat, List.forall_mem_map]
  exact forall₂_congr fun s _ => List.count_eq_zero

variable {t : Table}

/-- What holds of the box of each column holds of the texts of a row. -/
theorem map_boxes {α : Type} (f : String → α) {row : List String} {box : Nat → String}
    (hlength : row.length = t.headers.length) (h : ∀ i, f (box i) = f (row[i]?.getD "")) :
    (t.boxes box).map f = row.map f := by
  refine List.ext_getElem? fun i => ?_
  rw [boxes, List.getElem?_map, List.getElem?_map, List.getElem?_map]
  by_cases hi : i < t.headers.length
  · have hrow : i < row.length := hlength ▸ hi
    rw [List.getElem?_range hi, List.getElem?_eq_getElem hrow]
    show some (f (box i)) = some (f row[i])
    rw [h, List.getElem?_eq_getElem hrow]
    rfl
  · rw [List.getElem?_eq_none (by simpa using hi), List.getElem?_eq_none (by omega)]
    rfl

/-- A line is read as the texts of a row just if there is no bar in them. -/
theorem cellsOf_boxes_iff {row : List String} {box : Nat → String}
    (hlength : row.length = t.headers.length)
    (htrim : ∀ i, Text.trim (box i) = Text.trim (row[i]?.getD ""))
    (hcount : ∀ i, (box i).toList.count '|' = (row[i]?.getD "").toList.count '|') :
    cellsOf (String.ofList (bars (t.boxes box))) = row.map Text.trim ↔
      ∀ s ∈ row, '|' ∉ s.toList := by
  have hcount : (t.boxes box).map (·.toList.count '|') = row.map (·.toList.count '|') :=
    map_boxes (·.toList.count '|') hlength hcount
  constructor
  · intro hcells
    have hcells := congrArg List.length hcells
    rw [length_cellsOf_bars, length_boxes, hcount, List.length_map] at hcells
    refine sum_count_eq_zero_iff.1 ?_
    omega
  · intro hrow
    rw [cellsOf_bars, map_boxes Text.trim hlength htrim]
    rwa [← sum_count_eq_zero_iff, hcount, sum_count_eq_zero_iff]

theorem cellsOf_headings_iff : cellsOf (String.ofList (bars (t.boxes t.headingBox))) =
    t.headers.map Text.trim ↔ ∀ s ∈ t.headers, '|' ∉ s.toList :=
  cellsOf_boxes_iff rfl (fun i => by rw [headingBox, trim_spaced, trim_centre])
    fun i => t.count_headingBox (by decide) i

theorem cellsOf_row_iff {row : List String} (hlength : row.length = t.headers.length) :
    cellsOf (String.ofList (bars (t.boxes (t.rowBox row)))) = row.map Text.trim ↔
      ∀ s ∈ row, '|' ∉ s.toList :=
  cellsOf_boxes_iff hlength (fun i => by rw [rowBox, trim_spaced, trim_flush])
    fun i => t.count_rowBox (by decide) row i

/-- With its lines, a table has been read up to the cells in them. -/
theorem read?_of_lines {text : String} (h : Text.lines text = t.gridLines) : read? text =
    some ⟨cellsOf (String.ofList (bars (t.boxes t.headingBox))),
      t.rows.map fun row => cellsOf (String.ofList (bars (t.boxes (t.rowBox row))))⟩ := by
  rw [read?, h, gridLines, grid, List.map_cons, List.map_cons, List.map_map]
  dsimp only
  rw [List.map_map]
  simp only [Function.comp_def]

/-- Once there are no line feeds, only bars are in the way of the reader. -/
theorem read?_render_iff_of_feedless (hrect : t.Rectangular)
    (hfeeds : ∀ s ∈ t.texts, '\n' ∉ s.toList) :
    read? t.render = some t.trimmed ↔ ∀ s ∈ t.texts, '|' ∉ s.toList := by
  have hrows : (t.rows.map fun row => cellsOf (String.ofList (bars (t.boxes (t.rowBox row))))) =
      t.rows.map (·.map Text.trim) ↔ ∀ row ∈ t.rows, ∀ s ∈ row, '|' ∉ s.toList := by
    rw [List.map_inj_left]
    exact forall₂_congr fun row hrow => cellsOf_row_iff (hrect row hrow)
  rw [read?_of_lines (lines_render hfeeds), trimmed, Option.some_inj, Table.mk.injEq,
    cellsOf_headings_iff, hrows, texts, List.forall_mem_append, List.forall_mem_flatten]

/-- A line feed in a text makes one line more. -/
theorem length_lines_render (hrect : t.Rectangular) : (Text.lines t.render).length =
    t.rows.length + 2 + (t.texts.map (·.toList.count '\n')).sum := by
  have hline : ∀ boxes : List String, (String.ofList (bars boxes)).toList.count '\n' =
      (boxes.map (·.toList.count '\n')).sum := by
    intro boxes
    rw [String.toList_ofList, count_bars, if_neg (by decide), Nat.zero_add]
  have hrule : ((t.boxes t.ruleBox).map (·.toList.count '\n')).sum = 0 :=
    t.count_boxes fun i => t.count_ruleBox (by decide) (by decide) i
  have hheaders : (t.boxes t.headingBox).map (·.toList.count '\n') =
      t.headers.map (·.toList.count '\n') :=
    map_boxes (·.toList.count '\n') rfl fun i => t.count_headingBox (by decide) i
  have hrows : (t.rows.map fun row =>
      ((t.boxes (t.rowBox row)).map (·.toList.count '\n')).sum).sum =
        (t.rows.flatten.map (·.toList.count '\n')).sum := by
    rw [List.map_flatten, List.sum_flatten, List.map_map]
    exact congrArg List.sum (List.map_congr_left fun row hrow => congrArg List.sum
      (map_boxes (·.toList.count '\n') (hrect row hrow) fun i => t.count_rowBox (by decide) row i))
  rw [render_eq, Text.length_lines_join, gridLines, List.map_map, List.length_map]
  simp only [Function.comp_def, hline]
  rw [grid, List.map_cons, List.map_cons, List.sum_cons, List.sum_cons, List.length_cons,
    List.length_cons, List.length_map, List.map_map, hrule, hheaders, texts, List.map_append,
    List.sum_append, ← hrows]
  simp only [Function.comp_def]
  omega

/-- A table that is read again has the lines of its rows only, and so no line
feeds. -/
theorem notMem_feed_of_read? (hrect : t.Rectangular) (h : read? t.render = some t.trimmed) :
    ∀ s ∈ t.texts, '\n' ∉ s.toList := by
  refine sum_count_eq_zero_iff.1 ?_
  have hlength := length_lines_render hrect
  rw [read?] at h
  split at h
  · next heading rule rows hlines =>
    have hrows : rows.map cellsOf = t.rows.map (·.map Text.trim) :=
      congrArg Table.rows (Option.some.inj h)
    have hcount := congrArg List.length hrows
    rw [List.length_map, List.length_map] at hcount
    rw [hlines, List.length_cons, List.length_cons, hcount] at hlength
    omega
  · cases h

/-- A table is read again just if its texts are plain. -/
theorem read?_render_iff (hrect : t.Rectangular) :
    read? t.render = some t.trimmed ↔ ∀ s ∈ t.texts, Plain s := by
  constructor
  · intro h s hs
    have hfeeds := notMem_feed_of_read? hrect h
    exact ⟨(read?_render_iff_of_feedless hrect hfeeds).1 h s hs, hfeeds s hs⟩
  · intro hplain
    exact (read?_render_iff_of_feedless hrect fun s hs => (hplain s hs).2).2
      fun s hs => (hplain s hs).1

/-- A marked text has nothing of the syntax of tables. -/
theorem Plain.of_marked {s : String} (h : Decimal.Marked s) : Plain s := by
  have hmark : ∀ c ∈ s.toList, Decimal.isMark c = true := List.all_eq_true.1 h
  exact ⟨fun hbar => absurd (hmark _ hbar) (by decide),
    fun hfeed => absurd (hmark _ hfeed) (by decide)⟩

theorem plain_join_iff {texts : List String} :
    Plain (Text.join " " texts) ↔ ∀ s ∈ texts, Plain s := by
  have hbar : '|' ∈ (Text.join " " texts).toList ↔ ∃ s ∈ texts, '|' ∈ s.toList :=
    Text.mem_toList_join (by decide) texts
  have hfeed : '\n' ∈ (Text.join " " texts).toList ↔ ∃ s ∈ texts, '\n' ∈ s.toList :=
    Text.mem_toList_join (by decide) texts
  rw [Plain, hbar, hfeed]
  grind [Plain]

end Table

/-! ### The tables of the program -/

open Table

theorem Column.plain_label (column : Column) : Plain column.label := by
  cases column with
  | native => decide
  | variant v => cases v <;> decide

namespace Report

theorem plain_shownRatio (x? : Option Float) : Plain (shownRatio x?) := by
  cases x? with
  | none => decide
  | some x => exact .of_marked (Decimal.marked_fixed 3 x)

/-- In a table of ratios only the names of the programs are free. -/
theorem plain_table_iff (r : Report) :
    (∀ s ∈ r.table.texts, Plain s) ↔ ∀ row ∈ r.rows, Plain row.program := by
  constructor
  · intro h row hrow
    refine h _ (List.mem_append_right _ (List.mem_flatten.2 ⟨_, List.mem_map_of_mem hrow, ?_⟩))
    exact List.mem_cons_self
  · intro h s hs
    rcases List.mem_append.1 hs with hs | hs
    · rcases List.mem_cons.1 hs with rfl | hs
      · decide
      · obtain ⟨column, -, rfl⟩ := List.mem_map.1 hs
        exact column.plain_label
    · obtain ⟨cells, hcells, hs⟩ := List.mem_flatten.1 hs
      obtain ⟨row, hrow, rfl⟩ := List.mem_map.1 hcells
      rcases List.mem_cons.1 hs with rfl | hs
      · exact h row hrow
      · obtain ⟨x?, -, rfl⟩ := List.mem_map.1 hs
        exact plain_shownRatio x?

/-- A report to which timings were added. -/
def filled (plan : Plan) (ts : List Timings) : Report := ts.foldl add { columns := plan.columns }

theorem filled_eq (plan : Plan) (ts : List Timings) : filled plan ts =
    ⟨plan.columns, ts.map fun t => Row.ofSamples t.program plan.columns t.samples⟩ :=
  foldl_add _ ts

theorem rectangular_filled (plan : Plan) (ts : List Timings) :
    (filled plan ts).table.Rectangular := by
  intro cells hcells
  obtain ⟨row, hrow, rfl⟩ := List.mem_map.1 hcells
  rw [filled_eq] at hrow ⊢
  obtain ⟨t, -, rfl⟩ := List.mem_map.1 hrow
  rw [List.length_cons, List.length_map, Row.length_ofSamples, table, headers, List.length_cons,
    List.length_map]

theorem plain_filled_iff (plan : Plan) (ts : List Timings) :
    (∀ s ∈ (filled plan ts).table.texts, Plain s) ↔ ∀ t ∈ ts, Plain t.program := by
  rw [plain_table_iff, filled_eq]
  simp only [List.forall_mem_map, Row.program_ofSamples]

end Report

namespace Cli

theorem plain_variantTable (plan : Plan) : ∀ s ∈ (variantTable plan).texts, Plain s := by
  have hplain : ∀ s ∈ variantTexts, Plain s := by decide
  exact fun s hs => hplain s (mem_variantTexts hs)

theorem rectangular_variantTable (plan : Plan) : (variantTable plan).Rectangular := by
  intro row hrow
  obtain ⟨v, -, rfl⟩ := List.mem_map.1 hrow
  rfl

theorem rectangular_programTable (r : Registry) : (programTable r).Rectangular := by
  intro row hrow
  obtain ⟨p, -, rfl⟩ := List.mem_map.1 hrow
  rfl

/-- In the table of programs only names, arguments and flags are free. -/
theorem plain_programTable_iff (r : Registry) :
    (∀ s ∈ (programTable r).texts, Plain s) ↔ ∀ p ∈ r.programs,
      Plain p.name ∧ (∀ a ∈ p.arguments, Plain a) ∧ ∀ f ∈ p.flags, Plain f := by
  have hheaders : ∀ s ∈ ["Program", "Args", "Stack", "Flags"], Plain s := by decide
  have hsize : ∀ n : Nat, Plain (toString n) := by
    intro n
    have hdigits : Decimal.digits n = toString n := rfl
    exact .of_marked (hdigits ▸ Decimal.marked_digits n)
  have hrow : ∀ p : Program, (∀ s ∈ [p.name, Text.join " " p.arguments,
      toString p.stackSize.toNat, Text.join " " p.flags], Plain s) ↔
        Plain p.name ∧ (∀ a ∈ p.arguments, Plain a) ∧ ∀ f ∈ p.flags, Plain f := by
    intro p
    rw [List.forall_mem_cons, List.forall_mem_cons, List.forall_mem_cons, List.forall_mem_singleton,
      plain_join_iff, plain_join_iff, and_iff_right (hsize _)]
  have htexts : (programTable r).texts = ["Program", "Args", "Stack", "Flags"] ++
      r.programs.flatMap fun p => [p.name, Text.join " " p.arguments,
        toString p.stackSize.toNat, Text.join " " p.flags] := by
    rw [texts, programTable, List.flatMap_def]
  rw [htexts, List.forall_mem_append, and_iff_right hheaders, List.forall_mem_flatMap]
  exact forall₂_congr fun p _ => hrow p

end Cli

namespace Table

open Cli

/-- **A table is read back just if its texts are plain.**  Take a table with as
many cells in each row as there are headings, and the text that it is laid out
as.  Reading the text gives the headings and the cells, trimmed, if and only if
there is no bar and no line feed in any of them.  For the ratios of a report this
depends on the names of the programs alone, and for the programs of a suite on
their names, arguments and flags; the variants are always read back. -/
theorem read_back_iff_plain {t : Table} {text : String} (htext : t.layOut? = some text) :
    (t.Rectangular → (read? text = some t.trimmed ↔ ∀ s ∈ t.texts, Plain s)) ∧
      (∀ (plan : Plan) (ts : List Timings) (s : Session),
        t = ((ts.foldlM Report.addTimings { columns := plan.columns }).run s).1.table →
          (read? text = some t.trimmed ↔ ∀ u ∈ ts, Plain u.program)) ∧
      (∀ r : Registry, t = programTable r →
        (read? text = some t.trimmed ↔ ∀ p ∈ r.programs,
          Plain p.name ∧ (∀ a ∈ p.arguments, Plain a) ∧ ∀ f ∈ p.flags, Plain f)) ∧
      ∀ plan : Plan, t = variantTable plan → read? text = some t.trimmed := by
  have hread : t.Rectangular → (read? text = some t.trimmed ↔ ∀ s ∈ t.texts, Plain s) := by
    rw [t.layOut?_eq_some htext]
    exact read?_render_iff
  refine ⟨hread, fun plan ts s ht => ?_, fun r ht => ?_, fun plan ht => ?_⟩
  · have hreport : ((ts.foldlM Report.addTimings { columns := plan.columns }).run s).1 =
        Report.filled plan ts := Report.result_foldlM_addTimings ..
    rw [hreport] at ht
    rw [hread (ht ▸ Report.rectangular_filled plan ts), ht, Report.plain_filled_iff]
  · rw [hread (ht ▸ rectangular_programTable r), ht, plain_programTable_iff]
  · rw [hread (ht ▸ rectangular_variantTable plan), ht]
    exact plain_variantTable plan

/-- Two ratios, one of them missing, and a name with blanks around it. -/
def spacious : Table := ⟨["Program", "wasm"], [[" a b ", "1.250"], ["c,\"d\"", ""]]⟩

/-- The blanks around a name are not read back. -/
theorem spacious_read_back :
    spacious.Rectangular ∧ (∀ s ∈ spacious.texts, Plain s) ∧
      spacious.layOut? = some ("| Program | wasm  |\n" ++ "|:--------|------:|\n" ++
        "|  a b    | 1.250 |\n" ++ "| c,\"d\"   |       |\n") ∧
      spacious.layOut?.bind read? =
        some ⟨["Program", "wasm"], [["a b", "1.250"], ["c,\"d\"", ""]]⟩ := by
  have hrect : spacious.Rectangular := by decide
  have hplain : ∀ s ∈ spacious.texts, Plain s := by decide
  refine ⟨hrect, hplain, ?_⟩
  have htext : spacious.layOut? = some ("| Program | wasm  |\n" ++ "|:--------|------:|\n" ++
      "|  a b    | 1.250 |\n" ++ "| c,\"d\"   |       |\n") := by decide
  refine ⟨htext, ?_⟩
  rw [htext, Option.bind_some, ((read_back_iff_plain htext).1 hrect).2 hplain]
  rfl

/-- A suite that is accepted can have names that its report is not read back
with. -/
theorem barred_name_not_read_back :
    ¬ ∀ (programs : List Program) (r : Registry), Registry.ofPrograms programs = .ok r →
      ∀ (plan : Plan) (ts : List Timings), ts.map (·.program) = r.names →
        ∀ text, (Report.filled plan ts).table.layOut? = some text →
          read? text = some (Report.filled plan ts).table.trimmed := by
  intro hall
  let ts : List Timings := [{ program := "a|b" }]
  have hregistry : Registry.ofPrograms [{ name := "a|b" }] = .ok ⟨[{ name := "a|b" }]⟩ := by decide
  obtain ⟨text, htext⟩ : ∃ text, (Report.filled ⟨.full, []⟩ ts).table.layOut? = some text :=
    Option.isSome_iff_exists.1 (by decide)
  have hread := hall _ _ hregistry ⟨.full, []⟩ ts rfl text htext
  rw [layOut?_eq_some _ htext, read?_render_iff (Report.rectangular_filled _ ts),
    Report.plain_filled_iff] at hread
  exact absurd (hread _ List.mem_cons_self) (by decide)

end Table

end GuardCost
