/-
GuardCost/Proofs/TableColumns.lean

The lines of a table.  Every line is a sequence of boxes between bars

    | box 0 | box 1 | … | box n |

and a line is told by its boxes (`bars`): after the boxes before it, a bar stands
at the sum of their lengths (`getElem?_bars`), and behind it the next box
(`box_of_bars`).  The boxes of the headings, of the rule and of a row come from
three different loops, but the box of a column has the width of the column and
two in each of them (`length_headingBox`, `length_ruleBox`, `length_rowBox`), so
the bars of all lines stand below one another.

The width of a column is that of its widest text (`getElem?_widths`), and the
table is laid out if none is too wide to be padded (`layOut?_eq_none_iff`).
-/
import GuardCost.Report.Table
import Mathlib

namespace GuardCost

/-! ### Lines of a text -/

namespace Text

theorem splitFeeds_append {line : List Char} (h : '\n' ∉ line) (rest : List Char) :
    splitFeeds (line ++ '\n' :: rest) = (line ++ ['\n']) :: splitFeeds rest := by
  induction line with
  | nil => rfl
  | cons c cs ih =>
    have hc : c ≠ '\n' := fun hc => h (hc ▸ List.mem_cons_self)
    rw [List.cons_append, splitFeeds, ih fun hcs => h (List.mem_cons_of_mem _ hcs)]
    · rfl
    · exact hc

theorem dropBreak_append {line : List Char} (h : line.getLast? ≠ some '\r') :
    dropBreak (line ++ ['\n']) = line := by
  rw [← List.head?_reverse] at h
  rw [dropBreak, List.reverse_append, List.reverse_singleton, List.singleton_append]
  split
  · next heq =>
    rw [(List.cons.inj heq).2] at h
    exact absurd rfl h
  · next heq =>
    rw [← (List.cons.inj heq).2, List.reverse_reverse]
  · next hne => exact absurd rfl (hne _)

/-- Lines that are written one after the other are read again. -/
theorem lines_join {ls : List String}
    (h : ∀ l ∈ ls, '\n' ∉ l.toList ∧ l.toList.getLast? ≠ some '\r') :
    lines (String.join (ls.map (· ++ "\n"))) = ls := by
  have hsplit : splitFeeds (String.join (ls.map (· ++ "\n"))).toList =
      ls.map fun l => l.toList ++ ['\n'] := by
    induction ls with
    | nil => rfl
    | cons l rest ih =>
      have htext : (l ++ "\n").toList = l.toList ++ ['\n'] := String.toList_append
      rw [List.map_cons, String.join_cons, String.toList_append, htext, List.append_assoc,
        List.singleton_append, splitFeeds_append (h l List.mem_cons_self).1,
        ih fun l hl => h l (List.mem_cons_of_mem _ hl), List.map_cons]
  rw [lines, hsplit, List.map_map]
  refine (List.map_congr_left fun l hl => ?_).trans (List.map_id ls)
  rw [Function.comp_apply, dropBreak_append (h l hl).2, String.ofList_toList, id]

end Text

namespace Table

/-! ### Boxes between bars -/

/-- Boxes between bars. -/
def bars (boxes : List String) : List Char := boxes.flatMap (fun box => '|' :: box.toList) ++ ['|']

/-- Where the bar behind the first `k` boxes stands. -/
def barAfter (boxes : List String) (k : Nat) : Nat :=
  ((boxes.take k).map fun box => box.length + 1).sum

theorem bars_cons (box : String) (rest : List String) :
    bars (box :: rest) = '|' :: (box.toList ++ bars rest) := by
  rw [bars, bars, List.flatMap_cons, List.append_assoc, List.cons_append]

theorem line_eq (boxes : List String) : line boxes = String.ofList (bars boxes) ++ "\n" := by
  have hshift : '|' :: boxes.flatMap (fun box => box.toList ++ ['|']) = bars boxes := by
    induction boxes with
    | nil => rfl
    | cons box rest ih =>
      rw [bars_cons, ← ih, List.flatMap_cons, List.append_assoc, List.singleton_append]
  have hbars : "|" ++ String.join (boxes.map fun box => box ++ "|") = String.ofList (bars boxes) := by
    rw [← String.toList_inj, String.toList_ofList, ← hshift, String.toList_append,
      String.toList_join, List.flatMap_map]
    simp only [String.toList_append]
    rfl
  rw [line, hbars]

/-- A line is cut at any of its bars. -/
theorem bars_eq_append (boxes : List String) (k : Nat) :
    bars boxes = (boxes.take k).flatMap (fun box => '|' :: box.toList) ++ bars (boxes.drop k) := by
  rw [bars, bars, ← List.append_assoc, ← List.flatMap_append, List.take_append_drop]

theorem length_front (boxes : List String) (k : Nat) :
    ((boxes.take k).flatMap fun box => '|' :: box.toList).length = barAfter boxes k := by
  rw [List.length_flatMap, barAfter]
  rfl

theorem length_bars (boxes : List String) :
    (bars boxes).length = 1 + barAfter boxes boxes.length := by
  rw [bars_eq_append boxes boxes.length, List.length_append, length_front, List.drop_length,
    Nat.add_comm]
  rfl

theorem getElem?_bars (boxes : List String) (k : Nat) :
    (bars boxes)[barAfter boxes k]? = some '|' := by
  rw [bars_eq_append boxes k, ← length_front, List.getElem?_append_right (Nat.le_refl _),
    Nat.sub_self]
  cases boxes.drop k <;> rfl

/-- What stands behind a bar is the next box. -/
theorem box_of_bars {boxes : List String} {k : Nat} {box : String} (h : boxes[k]? = some box) :
    ((bars boxes).drop (barAfter boxes k + 1)).take box.length = box.toList := by
  obtain ⟨hk, rfl⟩ := List.getElem?_eq_some_iff.1 h
  rw [bars_eq_append boxes k, ← length_front, List.drop_append, List.drop_of_length_le (by omega),
    List.nil_append, Nat.add_sub_cancel_left, List.drop_eq_getElem_cons hk, bars_cons,
    List.drop_succ_cons, List.drop_zero, ← String.length_toList, List.take_left]

/-! ### Widths of columns -/

/-- The greatest width of some texts. -/
def widest (texts : List String) : Nat := (texts.map width).foldr max 0

theorem widest_append (texts texts' : List String) :
    widest (texts ++ texts') = max (widest texts) (widest texts') := by
  induction texts with
  | nil => exact (Nat.zero_max _).symm
  | cons s rest ih =>
    show max (width s) (widest (rest ++ texts')) = max (max (width s) (widest rest)) _
    rw [ih, Nat.max_assoc]

theorem width_le_widest {s : String} {texts : List String} (h : s ∈ texts) :
    width s ≤ widest texts := by
  obtain ⟨before, after, rfl⟩ := List.append_of_mem h
  rw [widest_append]
  exact (Nat.le_max_left _ (widest after)).trans (Nat.le_max_right _ _)

theorem widest_le {texts : List String} {w : Nat} (h : ∀ s ∈ texts, width s ≤ w) :
    widest texts ≤ w := by
  induction texts with
  | nil => exact Nat.zero_le w
  | cons s rest ih =>
    exact Nat.max_le.2 ⟨h s List.mem_cons_self, ih fun s hs => h s (List.mem_cons_of_mem _ hs)⟩

variable (t : Table)

/-- What stands in a column: the heading, and the cells of the rows that reach it. -/
def column (i : Nat) : List String := t.headers[i]?.toList ++ t.rows.filterMap (·[i]?)

/-- The width of a column. -/
def columnWidth (i : Nat) : Nat := widest (t.column i)

theorem getElem?_widen (ws : List Nat) (row : List String) (i : Nat) :
    (widen ws row)[i]? = ws[i]?.map fun w => max w (widest row[i]?.toList) := by
  induction ws generalizing row i with
  | nil => rfl
  | cons w ws ih =>
    cases row with
    | nil => simp [widen, widest]
    | cons cell cells =>
      cases i with
      | zero => simp [widen, widest]
      | succ i => simpa [widen] using ih cells i

theorem getElem?_foldl_widen (rows : List (List String)) (ws : List Nat) (i : Nat) :
    (rows.foldl widen ws)[i]? = ws[i]?.map fun w => max w (widest (rows.filterMap (·[i]?))) := by
  induction rows generalizing ws with
  | nil => simp [widest]
  | cons row rest ih =>
    have hcolumn : (row :: rest).filterMap (·[i]?) = row[i]?.toList ++ rest.filterMap (·[i]?) := by
      cases hcell : row[i]? <;> simp [hcell]
    rw [List.foldl_cons, ih, getElem?_widen, Option.map_map, hcolumn, widest_append]
    refine congrArg (Option.map · _) (funext fun w => ?_)
    exact Nat.max_assoc ..

/-- The width of a column is that of its widest text. -/
theorem getElem?_widths (i : Nat) : t.widths[i]? = t.headers[i]?.map fun _ => t.columnWidth i := by
  rw [widths, getElem?_foldl_widen, List.getElem?_map, columnWidth, column, widest_append]
  cases t.headers[i]? with
  | none => rfl
  | some s => simp [widest]

theorem widths_eq : t.widths = (List.range t.headers.length).map t.columnWidth := by
  refine List.ext_getElem? fun i => ?_
  rw [getElem?_widths, List.getElem?_map]
  by_cases hi : i < t.headers.length
  · rw [List.getElem?_range hi, List.getElem?_eq_getElem hi]
    rfl
  · rw [List.getElem?_eq_none (by simpa using hi), List.getElem?_eq_none (by simpa using hi)]
    rfl

/-- A table cannot be laid out just if one of its columns is too wide. -/
theorem layOut?_eq_none_iff :
    t.layOut? = none ↔ ∃ i < t.headers.length, widthLimit < t.columnWidth i := by
  rw [layOut?, ite_eq_right_iff, widths_eq]
  simp

theorem layOut?_eq_some {text : String} (h : t.layOut? = some text) : text = t.render := by
  rw [layOut?] at h
  split at h
  · exact (Option.some.inj h).symm
  · cases h

/-- No cell of a row is wider than its column. -/
theorem width_cell_le {row : List String} (hrow : row ∈ t.rows) (i : Nat) :
    width (row[i]?.getD "") ≤ t.columnWidth i := by
  cases hcell : row[i]? with
  | none => exact Nat.zero_le _
  | some cell =>
    refine width_le_widest (List.mem_append_right _ ?_)
    exact List.mem_filterMap.2 ⟨row, hrow, hcell⟩

theorem width_header_le (i : Nat) : width (t.headers[i]?.getD "") ≤ t.columnWidth i := by
  cases hheader : t.headers[i]? with
  | none => exact Nat.zero_le _
  | some s =>
    refine width_le_widest (List.mem_append_left _ ?_)
    rw [hheader]
    exact List.mem_singleton_self s

/-! ### Boxes of columns -/

/-- The boxes of a line, one for each column. -/
def boxes (box : Nat → String) : List String := (List.range t.headers.length).map box

/-- The first column is flush left, the others are flush right. -/
def flush (i : Nat) : Nat → String → String := if i = 0 then left else right

/-- The box of a heading. -/
def headingBox (i : Nat) : String := spaced (centre (t.columnWidth i) (t.headers[i]?.getD ""))

/-- The box below a heading. -/
def ruleBox (i : Nat) : String :=
  if i = 0 then ":" ++ dashes (t.columnWidth i) else dashes (t.columnWidth i) ++ ":"

/-- The box of a cell, blank if the row has none there. -/
def rowBox (row : List String) (i : Nat) : String :=
  spaced (flush i (t.columnWidth i) (row[i]?.getD ""))

theorem getElem?_layCells (align : Nat → String → String) (ws : List Nat) (cells : List String)
    (i : Nat) :
    (layCells align ws cells)[i]? = ws[i]?.map fun w => spaced (align w (cells[i]?.getD "")) := by
  induction ws generalizing cells i with
  | nil => rfl
  | cons w ws ih =>
    cases cells with
    | nil =>
      cases i with
      | zero => rfl
      | succ i => exact ih [] i
    | cons cell cells =>
      cases i with
      | zero => rfl
      | succ i => exact ih cells i

theorem getElem?_layRow (ws : List Nat) (cells : List String) (i : Nat) :
    (layRow ws cells)[i]? = ws[i]?.map fun w => spaced (flush i w (cells[i]?.getD "")) := by
  cases ws with
  | nil => rfl
  | cons w ws =>
    cases i with
    | zero => cases cells <;> rfl
    | succ i =>
      cases cells with
      | nil => exact getElem?_layCells right ws [] i
      | cons cell cells => exact getElem?_layCells right ws cells i

theorem getElem?_ruleCells (ws : List Nat) (i : Nat) : (ruleCells ws)[i]? =
    ws[i]?.map fun w => if i = 0 then ":" ++ dashes w else dashes w ++ ":" := by
  cases ws with
  | nil => rfl
  | cons w ws =>
    cases i with
    | zero => rfl
    | succ i => exact List.getElem?_map

/-- Boxes that are laid out along the widths are those of the columns. -/
theorem eq_boxes {laid : List String} {box : Nat → Nat → String}
    (h : ∀ i, laid[i]? = t.widths[i]?.map (box i)) :
    laid = t.boxes fun i => box i (t.columnWidth i) := by
  refine List.ext_getElem? fun i => ?_
  rw [h, widths_eq, boxes, List.getElem?_map, List.getElem?_map, Option.map_map]
  by_cases hi : i < t.headers.length
  · rw [List.getElem?_range hi]
    rfl
  · rw [List.getElem?_eq_none (by simpa using hi)]
    rfl

/-- The boxes of a table, line by line. -/
def grid : List (List String) :=
  t.boxes t.headingBox :: t.boxes t.ruleBox :: t.rows.map fun row => t.boxes (t.rowBox row)

/-- The lines of a table, without their line breaks. -/
def gridLines : List String := t.grid.map fun boxes => String.ofList (bars boxes)

theorem render_eq : t.render = String.join (t.gridLines.map (· ++ "\n")) := by
  have hheading : layCells centre t.widths t.headers = t.boxes t.headingBox :=
    t.eq_boxes fun i => getElem?_layCells centre t.widths t.headers i
  have hrule : ruleCells t.widths = t.boxes t.ruleBox :=
    t.eq_boxes fun i => getElem?_ruleCells t.widths i
  have hrow : ∀ row, layRow t.widths row = t.boxes (t.rowBox row) := fun row =>
    t.eq_boxes fun i => getElem?_layRow t.widths row i
  rw [render, hheading, hrule, gridLines, List.map_map, grid, List.map_cons, List.map_cons,
    String.join_cons, String.join_cons, List.map_map, String.append_assoc]
  simp only [hrow, line_eq, Function.comp_def]

/-! ### Widths of boxes -/

theorem length_spaces (n : Nat) : (Text.spaces n).length = n := by
  rw [Text.spaces, String.length_ofList, List.length_replicate]

theorem length_spaced (s : String) : (spaced s).length = s.length + 2 := by
  rw [spaced, String.length_append, String.length_append, Nat.add_comm " ".length, Nat.add_assoc]
  rfl

theorem length_flush {w : Nat} {s : String} (i : Nat) (h : width s ≤ w) :
    (flush i w s).length = w := by
  have hs : s.length ≤ w := h
  unfold flush
  split
  · rw [left, String.length_append, length_spaces, width]
    omega
  · rw [right, String.length_append, length_spaces, width]
    omega

theorem length_centre {w : Nat} {s : String} (h : width s ≤ w) : (centre w s).length = w := by
  have hs : s.length ≤ w := h
  rw [centre, String.length_append, String.length_append, length_spaces, length_spaces, width]
  omega

theorem length_headingBox (i : Nat) : (t.headingBox i).length = t.columnWidth i + 2 := by
  rw [headingBox, length_spaced, length_centre (t.width_header_le i)]

theorem length_ruleBox (i : Nat) : (t.ruleBox i).length = t.columnWidth i + 2 := by
  have hdashes : ∀ w, (dashes w).length = w + 1 := fun w => by
    rw [dashes, String.length_ofList, List.length_replicate]
  have hcolon : ":".length = 1 := rfl
  unfold ruleBox
  split
  · rw [String.length_append, hdashes, hcolon]
    omega
  · rw [String.length_append, hdashes, hcolon]

theorem length_rowBox {row : List String} (hrow : row ∈ t.rows) (i : Nat) :
    (t.rowBox row i).length = t.columnWidth i + 2 := by
  rw [rowBox, length_spaced, length_flush i (t.width_cell_le hrow i)]

/-- Each line of a table has boxes of the widths of the columns. -/
theorem exists_box_of_mem_grid {line : List String} (h : line ∈ t.grid) :
    ∃ box, line = t.boxes box ∧ ∀ i, (box i).length = t.columnWidth i + 2 := by
  rcases List.mem_cons.1 h with rfl | h
  · exact ⟨_, rfl, t.length_headingBox⟩
  · rcases List.mem_cons.1 h with rfl | h
    · exact ⟨_, rfl, t.length_ruleBox⟩
    · obtain ⟨row, hrow, rfl⟩ := List.mem_map.1 h
      exact ⟨_, rfl, t.length_rowBox hrow⟩

/-- Where the bar behind the first `k` columns stands. -/
def barAt (k : Nat) : Nat := ∑ i ∈ Finset.range k, (t.columnWidth i + 3)

theorem barAfter_boxes {box : Nat → String} (hbox : ∀ i, (box i).length = t.columnWidth i + 2)
    {k : Nat} (hk : k ≤ t.headers.length) : barAfter (t.boxes box) k = t.barAt k := by
  rw [barAfter, boxes, ← List.map_take, List.take_range, Nat.min_eq_left hk, List.map_map, barAt]
  clear hk
  induction k with
  | zero => rfl
  | succ k ih =>
    rw [List.range_succ, List.map_append, List.sum_append, ih, Finset.sum_range_succ]
    simp [hbox]

theorem length_boxes (box : Nat → String) : (t.boxes box).length = t.headers.length := by
  rw [boxes, List.length_map, List.length_range]

/-! ### Characters of boxes -/

section
variable {c : Char}

theorem count_spaces (hc : c ≠ ' ') (n : Nat) : (Text.spaces n).toList.count c = 0 := by
  rw [Text.spaces, String.toList_ofList, List.count_eq_zero]
  exact fun h => hc (List.eq_of_mem_replicate h)

theorem count_spaced (hc : c ≠ ' ') (s : String) : (spaced s).toList.count c = s.toList.count c := by
  have hblank : " ".toList.count c = 0 := count_spaces hc 1
  rw [spaced, String.toList_append, String.toList_append, List.count_append, List.count_append,
    hblank, Nat.zero_add, Nat.add_zero]

theorem count_flush (hc : c ≠ ' ') (i w : Nat) (s : String) :
    (flush i w s).toList.count c = s.toList.count c := by
  unfold flush
  split
  · rw [left, String.toList_append, List.count_append, count_spaces hc, Nat.add_zero]
  · rw [right, String.toList_append, List.count_append, count_spaces hc, Nat.zero_add]

theorem count_centre (hc : c ≠ ' ') (w : Nat) (s : String) :
    (centre w s).toList.count c = s.toList.count c := by
  rw [centre, String.toList_append, String.toList_append, List.count_append, List.count_append,
    count_spaces hc, count_spaces hc, Nat.zero_add, Nat.add_zero]

theorem count_headingBox (hc : c ≠ ' ') (i : Nat) :
    (t.headingBox i).toList.count c = (t.headers[i]?.getD "").toList.count c := by
  rw [headingBox, count_spaced hc, count_centre hc]

theorem count_ruleBox (hdash : c ≠ '-') (hcolon : c ≠ ':') (i : Nat) :
    (t.ruleBox i).toList.count c = 0 := by
  have hdashes : ∀ w, (dashes w).toList.count c = 0 := by
    intro w
    rw [dashes, String.toList_ofList, List.count_eq_zero]
    exact fun h => hdash (List.eq_of_mem_replicate h)
  have hone : ":".toList.count c = 0 := by
    rw [List.count_eq_zero]
    exact fun h => hcolon (List.mem_singleton.1 h)
  unfold ruleBox
  split <;> rw [String.toList_append, List.count_append, hdashes, hone]

theorem count_rowBox (hc : c ≠ ' ') (row : List String) (i : Nat) :
    (t.rowBox row i).toList.count c = (row[i]?.getD "").toList.count c := by
  rw [rowBox, count_spaced hc, count_flush hc]

/-- In a line there are the characters of its boxes, and one bar more than boxes. -/
theorem count_bars (boxes : List String) (c : Char) : (bars boxes).count c =
    (if c = '|' then boxes.length + 1 else 0) + (boxes.map (·.toList.count c)).sum := by
  induction boxes with
  | nil =>
    by_cases hc : c = '|'
    · rw [hc]
      rfl
    · rw [if_neg hc]
      exact List.count_eq_zero.2 fun h => hc (List.mem_singleton.1 h)
  | cons box rest ih =>
    rw [bars_cons, List.count_cons, List.count_append, ih, List.map_cons, List.sum_cons,
      List.length_cons]
    by_cases hc : c = '|'
    · rw [if_pos hc, if_pos hc, hc]
      simp only [beq_self_eq_true, if_true]
      omega
    · rw [if_neg hc, if_neg hc, if_neg (by simpa using Ne.symm hc)]
      omega

end

/-- The texts of a table. -/
def texts : List String := t.headers ++ t.rows.flatten

theorem notMem_getD {c : Char} {row : List String} (h : ∀ s ∈ row, c ∉ s.toList) (i : Nat) :
    c ∉ (row[i]?.getD "").toList := by
  cases hcell : row[i]? with
  | none => exact List.not_mem_nil
  | some s => exact h s (List.mem_of_getElem? hcell)

theorem count_boxes {box : Nat → String} {c : Char} (h : ∀ i, (box i).toList.count c = 0) :
    ((t.boxes box).map (·.toList.count c)).sum = 0 := by
  rw [boxes, List.map_map]
  refine List.sum_eq_zero fun n hn => ?_
  obtain ⟨i, -, rfl⟩ := List.mem_map.1 hn
  exact h i

variable {t}

theorem mem_texts_of_mem_column {i : Nat} {s : String} (h : s ∈ t.column i) : s ∈ t.texts := by
  rcases List.mem_append.1 h with hheader | hcell
  · exact List.mem_append_left _ (List.mem_of_getElem? (Option.mem_toList.1 hheader))
  · obtain ⟨row, hrow, hs⟩ := List.mem_filterMap.1 hcell
    exact List.mem_append_right _ (List.mem_flatten.2 ⟨row, hrow, List.mem_of_getElem? hs⟩)

/-- A table of texts without line breaks has the lines of its grid. -/
theorem lines_render (hfeeds : ∀ s ∈ t.texts, '\n' ∉ s.toList) :
    Text.lines t.render = t.gridLines := by
  have hbox : ∀ boxes ∈ t.grid, (boxes.map (·.toList.count '\n')).sum = 0 := by
    intro boxes hboxes
    rcases List.mem_cons.1 hboxes with rfl | hboxes
    · refine t.count_boxes fun i => ?_
      rw [count_headingBox _ (by decide), List.count_eq_zero]
      exact notMem_getD (fun s hs => hfeeds s (List.mem_append_left _ hs)) i
    · rcases List.mem_cons.1 hboxes with rfl | hboxes
      · exact t.count_boxes fun i => count_ruleBox _ (by decide) (by decide) i
      · obtain ⟨row, hrow, rfl⟩ := List.mem_map.1 hboxes
        refine t.count_boxes fun i => ?_
        rw [count_rowBox _ (by decide), List.count_eq_zero]
        refine notMem_getD (fun s hs => hfeeds s (List.mem_append_right _ ?_)) i
        exact List.mem_flatten.2 ⟨row, hrow, hs⟩
  rw [render_eq]
  refine Text.lines_join fun l hl => ?_
  obtain ⟨boxes, hboxes, rfl⟩ := List.mem_map.1 hl
  rw [String.toList_ofList]
  constructor
  · rw [← List.count_eq_zero, count_bars, hbox boxes hboxes]
    rfl
  · rw [bars, List.getLast?_concat]
    decide

/-- The box of a line in a column. -/
def slot (t : Table) (i : Nat) (l : String) : String :=
  String.ofList ((l.toList.drop (t.barAt i + 1)).take (t.columnWidth i + 2))

theorem slot_bars {box : Nat → String} (hbox : ∀ i, (box i).length = t.columnWidth i + 2) {i : Nat}
    (hi : i < t.headers.length) : t.slot i (String.ofList (bars (t.boxes box))) = box i := by
  have hget : (t.boxes box)[i]? = some (box i) := by
    rw [boxes, List.getElem?_map, List.getElem?_range hi]
    rfl
  rw [slot, String.toList_ofList, ← t.barAfter_boxes hbox hi.le, ← hbox i, box_of_bars hget,
    String.ofList_toList]

theorem spaced_spaces (w : Nat) : spaced (Text.spaces w) = Text.spaces (w + 2) := by
  rw [← String.toList_inj, spaced, String.toList_append, String.toList_append]
  simp only [Text.spaces, String.toList_ofList]
  rw [List.replicate_succ', List.replicate_succ]
  rfl

/-- A cell that a row does not have is blank. -/
theorem rowBox_missing {row : List String} {i : Nat} (h : row.length ≤ i) :
    t.rowBox row i = Text.spaces (t.columnWidth i + 2) := by
  have hspaces : ∀ w, flush i w "" = Text.spaces w := by
    intro w
    unfold flush
    split
    · exact String.empty_append
    · exact String.append_empty
  rw [rowBox, List.getElem?_eq_none h, Option.getD_none, hspaces, spaced_spaces]

/-- A table without the cells beyond its last column. -/
def cropped (t : Table) : Table := { t with rows := t.rows.map (·.take t.headers.length) }

/-- Cells beyond the last column are dropped. -/
theorem layOut?_cropped (t : Table) : t.cropped.layOut? = t.layOut? := by
  have htake : ∀ {i : Nat}, i < t.headers.length → ∀ row : List String,
      (row.take t.headers.length)[i]? = row[i]? := fun hi row => List.getElem?_take_of_lt hi
  have hwidth : ∀ i < t.headers.length, t.cropped.columnWidth i = t.columnWidth i := by
    intro i hi
    rw [columnWidth, columnWidth, column, column, cropped, List.filterMap_map]
    simp only [Function.comp_def, htake hi]
  have hwidths : t.cropped.widths = t.widths := by
    rw [widths_eq, widths_eq]
    exact List.map_congr_left fun i hi => hwidth i (List.mem_range.1 hi)
  have hboxes : ∀ {box box' : Nat → String}, (∀ i < t.headers.length, box i = box' i) →
      t.cropped.boxes box = t.boxes box' := fun h =>
    List.map_congr_left fun i hi => h i (List.mem_range.1 hi)
  have hgrid : t.cropped.grid = t.grid := by
    have hrows : t.cropped.rows = t.rows.map (·.take t.headers.length) := rfl
    rw [grid, grid, hrows, List.map_map]
    congr 1
    · refine hboxes fun i hi => ?_
      rw [headingBox, headingBox, hwidth i hi]
      rfl
    · congr 1
      · refine hboxes fun i hi => ?_
        rw [ruleBox, ruleBox, hwidth i hi]
      · refine List.map_congr_left fun row _ => hboxes fun i hi => ?_
        rw [rowBox, rowBox, hwidth i hi, htake hi]
  rw [layOut?, layOut?, hwidths, render_eq, render_eq, gridLines, gridLines, hgrid]

/-- A text in the columns of a table: a line for the headings, one for the rule
and one for each row, all with bars at the same places and the boxes of their
columns between them. -/
structure InColumns (t : Table) (text : String) : Prop where
  /-- The text consists of its lines, each with a line feed. -/
  join_lines : text = String.join ((Text.lines text).map (· ++ "\n"))
  length_lines : (Text.lines text).length = t.rows.length + 2
  length : ∀ l ∈ Text.lines text,
    l.length = 1 + ∑ i ∈ Finset.range t.headers.length, (t.columnWidth i + 3)
  /-- The bar at the start, and the one behind each column. -/
  bar : ∀ l ∈ Text.lines text, ∀ k ≤ t.headers.length, l.toList[t.barAt k]? = some '|'
  heading : ∀ i < t.headers.length, (Text.lines text)[0]?.map (t.slot i) = some (t.headingBox i)
  rule : ∀ i < t.headers.length, (Text.lines text)[1]?.map (t.slot i) = some (t.ruleBox i)
  cell : ∀ i < t.headers.length, ∀ j row, t.rows[j]? = some row →
    (Text.lines text)[j + 2]?.map (t.slot i) = some (t.rowBox row i)
  /-- The box of a missing cell is blank. -/
  blank : ∀ i < t.headers.length, ∀ j row, t.rows[j]? = some row → row.length ≤ i →
    (Text.lines text)[j + 2]?.map (t.slot i) = some (Text.spaces (t.columnWidth i + 2))

theorem inColumns_render (hfeeds : ∀ s ∈ t.texts, '\n' ∉ s.toList) : t.InColumns t.render := by
  have hlines : Text.lines t.render = t.gridLines := lines_render hfeeds
  have hline : ∀ l ∈ t.gridLines, ∃ box, l = String.ofList (bars (t.boxes box)) ∧
      ∀ i, (box i).length = t.columnWidth i + 2 := by
    intro l hl
    obtain ⟨boxes, hboxes, rfl⟩ := List.mem_map.1 hl
    obtain ⟨box, rfl, hbox⟩ := t.exists_box_of_mem_grid hboxes
    exact ⟨box, rfl, hbox⟩
  have hcell : ∀ i < t.headers.length, ∀ j row, t.rows[j]? = some row →
      t.gridLines[j + 2]?.map (t.slot i) = some (t.rowBox row i) := by
    intro i hi j row hrow
    have hget : t.gridLines[j + 2]? = some (String.ofList (bars (t.boxes (t.rowBox row)))) := by
      rw [gridLines, grid, List.map_cons, List.map_cons, List.getElem?_cons_succ,
        List.getElem?_cons_succ, List.getElem?_map, List.getElem?_map, hrow]
      rfl
    rw [hget, Option.map_some, slot_bars (t.length_rowBox (List.mem_of_getElem? hrow)) hi]
  constructor <;> rw [hlines]
  · exact t.render_eq
  · rw [gridLines, grid, List.length_map, List.length_cons, List.length_cons, List.length_map]
  · intro l hl
    obtain ⟨box, rfl, hbox⟩ := hline l hl
    rw [String.length_ofList, length_bars, length_boxes, t.barAfter_boxes hbox le_rfl, barAt]
  · intro l hl k hk
    obtain ⟨box, rfl, hbox⟩ := hline l hl
    rw [String.toList_ofList, ← t.barAfter_boxes hbox hk]
    exact getElem?_bars _ k
  · exact fun i hi => congrArg some (slot_bars t.length_headingBox hi)
  · exact fun i hi => congrArg some (slot_bars t.length_ruleBox hi)
  · exact hcell
  · exact fun i hi j row hrow hmissing =>
      (hcell i hi j row hrow).trans (congrArg some (rowBox_missing hmissing))

/-- **A table is laid out in columns, unless one is too wide.**  Take any table
whose texts have no line breaks; its rows may be shorter or longer than the
headings.  It cannot be laid out just if the widest text of some column is wider
than a text can be padded to.  Otherwise it is laid out in the columns of its
headings: in lines of the same length, with bars at the same places, as many as
there are rows and two more.  Missing cells are blank, and cells beyond the
headings make no difference. -/
theorem laid_out_in_columns (t : Table) (hfeeds : ∀ s ∈ t.texts, '\n' ∉ s.toList) :
    (t.layOut? = none ↔ ∃ i < t.headers.length, widthLimit < t.columnWidth i) ∧
      (∀ text, t.layOut? = some text → t.InColumns text) ∧ t.cropped.layOut? = t.layOut? := by
  refine ⟨t.layOut?_eq_none_iff, fun text htext => ?_, t.layOut?_cropped⟩
  rw [t.layOut?_eq_some htext]
  exact inColumns_render hfeeds

/-- A row that is too short and one that is too long, with a bar in a cell. -/
def ragged : Table := ⟨["Program", "é"], [["a|b", "1.0", "x"], ["long_name"]]⟩

/-- The columns of a table with rows of other lengths than the headings. -/
theorem ragged_laid_out :
    (∀ s ∈ ragged.texts, '\n' ∉ s.toList) ∧
      (ragged.layOut? = none ↔ ∃ i < 2, widthLimit < ragged.columnWidth i) ∧
      ragged.InColumns ("|  Program  |  é  |\n" ++ "|:----------|----:|\n" ++
        "| a|b       | 1.0 |\n" ++ "| long_name |     |\n") ∧
      ragged.cropped.layOut? = ragged.layOut? := by
  have hfeeds : ∀ s ∈ ragged.texts, '\n' ∉ s.toList := by decide
  obtain ⟨hnone, hsome, hcropped⟩ := laid_out_in_columns ragged hfeeds
  exact ⟨hfeeds, hnone, hsome _ (by decide), hcropped⟩

end Table

end GuardCost
