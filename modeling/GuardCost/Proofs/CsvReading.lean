/-
GuardCost/Proofs/CsvReading.lean

A report in CSV can be read again.  The reader is that of RFC 4180, with records
that end at line feeds: it goes through a text character by character
(`Reader.step`), and refuses what the grammar has no place for.  What is written
for a field takes the reader from the start of a field to a place where the
field may end (`Writes`):

    field s    writes s                  between quotes if it has to be
    cell x     writes the text of x      which never needs quotes

From there a comma ends the field and a line feed the record.  That a ratio
needs no quotes is shown digit by digit, along the layouts of decimal text
(`Decimal.Marked`).
-/
import GuardCost.Proofs.RatioCells
import Mathlib.Data.List.Forall2
import Mathlib.Data.Nat.Digits.Defs

namespace GuardCost

/-! ### Decimal text -/

namespace Decimal

/-- The characters of the text of a double. -/
def isMark (c : Char) : Bool := c.isDigit || ['.', '-', 'e', 'N', 'a', 'i', 'n', 'f'].contains c

/-- A text that consists of such characters. -/
def Marked (s : String) : Prop := s.toList.all isMark = true

theorem Marked.append {s t : String} (hs : Marked s) (ht : Marked t) : Marked (s ++ t) := by
  rw [Marked, String.toList_append, List.all_append, hs, ht]
  rfl

/-- A part of a marked text is marked. -/
theorem Marked.of_sublist {s : String} (hs : Marked s) {cs : List Char}
    (h : cs.Sublist s.toList) : Marked (String.ofList cs) := by
  rw [Marked, String.toList_ofList, List.all_eq_true]
  exact fun c hc => List.all_eq_true.1 hs c (h.subset hc)

theorem marked_digits (n : Nat) : Marked (digits n) := by
  rw [Marked, digits, String.toList_ofList, List.all_eq_true]
  intro c hc
  have hdigit : c.isDigit = true := Nat.isDigit_of_mem_toDigits (by decide) (by decide) hc
  rw [isMark, hdigit]
  rfl

theorem digits_ne_empty (n : Nat) : digits n ≠ "" := by
  intro h
  have hempty : (digits n).toList = [] := by rw [h]; rfl
  rw [digits, String.toList_ofList] at hempty
  exact Nat.toDigits_ne_nil hempty

theorem marked_zeros (n : Nat) : Marked (zeros n) := by
  rw [Marked, zeros, String.toList_ofList, List.all_eq_true]
  intro c hc
  rw [List.eq_of_mem_replicate hc]
  rfl

theorem Marked.padRight {s : String} (hs : Marked s) (n : Nat) : Marked (padRight n s) :=
  hs.append (marked_zeros _)

theorem Marked.withPlaces {whole places : String} (hw : Marked whole) (hp : Marked places) :
    Marked (withPlaces whole places) := by
  have hpoint : Marked "." := rfl
  unfold Decimal.withPlaces
  split
  · exact hw
  · exact (hw.append hpoint).append hp

/-- Two texts in a row are empty only if the first is. -/
theorem append_ne_empty {s : String} (hs : s ≠ "") (t : String) : s ++ t ≠ "" :=
  fun h => hs (String.append_eq_empty_iff.1 h).1

theorem withPlaces_ne_empty {whole : String} (hw : whole ≠ "") (places : String) :
    withPlaces whole places ≠ "" := by
  unfold withPlaces
  split
  · exact hw
  · exact append_ne_empty (append_ne_empty hw _) _

theorem marked_integer (n : Int) : Marked (integer n) := by
  have hminus : Marked "-" := rfl
  unfold integer
  split
  · exact hminus.append (marked_digits _)
  · exact marked_digits _

theorem Marked.positional {ds : String} (hds : Marked ds) (least : Nat) (point : Int) :
    Marked (positional least ds point) := by
  have hzero : Marked "0" := rfl
  unfold Decimal.positional
  dsimp only
  split
  · exact hzero.withPlaces (((marked_zeros _).append hds).padRight _)
  · split
    · exact (hds.append (marked_zeros _)).withPlaces (marked_zeros _)
    · exact (hds.of_sublist (List.take_sublist ..)).withPlaces
        ((hds.of_sublist (List.drop_sublist ..)).padRight _)

theorem positional_ne_empty {ds : String} (hds : ds ≠ "") (least : Nat) (point : Int) :
    positional least ds point ≠ "" := by
  unfold positional
  dsimp only
  split
  · exact withPlaces_ne_empty (by decide) _
  · next hpoint =>
    split
    · exact withPlaces_ne_empty (append_ne_empty hds _) _
    · -- the point stands after the first digit at least
      refine withPlaces_ne_empty (fun h => ?_) _
      have htake : ds.toList.take point.toNat = [] := by
        rw [← String.toList_ofList (l := ds.toList.take point.toNat), h]
        rfl
      rcases List.take_eq_nil_iff.1 htake with hzero | hnil
      · omega
      · exact hds (String.toList_inj.1 hnil)

theorem Marked.scientific {ds : String} (hds : Marked ds) (point : Int) :
    Marked (scientific ds point) := by
  have hsign : Marked "e" := rfl
  exact (((hds.of_sublist (List.take_sublist ..)).withPlaces
    (hds.of_sublist (List.drop_sublist ..))).append hsign).append (marked_integer _)

theorem scientific_ne_empty (ds : String) (point : Int) : scientific ds point ≠ "" := by
  intro h
  have he := (String.append_eq_empty_iff.1 (String.append_eq_empty_iff.1 h).1).2
  exact absurd he (by decide)

theorem Layout.marked_write (l : Layout) (d : Nat) (k : Int) : Marked (l.write d k) := by
  have hzero : Marked "0" := rfl
  unfold write
  dsimp only
  split
  · exact hzero.positional _ _
  · split
    · exact (marked_digits d).scientific _
    · exact (marked_digits d).positional _ _

theorem Layout.write_ne_empty (l : Layout) (d : Nat) (k : Int) : l.write d k ≠ "" := by
  unfold write
  dsimp only
  split
  · exact positional_ne_empty (by decide) _ _
  · split
    · exact scientific_ne_empty _ _
    · exact positional_ne_empty (digits_ne_empty d) _ _

theorem Marked.signed {s : String} (hs : Marked s) (negative : Bool) :
    Marked (signed negative s) := by
  have hminus : Marked "-" := rfl
  cases negative with
  | false => exact hs
  | true => exact hminus.append hs

theorem signed_ne_empty {s : String} (hs : s ≠ "") (negative : Bool) : signed negative s ≠ "" := by
  cases negative with
  | false => exact hs
  | true => exact append_ne_empty (by decide) s

/-- The text of a double consists of digits and a few marks, in any layout. -/
theorem marked_text (l : Layout) (x : Float) : Marked (text l x) := by
  have hnan : Marked "NaN" := rfl
  have hinf : Marked "inf" := rfl
  unfold text
  split
  · exact hnan
  · exact hinf.signed _
  · exact (l.marked_write 0 0).signed _
  · exact (l.marked_write _ _).signed _

theorem marked_fixed (places : Nat) (x : Float) : Marked (fixed places x) := by
  have hnan : Marked "NaN" := rfl
  have hinf : Marked "inf" := rfl
  unfold fixed
  split
  · exact hnan
  · exact hinf.signed _
  · exact (((marked_zeros _).append (marked_digits _)).positional _ _).signed _

theorem text_ne_empty (l : Layout) (x : Float) : text l x ≠ "" := by
  unfold text
  split
  · decide
  · exact signed_ne_empty (by decide) _
  · exact signed_ne_empty (l.write_ne_empty 0 0) _
  · exact signed_ne_empty (l.write_ne_empty _ _) _

end Decimal

/-! ### Reading -/

namespace Csv

/-- Where in a field a reader stands. -/
inductive Place where
  /-- At its start. -/
  | start
  /-- In a field without quotes. -/
  | bare
  /-- Between quotes. -/
  | quoted
  /-- After a quote that ends the field, unless it is doubled. -/
  | closing
  deriving DecidableEq, Repr

/-- What a reader has read. -/
structure Reader where
  /-- The records that have ended. -/
  records : List (List String) := []
  /-- The fields of the current record that have ended. -/
  fields : List String := []
  /-- The current field so far. -/
  text : List Char := []
  place : Place := .start
  deriving DecidableEq, Repr

namespace Reader

/-- The current field ends. -/
def endField (r : Reader) : Reader where
  records := r.records
  fields := r.fields ++ [String.ofList r.text]

/-- The current field and the current record end. -/
def endRecord (r : Reader) : Reader where
  records := r.records ++ [r.endField.fields]

/-- Read one character.  A quote has no place in a field that does not begin
with one, nothing but the end has a place after the quote that ends a field, and
a carriage return has to stand between quotes. -/
def step (r : Reader) (c : Char) : Option Reader :=
  match r.place, c with
  | .quoted, '"' => some { r with place := .closing }
  | .quoted, c => some { r with text := r.text ++ [c] }
  | .closing, '"' => some { r with text := r.text ++ ['"'], place := .quoted }
  | .start, '"' => some { r with place := .quoted }
  | _, ',' => some r.endField
  | _, '\n' => some r.endRecord
  | .closing, _ => none
  | _, '"' => none
  | _, '\r' => none
  | _, c => some { r with text := r.text ++ [c], place := .bare }

/-- The text ends, after a line feed or in a last record without one. -/
def finish (r : Reader) : Option (List (List String)) :=
  if r.place = .start ∧ r.fields = [] then some r.records
  else if r.place = .quoted then none
  else some r.endRecord.records

end Reader

/-- The records of a text, if it is well-formed. -/
def read (s : String) : Option (List (List String)) :=
  (s.toList.foldlM Reader.step {}).bind Reader.finish

/-! ### One field -/

namespace Reader

variable {r : Reader}

theorem step_quoted (h : r.place = .quoted) {c : Char} (hc : c ≠ '"') :
    r.step c = some { r with text := r.text ++ [c] } := by
  simp [step, h]

theorem step_comma (h : r.place ≠ .quoted) : r.step ',' = some r.endField := by
  obtain ⟨records, fields, text, place⟩ := r
  cases place <;> simp_all [step]

theorem step_newline (h : r.place ≠ .quoted) : r.step '\n' = some r.endRecord := by
  obtain ⟨records, fields, text, place⟩ := r
  cases place <;> simp_all [step]

/-- A character that needs no quotes is taken as it is. -/
theorem step_plain (h : r.place = .start ∨ r.place = .bare) {c : Char}
    (hc : needsQuotes [c] = false) :
    r.step c = some { r with text := r.text ++ [c], place := .bare } := by
  simp only [needsQuotes, List.any_cons, List.any_nil, Bool.or_false, Bool.or_eq_false_iff,
    beq_eq_false_iff_ne] at hc
  rcases h with h | h <;> simp [step, h, hc]

end Reader

/-- What is written takes a reader from the start of a field to where the field
may end, with a text read. -/
def Writes (written s : String) : Prop :=
  ∀ records fields, ∃ place ≠ Place.quoted,
    written.toList.foldlM Reader.step ⟨records, fields, [], .start⟩ =
      some ⟨records, fields, s.toList, place⟩

theorem foldlM_plain {cs : List Char} (hcs : needsQuotes cs = false) (records : List (List String))
    (fields : List String) (text : List Char) {place : Place}
    (h : place = .start ∨ place = .bare) :
    ∃ place' ≠ Place.quoted, cs.foldlM Reader.step ⟨records, fields, text, place⟩ =
      some ⟨records, fields, text ++ cs, place'⟩ := by
  induction cs generalizing text place with
  | nil =>
    refine ⟨place, by rcases h with rfl | rfl <;> decide, ?_⟩
    rw [List.append_nil]
    rfl
  | cons c rest ih =>
    obtain ⟨hc, hrest⟩ : needsQuotes [c] = false ∧ needsQuotes rest = false := by
      simpa [needsQuotes] using hcs
    obtain ⟨place', hplace', hread⟩ := ih hrest (text ++ [c]) (.inr rfl)
    refine ⟨place', hplace', ?_⟩
    rw [List.foldlM_cons, Reader.step_plain h hc, List.append_cons text c rest]
    exact hread

/-- A text that needs no quotes is written as it is. -/
theorem writes_plain {s : String} (hs : needsQuotes s.toList = false) : Writes s s :=
  fun records fields => foldlM_plain hs records fields [] (.inl rfl)

/-- Between quotes, the doubled quotes of a text become single again. -/
theorem foldlM_doubleQuotes (cs : List Char) (records : List (List String)) (fields : List String)
    (text : List Char) :
    (doubleQuotes cs).foldlM Reader.step ⟨records, fields, text, .quoted⟩ =
      some ⟨records, fields, text ++ cs, .quoted⟩ := by
  induction cs generalizing text with
  | nil =>
    rw [List.append_nil]
    rfl
  | cons c rest ih =>
    by_cases hc : c = '"'
    · subst hc
      have hdouble : doubleQuotes ('"' :: rest) = '"' :: '"' :: doubleQuotes rest := rfl
      rw [hdouble, List.append_cons text '"' rest, ← ih (text ++ ['"'])]
      rfl
    · have hsingle : doubleQuotes (c :: rest) = c :: doubleQuotes rest := by
        rw [doubleQuotes]
        exact hc
      rw [hsingle, List.foldlM_cons, Reader.step_quoted rfl hc, List.append_cons text c rest,
        ← ih (text ++ [c])]
      rfl

theorem writes_field (s : String) : Writes (field s) s := by
  unfold field
  cases hs : needsQuotes s.toList with
  | false =>
    rw [if_neg (by decide)]
    exact writes_plain hs
  | true =>
    -- the quote in front opens the field, and the one behind may close it
    intro records fields
    refine ⟨.closing, by decide, ?_⟩
    rw [if_pos rfl, String.toList_ofList, List.cons_append, List.foldlM_cons]
    show (doubleQuotes s.toList ++ ['"']).foldlM Reader.step ⟨records, fields, [], .quoted⟩ = _
    rw [List.foldlM_append, foldlM_doubleQuotes]
    rfl

/-- A ratio needs no quotes. -/
theorem needsQuotes_ratio (x : Float) : needsQuotes (ratio x).toList = false := by
  rw [needsQuotes, List.any_eq_false]
  intro c hc hquotes
  have hmark : Decimal.isMark c = true :=
    List.all_eq_true.1 (Decimal.marked_text Decimal.precise x) c hc
  simp only [Bool.or_eq_true, beq_iff_eq] at hquotes
  -- none of the four is a digit or a mark
  rcases hquotes with ((rfl | rfl) | rfl) | rfl <;> exact absurd hmark (by decide)

theorem writes_cell (x? : Option Float) : Writes (cell x?) (x?.elim "" ratio) := by
  cases x? with
  | none => exact writes_plain rfl
  | some x => exact writes_plain (needsQuotes_ratio x)

/-! ### Records -/

/-- The fields that are written in a record are read from it. -/
theorem foldlM_record {written : List String} {fields : List String} (hne : written ≠ [])
    (h : List.Forall₂ Writes written fields) (records : List (List String)) :
    (record written).toList.foldlM Reader.step ⟨records, [], [], .start⟩ =
      some ⟨records ++ [fields], [], [], .start⟩ := by
  have hgen : ∀ (before : List String),
      (record written).toList.foldlM Reader.step ⟨records, before, [], .start⟩ =
        some ⟨records ++ [before ++ fields], [], [], .start⟩ := by
    induction h with
    | nil => exact absurd rfl hne
    | @cons w s ws ss hw hrest ih =>
      intro before
      obtain ⟨place, hplace, hread⟩ := hw records before
      cases hrest with
      | nil =>
        -- the last field, which a line feed ends together with the record
        have hlast : (record [w]).toList = w.toList ++ ['\n'] := String.toList_append
        rw [hlast, List.foldlM_append, hread]
        show Reader.step ⟨records, before, s.toList, place⟩ '\n' >>= pure = _
        rw [Reader.step_newline hplace]
        show some (Reader.endRecord _) = _
        simp [Reader.endRecord, Reader.endField]
      | @cons w' s' ws ss hw' hrest =>
        -- the fields after the comma are read with this one before them
        have hmore : (record (w :: w' :: ws)).toList =
            w.toList ++ ',' :: (record (w' :: ws)).toList := by
          simp [record, Text.join]
        rw [hmore, List.foldlM_append, hread]
        show (Reader.step ⟨records, before, s.toList, place⟩ ',' >>= fun r =>
          (record (w' :: ws)).toList.foldlM Reader.step r) = _
        rw [Reader.step_comma hplace]
        show (record (w' :: ws)).toList.foldlM Reader.step
          ⟨records, before ++ [String.ofList s.toList], [], .start⟩ = _
        rw [ih (by simp), String.ofList_toList, List.append_assoc]
        rfl
  exact hgen []

/-- The records of a text are read one after the other. -/
theorem read_records {written : List (List String)} {records : List (List String)}
    (hne : ∀ ws ∈ written, ws ≠ []) (h : List.Forall₂ (List.Forall₂ Writes) written records) :
    read (String.join (written.map record)) = some records := by
  have hgen : ∀ before : List (List String),
      (String.join (written.map record)).toList.foldlM Reader.step ⟨before, [], [], .start⟩ =
        some ⟨before ++ records, [], [], .start⟩ := by
    induction h with
    | nil =>
      intro before
      rw [List.append_nil]
      rfl
    | @cons ws fields rest rests hws hrest ih =>
      intro before
      rw [List.map_cons, String.join_cons, String.toList_append, List.foldlM_append,
        foldlM_record (hne ws List.mem_cons_self) hws]
      show (String.join (rest.map record)).toList.foldlM Reader.step
        ⟨before ++ [fields], [], [], .start⟩ = _
      rw [ih fun ws hws => hne ws (List.mem_cons_of_mem _ hws), List.append_assoc]
      rfl
  rw [read, hgen []]
  rfl

end Csv

/-! ### Reports -/

namespace Report

/-- The records of a report: the headings, and for each row the program and its
cells, of which an absent one is empty. -/
def records (r : Report) : List (List String) :=
  r.headers :: r.rows.map fun row => row.program :: row.cells.map fun x? => x?.elim "" Csv.ratio

/-- A report in CSV is read as its records. -/
theorem read_csv (r : Report) : Csv.read r.csv = some r.records := by
  have hcsv : r.csv = String.join ((r.headers.map Csv.field ::
      r.rows.map fun row => Csv.field row.program :: row.cells.map Csv.cell).map Csv.record) := by
    rw [csv, List.map_cons, List.map_map]
    rfl
  have hcells : ∀ cells : List (Option Float), List.Forall₂ Csv.Writes (cells.map Csv.cell)
      (cells.map fun x? => x?.elim "" Csv.ratio) := by
    intro cells
    rw [List.forall₂_map_left_iff, List.forall₂_map_right_iff]
    exact List.forall₂_same.2 fun x? _ => Csv.writes_cell x?
  rw [hcsv]
  refine Csv.read_records ?_ (.cons ?_ ?_)
  · intro ws hws
    rcases List.mem_cons.1 hws with rfl | hws
    · simp [headers]
    · obtain ⟨row, -, rfl⟩ := List.mem_map.1 hws
      simp
  · rw [List.forall₂_map_left_iff]
    exact List.forall₂_same.2 fun s _ => Csv.writes_field s
  · rw [List.forall₂_map_left_iff, List.forall₂_map_right_iff]
    exact List.forall₂_same.2 fun row _ => .cons (Csv.writes_field row.program) (hcells row.cells)

/-- A name with a quote and a line break in it, next to an absent cell. -/
example : Csv.read "Program,native\n\"a,\"\"b\"\"\nc\",\n" =
    some [["Program", "native"], ["a,\"b\"\nc", ""]] := by
  decide

/-- An absent cell is told from a present one by its text. -/
theorem isSome_of_text (x? : Option Float) : (x?.elim "" Csv.ratio != "") = x?.isSome := by
  cases x? with
  | none => rfl
  | some x => exact bne_iff_ne.2 (Decimal.text_ne_empty Decimal.precise x)

/-- The records of a report tell its headings, its programs and which of its
cells are present. -/
theorem eq_of_records {r r' : Report} (h : r.records = r'.records) :
    r.columns.map (·.label) = r'.columns.map (·.label) ∧
      r.rows.map (·.program) = r'.rows.map (·.program) ∧
      r.rows.map (fun row => row.cells.map (·.isSome)) =
        r'.rows.map fun row => row.cells.map (·.isSome) := by
  obtain ⟨hheaders, hrows⟩ := List.cons.inj h
  have hfirst := congrArg (List.map fun record : List String => record.head?) hrows
  have hrest := congrArg (List.map fun record : List String => record.tail.map (· != "")) hrows
  simp only [List.map_map, Function.comp_def, List.head?_cons, List.tail_cons, isSome_of_text]
    at hfirst hrest
  refine ⟨(List.cons.inj hheaders).2, ?_, hrest⟩
  have hsome : Function.Injective (List.map (some : String → Option String)) :=
    List.map_injective_iff.2 (Option.some_injective _)
  refine hsome ?_
  rw [List.map_map, List.map_map]
  exact hfirst

end Report

/-! ### Reports that are filled -/

theorem Row.program_ofSamples (program : String) (columns : List Column) (samples : List Sample) :
    (Row.ofSamples program columns samples).program = program := by
  unfold ofSamples
  split <;> rfl

/-- A row has a cell for each column, whatever was measured. -/
theorem Row.length_ofSamples (program : String) (columns : List Column) (samples : List Sample) :
    (Row.ofSamples program columns samples).cells.length = columns.length := by
  unfold ofSamples
  split
  · exact List.length_replicate
  · exact List.length_map _

namespace Report

theorem foldl_add (r : Report) (ts : List Timings) : ts.foldl add r =
    { r with rows := r.rows ++ ts.map fun t => Row.ofSamples t.program r.columns t.samples } := by
  induction ts generalizing r with
  | nil => simp
  | cons t rest ih =>
    rw [List.foldl_cons, ih]
    simp [add]

/-- Recording ratios does not change what is reported. -/
theorem result_foldlM_addTimings (r : Report) (ts : List Timings) (s : Session) :
    ((ts.foldlM addTimings r).run s).1 = ts.foldl add r := by
  induction ts generalizing r s with
  | nil => rfl
  | cons t rest ih =>
    rw [List.foldlM_cons, Action.run_bind]
    exact ih _ _

/-- **A report in CSV can be read again.**  Take a report over the columns of any
plan to which any timings were added.  A reader that follows RFC 4180 finds one
record for the headings and one for each row, each with one field more than
there are columns: the headings first, and then for each row the very name of
the program and the text of each cell, which is empty if and only if the cell is
absent.  So reports with the same CSV have the same headings, the same programs
and the same cells present. -/
theorem csv_round_trip (plan : Plan) (ts : List Timings) (s : Session) :
    let report := fun (plan : Plan) (ts : List Timings) (s : Session) =>
      ((ts.foldlM addTimings { columns := plan.columns }).run s).1
    let r := report plan ts s
    (∃ records, Csv.read r.csv = some records ∧ records.length = 1 + r.rows.length ∧
      (∀ record ∈ records, record.length = plan.columns.length + 1) ∧
      records = ("Program" :: plan.columns.map (·.label)) ::
        r.rows.map fun row => row.program :: row.cells.map fun x? => x?.elim "" Csv.ratio) ∧
      r.rows.map (·.program) = ts.map (·.program) ∧ (∀ x, Csv.ratio x ≠ "") ∧
      ∀ plan' ts' s', let r' := report plan' ts' s'
        r'.csv = r.csv →
          plan'.columns.map (·.label) = plan.columns.map (·.label) ∧
            ts'.map (·.program) = ts.map (·.program) ∧
            r'.rows.map (fun row => row.cells.map (·.isSome)) =
              r.rows.map fun row => row.cells.map (·.isSome) := by
  intro report r
  have hreport : ∀ plan ts s, report plan ts s = ⟨plan.columns,
      ts.map fun t => Row.ofSamples t.program plan.columns t.samples⟩ := by
    intro plan ts s
    exact (result_foldlM_addTimings _ ts s).trans (foldl_add _ ts)
  have hprograms : ∀ plan ts s,
      (report plan ts s).rows.map (·.program) = ts.map (·.program) := by
    intro plan ts s
    rw [hreport, List.map_map]
    exact List.map_congr_left fun t _ => Row.program_ofSamples ..
  have hcolumns : ∀ plan ts s, (report plan ts s).columns = plan.columns := by
    intro plan ts s
    rw [hreport]
  have hrecords : r.records = ("Program" :: plan.columns.map (·.label)) ::
      r.rows.map fun row => row.program :: row.cells.map fun x? => x?.elim "" Csv.ratio := by
    rw [records, headers, hcolumns]
  refine ⟨⟨r.records, read_csv r, ?_, ?_, hrecords⟩, hprograms plan ts s,
    Decimal.text_ne_empty Decimal.precise, ?_⟩
  · rw [hrecords, List.length_cons, List.length_map, Nat.add_comm]
  · intro record hrecord
    rw [hrecords] at hrecord
    rcases List.mem_cons.1 hrecord with rfl | hrecord
    · rw [List.length_cons, List.length_map]
    · obtain ⟨row, hrow, rfl⟩ := List.mem_map.1 hrecord
      rw [show r = _ from hreport plan ts s] at hrow
      obtain ⟨t, -, rfl⟩ := List.mem_map.1 hrow
      rw [List.length_cons, List.length_map, Row.length_ofSamples]
  · intro plan' ts' s' r' hcsv
    have hsame : r'.records = r.records := by
      have hread : some r'.records = some r.records := by
        rw [← read_csv r', ← read_csv r, hcsv]
      exact Option.some.inj hread
    obtain ⟨hlabels, hnames, hcells⟩ := eq_of_records hsame
    rw [hcolumns, show r.columns = _ from hcolumns plan ts s] at hlabels
    rw [hprograms, show r.rows.map (·.program) = _ from hprograms plan ts s] at hnames
    exact ⟨hlabels, hnames, hcells⟩

end Report

end GuardCost
