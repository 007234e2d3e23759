/-
GuardCost/Proofs/SummaryReading.lean

The summary of a recorder, read again.  A summary has a section for each kind that
something was recorded of, with a line for each of its entries:

    ## Metrics Summary

    ### Counters
      key: value
      …

    ### Gauges
    …

This holds for any keys (`summary_eq`).  The reader takes a heading for a section and
the lines set in below it for its entries, and it parts such a line at its last colon:
there is none in a value.  So it finds the entries of every kind again
(`readSummary_summaryText`), unless a key has a line feed, which is written as it is
and makes two lines of one.
-/
import GuardCost.Proofs.CsvReading
import GuardCost.Proofs.Recordings
import GuardCost.Proofs.TableColumns

namespace GuardCost.Metrics

/-! ### The lines of a summary -/

/-- The kinds in the order of their sections. -/
def Kind.all : List Kind := [.counter, .gauge, .histogram]

/-- The title of the section of a kind. -/
def Kind.title : Kind → String
  | counter => "Counters"
  | gauge => "Gauges"
  | histogram => "Histograms"

/-- The value of an entry as it is shown. -/
def Entry.shown : Entry → String
  | counter n => toString n.toNat
  | gauge x => Decimal.fixed 6 x
  | histogram xs =>
    "count=" ++ toString xs.length
      ++ ", min=" ++ Decimal.fixed 6 (xs.foldl Binary64.lesser Binary64.infinity)
      ++ ", max=" ++ Decimal.fixed 6 (xs.foldl Binary64.greater (-Binary64.infinity))
      ++ ", avg=" ++ Decimal.fixed 6 (Binary64.mean xs)

/-- The line of an entry. -/
def rowLine (row : String × Entry) : String := "  " ++ row.1 ++ ": " ++ row.2.shown

/-- The lines of the section of a kind; without entries there is none. -/
def sectionLines (kind : Kind) (rows : List (String × Entry)) : List String :=
  if rows.isEmpty then [] else ("### " ++ kind.title) :: rows.map rowLine ++ [""]

/-- A summary in which some entries are listed in the section of each kind. -/
def summaryText (listed : Kind → List (String × Entry)) : String :=
  if Kind.all.all fun kind => (listed kind).isEmpty then "No metrics collected.\n"
  else
    String.join (("" :: "## Metrics Summary" :: "" ::
      Kind.all.flatMap fun kind => sectionLines kind (listed kind)).map (· ++ "\n"))

namespace Store

theorem section_eq {α : Type} (kind : Kind) {value : α → String} {f : α → Entry}
    (hvalue : ∀ x, value x = (f x).shown) (table : List (String × α)) :
    section_ kind.title value table =
      String.join ((sectionLines kind (table.map fun (key, x) => (key, f x))).map (· ++ "\n")) := by
  unfold section_ sectionLines
  rw [List.isEmpty_map]
  split
  · rfl
  · simp [rowLine, hvalue, Function.comp_def, String.append_assoc]

/-- **A summary lists the entries of the store.** -/
theorem summary_eq (s : Store) : s.summary = summaryText s.listed := by
  have hempty : (Kind.all.all fun kind => (s.listed kind).isEmpty) =
      (s.counters.isEmpty && s.gauges.isEmpty && s.histograms.isEmpty) := by
    simp [Kind.all, listed, List.isEmpty_map, Bool.and_assoc]
  unfold summary summaryText
  rw [hempty]
  split
  · rfl
  · have hcounters : section_ "Counters" (fun n : UInt64 => toString n.toNat) s.counters =
        String.join ((sectionLines .counter (s.listed .counter)).map (· ++ "\n")) :=
      section_eq .counter (f := .counter) (fun n => by rw [Entry.shown]) s.counters
    have hgauges : section_ "Gauges" amount s.gauges =
        String.join ((sectionLines .gauge (s.listed .gauge)).map (· ++ "\n")) :=
      section_eq .gauge (f := .gauge) (fun x => by rw [amount, Entry.shown]) s.gauges
    have hhistograms : section_ "Histograms" histogramText s.histograms =
        String.join ((sectionLines .histogram (s.listed .histogram)).map (· ++ "\n")) :=
      section_eq .histogram (f := .histogram)
        (fun xs => by simp only [histogramText, amount, Entry.shown]) s.histograms
    have hfront : ∀ sections, "\n## Metrics Summary\n\n" ++ sections =
        "\n" ++ ("## Metrics Summary\n" ++ ("\n" ++ sections)) := by
      intro sections
      rw [← String.append_assoc, ← String.append_assoc]
      rfl
    rw [hcounters, hgauges, hhistograms]
    simp [Kind.all, String.append_assoc, hfront]

end Store

/-! ### Reading a line -/

/-- The title of a heading. -/
def title? (line : String) : Option String :=
  if "### ".toList.isPrefixOf line.toList then some (String.ofList (line.toList.drop 4)) else none

/-- Whether a line is set in. -/
def isSetIn (line : String) : Bool := "  ".toList.isPrefixOf line.toList

/-- The key and the value on a line, which its last colon parts. -/
def readRow (line : String) : String × String :=
  let back := (line.toList.drop 2).reverse
  (String.ofList (back.dropWhile (· ≠ ':')).tail.reverse,
    String.ofList (back.takeWhile (· ≠ ':')).reverse.tail)

/-- The sections of some lines: the title of each heading, and what is read of the
lines that are set in below it. -/
def sectionsOf : List String → List (String × List (String × String))
  | [] => []
  | line :: rest =>
    match title? line with
    | some title => (title, (rest.takeWhile isSetIn).map readRow) :: sectionsOf rest
    | none => sectionsOf rest

/-- The sections of a summary. -/
def readSummary (text : String) : List (String × List (String × String)) :=
  sectionsOf (Text.lines text)

/-- A text without colons and line breaks, as values are. -/
def IsValue (s : String) : Prop := ':' ∉ s.toList ∧ '\n' ∉ s.toList ∧ '\r' ∉ s.toList

instance (s : String) : Decidable (IsValue s) := inferInstanceAs (Decidable (_ ∧ _))

theorem IsValue.append {s t : String} (hs : IsValue s) (ht : IsValue t) : IsValue (s ++ t) := by
  simp only [IsValue, String.toList_append, List.mem_append, not_or] at hs ht ⊢
  exact ⟨⟨hs.1, ht.1⟩, ⟨hs.2.1, ht.2.1⟩, hs.2.2, ht.2.2⟩

theorem IsValue.of_marked {s : String} (hs : Decimal.Marked s) : IsValue s := by
  have hmark : ∀ c ∈ s.toList, Decimal.isMark c = true := List.all_eq_true.1 hs
  exact ⟨fun h => absurd (hmark _ h) (by decide), fun h => absurd (hmark _ h) (by decide),
    fun h => absurd (hmark _ h) (by decide)⟩

theorem Entry.isValue_shown (entry : Entry) : IsValue entry.shown := by
  have hnumber : ∀ n : Nat, IsValue (toString n) := fun n => .of_marked (Decimal.marked_digits n)
  have hfixed : ∀ x, IsValue (Decimal.fixed 6 x) := fun x => .of_marked (Decimal.marked_fixed 6 x)
  have hcount : IsValue "count=" := by decide
  have hmin : IsValue ", min=" := by decide
  have hmax : IsValue ", max=" := by decide
  have havg : IsValue ", avg=" := by decide
  cases entry with
  | counter n => exact hnumber _
  | gauge x => exact hfixed x
  | histogram xs =>
    exact (((((((hcount.append (hnumber _)).append hmin).append (hfixed _)).append hmax).append
      (hfixed _)).append havg).append (hfixed _))

theorem toList_rowLine (row : String × Entry) : (rowLine row).toList =
    ' ' :: ' ' :: (row.1.toList ++ ':' :: ' ' :: row.2.shown.toList) := by
  simp [rowLine]

/-- A line is parted where the value begins, whatever is in the key. -/
theorem readRow_rowLine (row : String × Entry) : readRow (rowLine row) = (row.1, row.2.shown) := by
  have hvalue : ∀ c ∈ (' ' :: row.2.shown.toList).reverse, decide (c ≠ ':') = true := by
    intro c hc
    rcases List.mem_cons.1 (List.mem_reverse.1 hc) with rfl | hc
    · decide
    · exact decide_eq_true fun h => row.2.isValue_shown.1 (h ▸ hc)
  have hback : ((rowLine row).toList.drop 2).reverse =
      (' ' :: row.2.shown.toList).reverse ++ ':' :: row.1.toList.reverse := by
    simp [toList_rowLine]
  -- from the back, the value comes first, and no colon is in it
  unfold readRow
  dsimp only
  rw [hback, List.dropWhile_append_of_pos hvalue, List.takeWhile_append_of_pos hvalue]
  simp

theorem isSetIn_rowLine (row : String × Entry) : isSetIn (rowLine row) = true := by
  simp [isSetIn, toList_rowLine]

theorem title?_rowLine (row : String × Entry) : title? (rowLine row) = none := by
  simp [title?, toList_rowLine]

theorem title?_heading (kind : Kind) : title? ("### " ++ kind.title) = some kind.title := by
  cases kind <;> decide

/-! ### Reading sections -/

/-- Lines of entries are passed over unless there is a heading above them. -/
theorem sectionsOf_rows (rows : List (String × Entry)) (rest : List String) :
    sectionsOf (rows.map rowLine ++ rest) = sectionsOf rest := by
  induction rows with
  | nil => rfl
  | cons row rows ih =>
    rw [List.map_cons, List.cons_append, sectionsOf, title?_rowLine]
    exact ih

/-- A section is read in front of all that comes after it. -/
theorem sectionsOf_sectionLines (kind : Kind) (rows : List (String × Entry))
    (rest : List String) : sectionsOf (sectionLines kind rows ++ rest) =
      (if rows.isEmpty then [] else [(kind.title, rows.map fun row => (row.1, row.2.shown))]) ++
        sectionsOf rest := by
  unfold sectionLines
  split
  · rfl
  · have hbelow : (rows.map rowLine ++ "" :: rest).takeWhile isSetIn = rows.map rowLine := by
      have hrows : ∀ line ∈ rows.map rowLine, isSetIn line = true := by
        intro line hline
        obtain ⟨row, -, rfl⟩ := List.mem_map.1 hline
        exact isSetIn_rowLine row
      rw [List.takeWhile_append_of_pos hrows, List.takeWhile_cons_of_neg (by decide),
        List.append_nil]
    have hread : (rows.map rowLine).map readRow = rows.map fun row => (row.1, row.2.shown) := by
      rw [List.map_map]
      exact List.map_congr_left fun row _ => readRow_rowLine row
    rw [List.append_assoc, List.cons_append, sectionsOf, title?_heading, List.singleton_append]
    dsimp only
    rw [hbelow, hread, sectionsOf_rows]
    rfl

theorem sectionsOf_flatMap (listed : Kind → List (String × Entry)) (kinds : List Kind) :
    sectionsOf (kinds.flatMap fun kind => sectionLines kind (listed kind)) =
      (kinds.filter fun kind => !(listed kind).isEmpty).map fun kind =>
        (kind.title, (listed kind).map fun row => (row.1, row.2.shown)) := by
  induction kinds with
  | nil => rfl
  | cons kind kinds ih =>
    rw [List.flatMap_cons, sectionsOf_sectionLines, ih, List.filter_cons]
    cases (listed kind).isEmpty <;> rfl

/-- The lines of a section have no line breaks in them, if the keys have no line feeds. -/
theorem unbroken_of_mem_sectionLines {kind : Kind} {rows : List (String × Entry)}
    (hkeys : ∀ row ∈ rows, '\n' ∉ row.1.toList) {line : String}
    (hline : line ∈ sectionLines kind rows) :
    '\n' ∉ line.toList ∧ line.toList.getLast? ≠ some '\r' := by
  unfold sectionLines at hline
  split at hline
  · cases hline
  · simp only [List.mem_cons, List.mem_append, List.mem_map, List.not_mem_nil, or_false] at hline
    rcases hline with (rfl | ⟨row, hrow, rfl⟩) | rfl
    · cases kind <;> decide
    · obtain ⟨-, hfeed, hreturn⟩ := row.2.isValue_shown
      have hlast : (rowLine row).toList.getLast? = (' ' :: row.2.shown.toList).getLast? := by
        have hsplit : (rowLine row).toList =
            (' ' :: ' ' :: (row.1.toList ++ [':'])) ++ ' ' :: row.2.shown.toList := by
          simp [toList_rowLine]
        rw [hsplit, List.getLast?_append_of_ne_nil _ (List.cons_ne_nil _ _)]
      constructor
      · simp [toList_rowLine, hkeys row hrow, hfeed]
      · rw [hlast]
        intro hend
        rcases List.mem_cons.1 (List.mem_of_getLast? hend) with h | h
        · cases h
        · exact hreturn h
    · decide

/-- **The sections of a summary are read back**, if no key has a line feed: one for
each kind that has entries, and its entries in their order. -/
theorem readSummary_summaryText {listed : Kind → List (String × Entry)}
    (hkeys : ∀ kind, ∀ row ∈ listed kind, '\n' ∉ row.1.toList) :
    readSummary (summaryText listed) =
      (Kind.all.filter fun kind => !(listed kind).isEmpty).map fun kind =>
        (kind.title, (listed kind).map fun row => (row.1, row.2.shown)) := by
  unfold readSummary summaryText
  split
  · next hempty =>
    have hnone : (Kind.all.filter fun kind => !(listed kind).isEmpty) = [] := by
      simpa [List.filter_eq_nil_iff] using hempty
    rw [hnone]
    rfl
  · have hlines : ∀ line ∈ "" :: "## Metrics Summary" :: "" ::
        Kind.all.flatMap fun kind => sectionLines kind (listed kind),
          '\n' ∉ line.toList ∧ line.toList.getLast? ≠ some '\r' := by
      intro line hline
      simp only [List.mem_cons, List.mem_flatMap] at hline
      rcases hline with rfl | rfl | rfl | ⟨kind, -, hline⟩
      · decide
      · decide
      · decide
      · exact unbroken_of_mem_sectionLines (hkeys kind) hline
    rw [Text.lines_join hlines, ← sectionsOf_flatMap]
    rfl

example : readSummary "\n## Metrics Summary\n\n### Counters\n  a: b: 3\n\n" =
    [("Counters", [("a: b", "3")])] := by
  decide

/-! ### Recorders -/

/-- **A recorder holds what the events at each kind and key come to.**  Let
operations happen on a recorder that was just installed.  Any operations with
the same events at each kind and key leave the same readings and the same
summary, in whatever order the entries are met.  One more operation changes no
entry but its own.  A counter reads as its last absolute value and the
increments since, as long as these fit.  The summary lists each kind and key with
an event exactly once, on a line in the section of the kind, in ascending order of
the bytes, and has no section without entries; if no key has a line feed, this is
what is read in it. -/
theorem recorder_holds_events (ops : List Operation) :
    ∃ s, (Recorder.install none).2.recordAll ops = some s ∧
      (∀ (ops' : List Operation) (s' t t' : Store),
        (∀ kind key, eventsAt kind key ops' = eventsAt kind key ops) →
        (Recorder.install none).2.recordAll ops' = some s' →
        t.SameEntries s → t'.SameEntries s' →
          (∀ key, t'.counter? key = t.counter? key) ∧ (∀ key, t'.gauge? key = t.gauge? key) ∧
            t'.sorted.summary = t.sorted.summary) ∧
      (∀ (op : Operation) kind key, (kind, key) ≠ (op.2.kind, op.1.text) →
        (s.record op.1.text op.2).held? kind key = s.held? kind key) ∧
      (∀ key, eventsAt .counter key ops ≠ [] → ∃ base later n,
        CountsFrom base later (eventsAt .counter key ops) ∧ s.counter? key = some n ∧
          (base.toNat + (later.map UInt64.toNat).sum < 2 ^ 64 →
            n.toNat = base.toNat + (later.map UInt64.toNat).sum)) ∧
      ∃ listed : Kind → List (String × Entry),
        (∀ kind, (listed kind).Pairwise fun a b => Bytes.ofString a.1 < Bytes.ofString b.1) ∧
        (∀ kind key, (∃ entry, (key, entry) ∈ listed kind) ↔ eventsAt kind key ops ≠ []) ∧
        (∀ kind key entry, (key, entry) ∈ listed kind → s.held? kind key = some entry) ∧
        ∀ t : Store, t.SameEntries s → t.sorted.summary = summaryText listed ∧
          ((∀ op ∈ ops, '\n' ∉ op.1.text.toList) → readSummary t.sorted.summary =
            (Kind.all.filter fun kind => !(listed kind).isEmpty).map fun kind =>
              (kind.title, (listed kind).map fun row => (row.1, row.2.shown))) := by
  let s := Store.empty.recordAll ops
  have hrun : ∀ ops, (Recorder.install none).2.recordAll ops = some (Store.empty.recordAll ops) :=
    Recorder.recordAll_some .empty
  have hordered : s.Ordered := Store.ordered_empty.recordAll ops
  have hlisted : ∀ kind key, (∃ entry, (key, entry) ∈ s.listed kind) ↔
      eventsAt kind key ops ≠ [] := by
    intro kind key
    simp only [hordered.mem_listed_iff]
    exact Store.exists_held?_iff
  refine ⟨s, hrun ops, ?_, fun op kind key h => Store.held?_record_ne _ h,
    fun key => Store.exists_counts, s.listed, hordered.listed_ascending, hlisted,
    fun kind key entry => (hordered.mem_listed_iff kind key entry).1, fun t ht => ?_⟩
  · intro ops' s' t t' hsame hrun' ht ht'
    obtain rfl : s' = s := by
      rw [hrun, Store.recordAll_congr hsame] at hrun'
      exact (Option.some.inj hrun').symm
    refine ⟨fun key => ?_, fun key => ?_, ?_⟩
    · rw [Store.counter?_of_sameEntries hordered ht, Store.counter?_of_sameEntries hordered ht']
    · rw [Store.gauge?_of_sameEntries hordered ht, Store.gauge?_of_sameEntries hordered ht']
    · rw [Store.sorted_of_sameEntries hordered ht, Store.sorted_of_sameEntries hordered ht']
  · have hsummary : t.sorted.summary = summaryText s.listed := by
      rw [Store.sorted_of_sameEntries hordered ht, Store.summary_eq]
    refine ⟨hsummary, fun hfeeds => ?_⟩
    rw [hsummary]
    refine readSummary_summaryText fun kind row hrow => ?_
    -- a key that is listed is the key of an operation
    obtain ⟨e, he⟩ := List.exists_mem_of_ne_nil _ ((hlisted kind row.1).1 ⟨row.2, hrow⟩)
    obtain ⟨op, hop, -⟩ := List.mem_map.1 he
    obtain ⟨hmem, hat⟩ := List.mem_filter.1 hop
    have hkey : op.1.text = row.1 := (of_decide_eq_true hat).2
    exact hkey ▸ hfeeds op hmem

end GuardCost.Metrics
