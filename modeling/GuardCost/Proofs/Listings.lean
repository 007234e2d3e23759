/-
GuardCost/Proofs/Listings.lean

The tables of a listing.  The one of the variants has the same few texts on every
machine (`mem_variantTexts`) and can always be laid out.  The one of the programs
holds what the suite gives, of any length, so a listing is broken off on a suite
that is accepted

    some column of the programs is too wide  <->  exit code 101, nothing printed

before anything is printed (`listSuite_broken_off`).  One long argument is enough
(`wide_listing_not_laid_out`).
-/
import GuardCost.Proofs.Deeds
import GuardCost.Proofs.TableColumns
import GuardCost.Cli.Run

namespace GuardCost

namespace Cli

open Table

/-- The texts that can stand in the table of variants, on any machine. -/
def variantTexts : List String :=
  ["Variant", "Label", "Runtime", "Built", "yes", "no"] ++
    Variant.all.flatMap fun v => [v.id, v.label, v.runtimeSource]

theorem mem_variantTexts {plan : Plan} {s : String} (h : s ∈ (variantTable plan).texts) :
    s ∈ variantTexts := by
  rcases List.mem_append.1 h with hheader | hcell
  · have hheaders : ["Variant", "Label", "Runtime", "Built"] ⊆ variantTexts := by decide
    exact hheaders hheader
  · obtain ⟨row, hrow, hs⟩ := List.mem_flatten.1 hcell
    obtain ⟨v, hv, rfl⟩ := List.mem_map.1 hrow
    rw [List.mem_cons, List.mem_cons, List.mem_cons, List.mem_singleton] at hs
    have hinfo : ∀ s ∈ [v.id, v.label, v.runtimeSource], s ∈ variantTexts := fun s hs =>
      List.mem_append_right _ (List.mem_flatMap.2 ⟨v, hv, hs⟩)
    rcases hs with rfl | rfl | rfl | rfl
    · exact hinfo _ (by simp)
    · exact hinfo _ (by simp)
    · exact hinfo _ (by simp)
    · cases plan.includes v <;> decide

/-- The table of variants is narrow on every machine. -/
theorem layOut?_variantTable (plan : Plan) :
    (variantTable plan).layOut? = some (variantTable plan).render := by
  have hnarrow : ∀ s ∈ variantTexts, width s ≤ 100 := by decide
  have hsome : (variantTable plan).layOut? ≠ none := by
    rw [Ne, layOut?_eq_none_iff]
    rintro ⟨i, -, hwide⟩
    have hwidth : (variantTable plan).columnWidth i ≤ 100 :=
      widest_le fun s hs => hnarrow s (mem_variantTexts (mem_texts_of_mem_column hs))
    rw [widthLimit] at hwide
    omega
  obtain ⟨text, htext⟩ := Option.ne_none_iff_exists'.1 hsome
  rw [htext, layOut?_eq_some _ htext]

/-- What is said below the tables of a listing. -/
def listNotes (r : Registry) (host : Host) : Action Nat := do
  say .note ("Host: " ++ host.text)
  say .note (toString r.programs.length ++ " programs")
  if (Plan.ofHost host).isCompileOnly then
    say .warning "Target cannot run on this host: compile-only mode"
  return 0

theorem run_listNotes (r : Registry) (host : Host) (s : Session) :
    ((listNotes r host).run s).1 = 0 ∧
      ((listNotes r host).run s).2.console.printed = s.console.printed := by
  unfold listNotes
  cases (Plan.ofHost host).isCompileOnly <;> exact ⟨rfl, rfl⟩

section
variable {suite : SuiteOptions} (host : HostOptions) {s : Session} {r : Registry}

theorem run_listSuite (hr : suite.registry s.world = .ok r) : (listSuite suite host).run s =
    ((printTables [programTable r, variantTable (.ofHost host.host)] >>= fun done =>
      if done then listNotes r host.host else pure brokenOff) : Action Nat).run s := by
  have hget : (get : Action Session).run s = (s, s) := rfl
  unfold listSuite
  rw [Action.run_bind, hget]
  dsimp only
  rw [hr]
  rfl

/-- **A listing is broken off just if a column of its programs is too wide.**  Then
nothing is printed or said; otherwise the exit code is zero, and the two tables
are printed. -/
theorem listSuite_broken_off (hr : suite.registry s.world = .ok r) :
    let out := (listSuite suite host).run s
    let plan := Plan.ofHost host.host
    ((∃ i < 4, widthLimit < (programTable r).columnWidth i) → out = (brokenOff, s)) ∧
      ((¬ ∃ i < 4, widthLimit < (programTable r).columnWidth i) → out.1 = 0 ∧
        out.2.console.printed = s.console.printed ++ ((programTable r).render ++ "\n") ++
          ((variantTable plan).render ++ "\n")) := by
  intro out plan
  have hiff : (programTable r).layOut? = none ↔
      ∃ i < 4, widthLimit < (programTable r).columnWidth i := layOut?_eq_none_iff _
  have hout : out = _ := run_listSuite host hr
  rw [← hiff]
  refine ⟨fun hnone => ?_, fun hsome => ?_⟩
  · rw [hout, printTables, hnone]
    rfl
  · obtain ⟨text, htext⟩ := Option.ne_none_iff_exists'.1 hsome
    have hprint : printTables [programTable r, variantTable plan] =
        (print ((programTable r).render ++ "\n") >>= fun _ =>
          print ((variantTable plan).render ++ "\n") >>= fun _ => pure true) := by
      rw [printTables, htext, layOut?_eq_some _ htext]
      dsimp only
      rw [printTables, layOut?_variantTable]
      rfl
    rw [hout, hprint]
    exact run_listNotes r host.host _

end

/-- A text that is one character too long for a table. -/
def wideText : String := String.ofList (List.replicate (widthLimit + 1) 'a')

/-- A program with one argument. -/
def withArgument (s : String) : Program := { name := "p", arguments := [s] }

theorem texts_withArgument (s : String) : (programTable ⟨[withArgument s]⟩).texts =
    ["Program", "Args", "Stack", "Flags", "p", s, toString (16384 : UInt32).toNat, ""] := rfl

theorem ofPrograms_withArgument (s : String) :
    Registry.ofPrograms [withArgument s] = .ok ⟨[withArgument s]⟩ := by
  have hfault : (withArgument s).fault? = none := by
    show Program.fault? { name := "p" } = none
    decide
  rw [Registry.ofPrograms, Registry.firstFault?, hfault]
  rfl

theorem layOut?_withArgument {s : String} (h : widthLimit < width s) :
    (programTable ⟨[withArgument s]⟩).layOut? = none := by
  have hcolumn : (programTable ⟨[withArgument s]⟩).column 1 = ["Args", s] := rfl
  have hle : width s ≤ widest ["Args", s] := width_le_widest (by simp)
  refine (layOut?_eq_none_iff _).2 ⟨1, show 1 < 4 by decide, ?_⟩
  rw [columnWidth, hcolumn]
  exact h.trans_le hle

theorem notMem_feed_withArgument {s : String} (h : '\n' ∉ s.toList) :
    ∀ s' ∈ (programTable ⟨[withArgument s]⟩).texts, '\n' ∉ s'.toList := by
  have hfixed : ∀ s' ∈ ["Program", "Args", "Stack", "Flags", "p",
      toString (16384 : UInt32).toNat, ""], '\n' ∉ s'.toList := by
    decide
  intro s' hs'
  rw [texts_withArgument] at hs'
  by_cases heq : s' = s
  · rwa [heq]
  · exact hfixed s' (by simpa [heq] using hs')

/-- A letter that is repeated is a name. -/
theorem fault?_repeated (n : Nat) :
    Program.fault? { name := String.ofList (List.replicate (n + 1) 'a') } = none := by
  have hblank : Text.isBlankText (String.ofList (List.replicate (n + 1) 'a')) = false := by
    rw [Text.isBlankText, String.toList_ofList, List.replicate_succ, List.all_cons]
    rfl
  have hdots : ∀ rest, String.ofList (List.replicate (n + 1) 'a') ≠ String.ofList ('.' :: rest) := by
    intro rest heq
    have hhead := (List.cons.inj (String.ofList_injective heq)).1
    exact absurd hhead (by decide)
  have hslash : ((List.replicate (n + 1) 'a').any fun c => c == '/' || c == '\\') = false := by
    rw [List.any_replicate]
    simp
  have hsegment : Program.isSegment (String.ofList (List.replicate (n + 1) 'a')) = true := by
    rw [Program.isSegment, String.toList_ofList, hslash, beq_eq_false_iff_ne.2 (hdots []),
      beq_eq_false_iff_ne.2 (hdots ['.'])]
    rfl
  rw [Program.fault?, hblank, hsegment]
  rfl

theorem width_wideText : width wideText = widthLimit + 1 := by
  rw [width, wideText, String.length_ofList, List.length_replicate]

theorem notMem_feed_wideText : '\n' ∉ wideText.toList := by
  rw [wideText, String.toList_ofList]
  exact fun hmem => absurd (List.eq_of_mem_replicate hmem) (by decide)

/-- The listing of a suite that is accepted can be too wide: not every table of
texts without line breaks has a line for each row and two more. -/
theorem wide_listing_not_laid_out :
    ¬ ∀ (programs : List Program) (r : Registry), Registry.ofPrograms programs = .ok r →
      (∀ s ∈ (programTable r).texts, '\n' ∉ s.toList) →
      ∃ text, (programTable r).layOut? = some text ∧
        (Text.lines text).length = (programTable r).rows.length + 2 := by
  intro hall
  obtain ⟨text, htext, -⟩ :=
    hall _ _ (ofPrograms_withArgument wideText) (notMem_feed_withArgument notMem_feed_wideText)
  have hwide : widthLimit < width wideText := width_wideText ▸ Nat.lt_succ_self widthLimit
  rw [layOut?_withArgument hwide] at htext
  cases htext

end Cli

end GuardCost
