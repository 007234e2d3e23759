/-
GuardCost/Proofs/OwnTriples.lean

The triple that a machine has by its own description,

    arch-unknown-os

with the name of its architecture in front and that of its system at the end.
Where these names make a triple at all, and fit with the family and the word
width that the machine is described by (`Host.Nameable`), the triple is read and
passes all four tests of a runnable target: no field after the first is `none`
(`not_bareMetal_own`), the architecture is executed whether its family is known
or not (`executes_own`), its words are no wider (`width_own`), and the system is
found at the end of the triple (`matchesSystem_own`).  So naming the machine as
its own target leaves its plan as it is (`own_triple_keeps_plan`).
-/
import GuardCost.Proofs.RunnableTargets

namespace GuardCost.Host

open Text

/-- The triple of a machine, as text. -/
def ownText (h : Host) : String := h.arch ++ "-" ++ ("unknown-" ++ h.os)

/-- The triple of a machine. -/
def own (h : Host) : Triple := ⟨h.ownText, h.arch⟩

/-- A machine whose architecture can stand in a triple, whose family and word
width fit with it, and whose system is a known one. -/
structure Nameable (h : Host) : Prop where
  nonempty : h.arch ≠ ""
  dashless : '-' ∉ h.arch.toList
  blankless : ∀ c ∈ h.arch.toList, isBlank c = false
  inStep : h.InStep
  width : contains h.arch "64" = true → h.wordWidth = .bits64
  system : h.os = "linux" ∨ h.os = "macos" ∨ h.os = "windows"

variable {h : Host}

theorem parse_ownText (hh : h.Nameable) : Triple.parse h.ownText = .ok h.own := by
  refine Triple.parse_dashed hh.nonempty hh.dashless
    (fun c hc => hh.blankless c (List.mem_of_mem_head? hc)) fun c hc => ?_
  -- the last letter of a system
  rcases hh.system with hos | hos | hos <;> rw [hos] at hc <;> cases hc <;> decide

/-- The first field does not count, so a machine may even be called `none`. -/
theorem not_bareMetal_own (hh : h.Nameable) : h.own.isBareMetal = false := by
  rw [Triple.isBareMetal, own, ownText, Triple.toList_dashed, partsAt_append,
    partsAt_of_notMem hh.dashless, List.singleton_append, List.tail_cons]
  rcases hh.system with hos | hos | hos <;> rw [hos] <;> decide

theorem executes_own (hstep : h.InStep) : h.executes h.own = true := by
  by_cases hcpu : h.cpu = .other
  · exact (executes_other hcpu).2 (startsWith_iff.2 (List.prefix_refl _))
  · exact (executes_known hcpu).2 hstep.symm

/-- The words of the triple are no wider than those of the machine just if a
machine whose architecture mentions 64 bits has them. -/
theorem width_own : h.own.wordWidth.bits ≤ h.wordWidth.bits ↔
    (contains h.arch "64" = true → h.wordWidth = .bits64) := by
  rw [Triple.wordWidth, own]
  split
  · next h64 =>
    refine ⟨fun hle _ => eq_bits64_of_le hle, fun hwidth => ?_⟩
    rw [hwidth h64]
  · next h64 =>
    refine ⟨fun _ h64' => absurd h64' h64, fun _ => ?_⟩
    cases h.wordWidth <;> decide

theorem matchesSystem_own (hos : h.os = "linux" ∨ h.os = "macos" ∨ h.os = "windows") :
    h.own.matchesSystem h.os = true := by
  have hend : ∀ {part : String}, contains (lower h.os) part = true →
      contains (lower h.own.text) part = true := by
    intro part hpart
    rw [own, ownText, ← String.append_assoc, lower_append]
    exact contains_append_of_right hpart
  unfold Triple.matchesSystem
  rcases hos with hos | hos | hos <;> rw [hos] at hend
  · have hfound := @hend "linux" (by decide)
    simp [hos, hfound]
  · have hfound := @hend "macos" (by decide)
    simp [hos, hfound]
  · have hfound := @hend "windows" (by decide)
    simp [hos, hfound]

theorem isRunnable_own (hh : h.Nameable) : (h.withTarget h.own).isRunnable = true :=
  (isRunnable_iff rfl).2 ⟨not_bareMetal_own hh, executes_own hh.inStep, width_own.2 hh.width,
    matchesSystem_own hh.system⟩

/-- **Naming the machine itself as the target changes nothing.**  Take a machine
without a target, with an architecture that can stand in a triple and fits with
its family and its word width, and one of the three known systems.  The triple of
its architecture and its system is read with these very names in it; code for it
can run on the machine, and the plan is the same as without a target, which is
not compile-only. -/
theorem own_triple_keeps_plan (hnone : h.target? = none) (hh : h.Nameable) :
    ∃ t, Triple.parse (h.arch ++ "-unknown-" ++ h.os) = .ok t ∧
      t.text = h.arch ++ "-unknown-" ++ h.os ∧ t.arch = h.arch ∧
      (h.withTarget t).isRunnable = true ∧
      Plan.ofHost (h.withTarget t) = Plan.ofHost h ∧
      (Plan.ofHost (h.withTarget t)).isCompileOnly = false := by
  have htext : h.arch ++ "-unknown-" ++ h.os = h.ownText := by
    have hdash : "-" ++ "unknown-" = "-unknown-" := by decide
    rw [ownText, String.append_assoc, ← hdash, String.append_assoc, String.append_assoc]
  have hrun := isRunnable_own hh
  have hplain : h.isRunnable = true := by rw [isRunnable, hnone]
  refine ⟨h.own, htext ▸ parse_ownText hh, htext.symm, rfl, hrun, ?_, ?_⟩
  · rw [Plan.ofHost, Plan.ofHost, if_pos hrun, if_pos hplain, applicable_withTarget]
  · rw [Plan.ofHost, if_pos hrun]
    rfl

/-- A machine of an unknown family that is called like the missing system. -/
theorem own_triple_of_none :
    let h : Host := ⟨.bits32, .other, "none", "macos", none⟩
    h.target? = none ∧ h.Nameable ∧
      ∃ t, Triple.parse ("none" ++ "-unknown-" ++ "macos") = .ok t ∧
        t.text = "none" ++ "-unknown-" ++ "macos" ∧ t.arch = "none" ∧
        (h.withTarget t).isRunnable = true ∧
        Plan.ofHost (h.withTarget t) = Plan.ofHost h ∧
        (Plan.ofHost (h.withTarget t)).isCompileOnly = false := by
  intro h
  have hstep : CpuFamily.other = CpuFamily.ofArch "none" := by decide
  have hblank : ∀ c ∈ h.arch.toList, isBlank c = false := by
    have hall : "none".toList.all (fun c => !isBlank c) = true := by decide
    exact fun c hc => by simpa using List.all_eq_true.1 hall c hc
  have hh : h.Nameable :=
    ⟨by decide, by decide, hblank, hstep, by decide, .inr (.inl rfl)⟩
  exact ⟨rfl, hh, own_triple_keeps_plan rfl hh⟩

end GuardCost.Host
