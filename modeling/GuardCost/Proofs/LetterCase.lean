/-
GuardCost/Proofs/LetterCase.lean

Triples in letters of either case.  Reading commutes with lower-casing, because
dashes and blanks have no case (`toOption_parse_lower`):

    parse (lower s) = (parse s) in small letters

and of the four tests of a runnable target, three see small letters only or look
at digits: the family or the front of the architecture, the word width, and the
system (`suits_congr`).  The fourth compares the fields with `none` as they are
written, so a target without a system is found only in small letters.  That is
all that the case of letters can change (`letter_case_hides_bare_metal_only`).
-/
import GuardCost.Proofs.RunnableTargets

namespace GuardCost

/-! ### Parts under a renaming -/

section
variable {α : Type} [DecidableEq α] {f : α → α} {sep : α}

/-- Splitting commutes with a renaming that leaves the separators alone. -/
theorem partsAt_map (hf : ∀ x, f x = sep ↔ x = sep) (xs : List α) :
    partsAt sep (xs.map f) = (partsAt sep xs).map (List.map f) := by
  induction xs with
  | nil => rfl
  | cons x rest ih =>
    obtain ⟨part, parts, hp⟩ := List.exists_cons_of_ne_nil (partsAt_ne_nil sep rest)
    rw [List.map_cons, partsAt, partsAt, ih, hp]
    by_cases hx : x = sep
    · rw [if_pos ((hf x).2 hx), if_pos hx]
      rfl
    · rw [if_neg (mt (hf x).1 hx), if_neg hx]
      rfl

theorem splitFirst?_map (hf : ∀ x, f x = sep ↔ x = sep) (xs : List α) :
    splitFirst? sep (xs.map f) =
      (splitFirst? sep xs).map fun (before, after) => (before.map f, after.map f) := by
  induction xs with
  | nil => rfl
  | cons x rest ih =>
    rw [List.map_cons, splitFirst?, splitFirst?, ih]
    by_cases hx : x = sep
    · rw [if_pos ((hf x).2 hx), if_pos hx]
      rfl
    · rw [if_neg (mt (hf x).1 hx), if_neg hx, Option.map_map, Option.map_map]
      rfl

end

namespace Text

theorem trimChars_map_lowerChar (cs : List Char) :
    trimChars (cs.map lowerChar) = (trimChars cs).map lowerChar := by
  have hblank : isBlank ∘ lowerChar = isBlank := funext isBlank_lowerChar
  rw [trimChars, trimChars, List.dropWhile_map, hblank, ← List.map_reverse, List.dropWhile_map,
    hblank, ← List.map_reverse]

end Text

namespace Triple

open Text

variable {t t' : Triple}

/-- A triple in small letters. -/
def lowered (t : Triple) : Triple := ⟨lower t.text, lower t.arch⟩

/-- A text in small letters is read as its triple in small letters. -/
theorem toOption_parse_lower (s : String) :
    (parse (lower s)).toOption = (parse s).toOption.map lowered := by
  have hdash : ∀ c, lowerChar c = '-' ↔ c = '-' := fun c => lowerChar_eq_iff (by decide)
  have hlower : ∀ cs : List Char, String.ofList (cs.map lowerChar) = lower (String.ofList cs) := by
    intro cs
    rw [lower, String.toList_ofList]
  unfold parse
  simp only [toList_lower, trimChars_map_lowerChar, splitFirst?_map hdash, hlower]
  rcases splitFirst? '-' (trimChars s.toList) with - | ⟨- | ⟨c, before⟩, after⟩
  · rfl
  · rfl
  · simp only [Option.map_some, List.map_cons]
    rw [← List.map_cons, hlower]
    rfl

/-- Texts that agree up to the case of letters are both triples or neither is. -/
theorem exists_parse_iff {s s' : String} (hcase : lower s = lower s') :
    (∃ t, parse s = .ok t) ↔ ∃ t, parse s' = .ok t := by
  have hok : ∀ s : String, (∃ t, parse s = .ok t) ↔ (parse (lower s)).toOption.isSome = true := by
    intro s
    rw [toOption_parse_lower, Option.isSome_map]
    cases parse s with
    | error e => simp [Except.toOption]
    | ok t => simp [Except.toOption]
  rw [hok, hok, hcase]

theorem lowered_eq_of_parse {s s' : String} (hcase : lower s = lower s') (ht : parse s = .ok t)
    (ht' : parse s' = .ok t') : t.lowered = t'.lowered := by
  have h := toOption_parse_lower s
  rw [hcase, toOption_parse_lower, ht, ht'] at h
  exact (Option.some.inj h).symm

/-! ### The four tests -/

theorem cpu_congr (h : t.lowered = t'.lowered) : t.cpu = t'.cpu :=
  Host.ofArch_congr (congrArg Triple.arch h)

/-- The width is read off digits. -/
theorem wordWidth_congr (h : t.lowered = t'.lowered) : t.wordWidth = t'.wordWidth := by
  have hdigits : ∀ d ∈ "64".toList, d.toNat < 65 := by simp
  have hlower : ∀ t : Triple, contains t.arch "64" = contains t.lowered.arch "64" := by
    intro t
    rw [Bool.eq_iff_iff, contains_iff, contains_iff, lowered, toList_lower,
      infix_lower_iff hdigits]
  rw [wordWidth, wordWidth, hlower t, hlower t', h]

theorem matchesSystem_congr (h : t.lowered = t'.lowered) (os : String) :
    t.matchesSystem os = t'.matchesSystem os := by
  have htext : lower t.text = lower t'.text := congrArg Triple.text h
  rw [matchesSystem, matchesSystem, htext]

/-- A target without a system is one in small letters too; not so the other way
round. -/
theorem isBareMetal_lowered (h : t.isBareMetal = true) : t.lowered.isBareMetal = true := by
  have hdash : ∀ c, lowerChar c = '-' ↔ c = '-' := fun c => lowerChar_eq_iff (by decide)
  have hnone : "none".toList.map lowerChar = "none".toList := by decide
  rw [isBareMetal, List.any_eq_true] at h ⊢
  obtain ⟨part, hpart, heq⟩ := h
  refine ⟨part.map lowerChar, ?_, ?_⟩
  · rw [lowered, toList_lower, partsAt_map hdash, ← List.map_tail]
    exact List.mem_map_of_mem hpart
  · rw [beq_iff_eq] at heq ⊢
    rw [heq, hnone]

end Triple

namespace Host

open Text

variable {h : Host} {t t' : Triple}

theorem executes_congr (heq : t.lowered = t'.lowered) : h.executes t = h.executes t' := by
  have harch : lower t.arch = lower t'.arch := congrArg Triple.arch heq
  rw [executes, executes, harch, Triple.cpu_congr heq]

/-- Whether a target passes the tests of the processor, the word width and the
system; that it has a system at all is another question. -/
def suits (h : Host) (t : Triple) : Bool :=
  h.executes t && decide (t.wordWidth.bits ≤ h.wordWidth.bits) && t.matchesSystem h.os

theorem isRunnable_withTarget (h : Host) (t : Triple) :
    (h.withTarget t).isRunnable = (!t.isBareMetal && h.suits t) := by
  rw [suits, ← Bool.and_assoc, ← Bool.and_assoc]
  rfl

theorem suits_congr (heq : t.lowered = t'.lowered) : h.suits t = h.suits t' := by
  rw [suits, suits, executes_congr heq, Triple.wordWidth_congr heq, Triple.matchesSystem_congr heq]

/-- The plan tells whether the target is runnable, and nothing else about it. -/
theorem ofHost_withTarget_inj : Plan.ofHost (h.withTarget t) = Plan.ofHost (h.withTarget t') ↔
    (h.withTarget t).isRunnable = (h.withTarget t').isRunnable := by
  constructor
  · intro heq
    rw [Bool.eq_iff_iff, ← mode_ofHost, ← mode_ofHost, heq]
  · intro heq
    rw [Plan.ofHost, Plan.ofHost, heq, applicable_withTarget, applicable_withTarget]

/-- **The case of letters can only hide that a target has no system.**  Take texts
that agree up to the case of ASCII letters.  Both are triples or neither is, and
if they are, the two targets have the same family, the same word width and match
the same systems, and the machine executes code for both or for neither.  So the
two have the same plan unless the target suits the machine in all this and just
one of the two has a field `none` in small letters; where no field is `none` in
letters of any case, the plans are the same. -/
theorem letter_case_hides_bare_metal_only (h : Host) {s s' : String} (hcase : lower s = lower s') :
    ((∃ t, Triple.parse s = .ok t) ↔ ∃ t, Triple.parse s' = .ok t) ∧
      ∀ t t', Triple.parse s = .ok t → Triple.parse s' = .ok t' →
        t.cpu = t'.cpu ∧ t.wordWidth = t'.wordWidth ∧
          (∀ os, t.matchesSystem os = t'.matchesSystem os) ∧ h.executes t = h.executes t' ∧
          ((h.withTarget t).isRunnable = (h.withTarget t').isRunnable ↔
            t.isBareMetal = t'.isBareMetal ∨ h.suits t = false) ∧
          (Plan.ofHost (h.withTarget t) = Plan.ofHost (h.withTarget t') ↔
            t.isBareMetal = t'.isBareMetal ∨ h.suits t = false) ∧
          (t.lowered.isBareMetal = false →
            Plan.ofHost (h.withTarget t) = Plan.ofHost (h.withTarget t')) := by
  refine ⟨Triple.exists_parse_iff hcase, fun t t' ht ht' => ?_⟩
  have heq : t.lowered = t'.lowered := Triple.lowered_eq_of_parse hcase ht ht'
  have hrun : (h.withTarget t).isRunnable = (h.withTarget t').isRunnable ↔
      t.isBareMetal = t'.isBareMetal ∨ h.suits t = false := by
    rw [isRunnable_withTarget, isRunnable_withTarget, ← suits_congr heq]
    cases t.isBareMetal <;> cases t'.isBareMetal <;> cases h.suits t <;> decide
  have hplan := ofHost_withTarget_inj.trans hrun
  refine ⟨Triple.cpu_congr heq, Triple.wordWidth_congr heq, Triple.matchesSystem_congr heq,
    executes_congr heq, hrun, hplan, fun hsystem => hplan.2 (.inl ?_)⟩
  have hbare : ∀ u : Triple, u.lowered = t.lowered → u.isBareMetal = false := by
    intro u hu
    rw [← Bool.not_eq_true]
    intro hu'
    rw [← hu, Triple.isBareMetal_lowered hu'] at hsystem
    cases hsystem
  rw [hbare t rfl, hbare t' heq.symm]

/-- Two spellings of a target without a system, on an x86 machine. -/
theorem none_in_either_case :
    lower "x86_64-none-linux" = lower "X86_64-None-Linux" ∧
      ((∃ t, Triple.parse "x86_64-none-linux" = .ok t) ↔
        ∃ t, Triple.parse "X86_64-None-Linux" = .ok t) ∧
      let h := Host.detect
      let t : Triple := ⟨"x86_64-none-linux", "x86_64"⟩
      let t' : Triple := ⟨"X86_64-None-Linux", "X86_64"⟩
      t.cpu = t'.cpu ∧ t.wordWidth = t'.wordWidth ∧
        (∀ os, t.matchesSystem os = t'.matchesSystem os) ∧ h.executes t = h.executes t' ∧
        ((h.withTarget t).isRunnable = (h.withTarget t').isRunnable ↔
          t.isBareMetal = t'.isBareMetal ∨ h.suits t = false) ∧
        (Plan.ofHost (h.withTarget t) = Plan.ofHost (h.withTarget t') ↔
          t.isBareMetal = t'.isBareMetal ∨ h.suits t = false) ∧
        (t.lowered.isBareMetal = false →
          Plan.ofHost (h.withTarget t) = Plan.ofHost (h.withTarget t')) := by
  have hcase : lower "x86_64-none-linux" = lower "X86_64-None-Linux" := by decide
  obtain ⟨hparse, htargets⟩ := letter_case_hides_bare_metal_only Host.detect hcase
  exact ⟨hcase, hparse, htargets _ _ (by decide) (by decide)⟩

/-- In capitals, a target without a system is taken for one that can run here. -/
theorem bare_metal_in_capitals_runs :
    ¬ ∀ (h : Host) (s s' : String) (t t' : Triple), lower s = lower s' →
      Triple.parse s = .ok t → Triple.parse s' = .ok t' →
      (h.withTarget t).isRunnable = (h.withTarget t').isRunnable ∧
        Plan.ofHost (h.withTarget t) = Plan.ofHost (h.withTarget t') := by
  intro hall
  have hruns := (hall Host.detect "x86_64-none-linux" "x86_64-NONE-linux"
    ⟨"x86_64-none-linux", "x86_64"⟩ ⟨"x86_64-NONE-linux", "x86_64"⟩ (by decide) (by decide)
    (by decide)).1
  exact absurd hruns (by decide)

end Host

end GuardCost
