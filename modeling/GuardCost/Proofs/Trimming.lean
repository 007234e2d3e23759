/-
GuardCost/Proofs/Trimming.lean

Blanks at the ends of a text.  A text that neither begins nor ends with a blank
is left alone when it is trimmed, and what is put around a text in blanks is
dropped again together with the text's own:

    trim (blanks ++ s ++ blanks) = trim s

so a text that has been trimmed once is left alone the second time.
-/
import GuardCost.Text.Basic
import Mathlib.Data.List.TakeWhile

namespace GuardCost.Text

theorem trimChars_eq_self {cs : List Char} (hfirst : ∀ c ∈ cs.head?, isBlank c = false)
    (hlast : ∀ c ∈ cs.getLast?, isBlank c = false) : trimChars cs = cs := by
  have hkeep : ∀ {xs : List Char}, (∀ c ∈ xs.head?, isBlank c = false) →
      xs.dropWhile isBlank = xs := by
    intro xs hxs
    cases xs with
    | nil => rfl
    | cons x rest =>
      have hx : isBlank x = false := hxs x rfl
      rw [List.dropWhile_cons_of_neg (by simp [hx])]
  rw [← List.head?_reverse] at hlast
  rw [trimChars, hkeep hfirst, hkeep hlast, List.reverse_reverse]

/-- Blanks that are put around a text are dropped. -/
theorem trimChars_append_blanks {before cs after : List Char}
    (hbefore : ∀ c ∈ before, isBlank c = true) (hafter : ∀ c ∈ after, isBlank c = true) :
    trimChars (before ++ cs ++ after) = trimChars cs := by
  have hdrop : ∀ xs, (after.reverse ++ xs).dropWhile isBlank = xs.dropWhile isBlank := fun xs =>
    List.dropWhile_append_of_pos fun c hc => hafter c (List.mem_reverse.1 hc)
  rw [trimChars, trimChars, List.append_assoc, List.dropWhile_append_of_pos hbefore,
    List.dropWhile_append]
  split
  · -- nothing but blanks is left
    next hnil =>
    have hall : after.dropWhile isBlank = [] := List.dropWhile_eq_nil_iff.2 hafter
    rw [hall, List.isEmpty_iff.1 hnil]
  · rw [List.reverse_append, hdrop]

/-- What is dropped at the end leaves the front in place. -/
theorem trimChars_prefix (cs : List Char) : trimChars cs <+: cs.dropWhile isBlank := by
  rw [trimChars, ← List.reverse_suffix, List.reverse_reverse]
  exact List.dropWhile_suffix _

/-- A trimmed text neither begins nor ends with a blank. -/
theorem trimChars_trimChars (cs : List Char) : trimChars (trimChars cs) = trimChars cs := by
  have hfirst : ∀ xs : List Char, ∀ c ∈ (xs.dropWhile isBlank).head?, isBlank c = false := by
    intro xs c hc
    have hhead := List.head?_dropWhile_not isBlank xs
    rwa [Option.mem_def.1 hc] at hhead
  refine trimChars_eq_self (fun c hc => ?_) (fun c hc => ?_)
  · obtain ⟨rest, hrest⟩ := trimChars_prefix cs
    refine hfirst cs c ?_
    rw [← hrest, List.head?_append, Option.mem_def.1 hc, Option.some_or]
    rfl
  · rw [trimChars, List.getLast?_reverse] at hc
    exact hfirst _ c hc

theorem toList_trim (s : String) : (trim s).toList = trimChars s.toList := by
  rw [trim, String.toList_ofList]

theorem trim_trim (s : String) : trim (trim s) = trim s := by
  rw [← String.toList_inj, toList_trim, toList_trim, trimChars_trimChars]

end GuardCost.Text
