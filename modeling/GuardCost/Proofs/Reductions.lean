/-
GuardCost/Proofs/Reductions.lean

Samples that are collapsed into one value.  The least of some numbers is one of
them (`min_of_numbers`).  The median is taken from the arrangement of the samples
in the total order, of which there is one only (`Ranked.eq_of_perm`), so the order
in which they were measured has no say; and the middle of a list is told by what
stands on either side

    front ++ y :: back          with as many in front of it as behind it
    front ++ a :: b :: back     between two

(`middle?_odd`, `middle?_even`).  What is less than the middle one stands in front
of it, and what is greater behind it.

A least or middle sample is a sample, so it is usable if they all are: then a
measurement is accepted (`Yields.measureWith`).
-/
import GuardCost.Bench.Reduction
import GuardCost.Proofs.DoubleOrder
import Mathlib

namespace GuardCost

open Binary64

/-! ### The least sample -/

namespace Binary64

/-- The lesser of two numbers is one of them, and neither is before it. -/
theorem lesser_cases {a b : Float} (ha : a.isNaN = false) (hb : b.isNaN = false) :
    (lesser a b = a ∨ lesser a b = b) ∧ place (lesser a b) ≤ place a ∧
      place (lesser a b) ≤ place b := by
  rw [lesser]
  split
  · next hlt =>
    rw [lt_iff_place_lt hb ha] at hlt
    exact ⟨.inr rfl, hlt.le, le_rfl⟩
  · next hlt =>
    rw [lt_iff_place_lt hb ha, not_lt] at hlt
    rw [ha]
    exact ⟨.inl rfl, le_rfl, hlt⟩

theorem foldl_lesser {start : Float} {xs : List Float}
    (h : ∀ x ∈ start :: xs, x.isNaN = false) :
    xs.foldl lesser start ∈ start :: xs ∧
      ∀ x ∈ start :: xs, place (xs.foldl lesser start) ≤ place x := by
  induction xs generalizing start with
  | nil => simp
  | cons x rest ih =>
    obtain ⟨hstart, hx, hrest⟩ : start.isNaN = false ∧ x.isNaN = false ∧
        ∀ y ∈ rest, y.isNaN = false := by simpa using h
    obtain ⟨hone, hle, hle'⟩ := lesser_cases hstart hx
    have hnumbers : ∀ y ∈ lesser start x :: rest, y.isNaN = false := by
      refine List.forall_mem_cons.2 ⟨?_, hrest⟩
      rcases hone with heq | heq <;> rw [heq] <;> assumption
    obtain ⟨hmem, hleast⟩ := ih hnumbers
    obtain ⟨hfirst, hothers⟩ := List.forall_mem_cons.1 hleast
    refine ⟨?_, List.forall_mem_cons.2 ⟨hfirst.trans hle, List.forall_mem_cons.2
      ⟨hfirst.trans hle', hothers⟩⟩⟩
    rw [List.foldl_cons]
    rcases List.mem_cons.1 hmem with heq | hmem
    · rw [heq]
      rcases hone with heq | heq <;> rw [heq] <;> simp
    · exact List.mem_cons_of_mem _ (List.mem_cons_of_mem _ hmem)

end Binary64

namespace Reduction

/-- The least of some numbers is one of them.  The search starts from infinity,
which is the least only where all of them are infinite. -/
theorem min_of_numbers {xs : List Float} (hne : xs ≠ []) (hnum : ∀ x ∈ xs, x.isNaN = false) :
    ∃ y ∈ xs, reduce? .min xs = some y ∧ ∀ x ∈ xs, place y ≤ place x := by
  have hinfinity : infinity.isNaN = false := by decide
  obtain ⟨hmem, hleast⟩ := foldl_lesser (List.forall_mem_cons.2 ⟨hinfinity, hnum⟩)
  obtain ⟨-, hothers⟩ := List.forall_mem_cons.1 hleast
  refine ⟨_, ?_, by rw [reduce?, if_neg (mt List.isEmpty_iff.1 hne)], hothers⟩
  rcases List.mem_cons.1 hmem with heq | hmem
  · obtain ⟨x, hx⟩ := List.exists_mem_of_ne_nil xs hne
    have hplace := le_antisymm (heq ▸ hothers x hx) (place_le_infinity (hnum x hx))
    rw [heq, eq_of_place_eq hinfinity (hnum x hx) (by decide) hplace]
    exact hx
  · exact hmem

/-! ### The arrangement in the total order -/

/-- The samples stand in the total order. -/
def Ranked (xs : List Float) : Prop := xs.Pairwise fun a b => rank a ≤ rank b

theorem ranked_sortSamples (xs : List Float) : Ranked (sortSamples xs) := by
  have htrans : ∀ a b c : Float, decide (rank a ≤ rank b) = true → decide (rank b ≤ rank c) = true →
      decide (rank a ≤ rank c) = true := by
    simp only [decide_eq_true_iff]
    exact fun a b c => le_trans
  have htotal : ∀ a b : Float, (decide (rank a ≤ rank b) || decide (rank b ≤ rank a)) = true := by
    simp only [Bool.or_eq_true, decide_eq_true_iff]
    exact fun a b => le_total _ _
  exact (List.pairwise_mergeSort htrans htotal xs).imp of_decide_eq_true

theorem perm_sortSamples (xs : List Float) : (sortSamples xs).Perm xs := List.mergeSort_perm _ _

/-- The same samples are ranked in one way only. -/
theorem Ranked.eq_of_perm {xs ys : List Float} (hx : Ranked xs) (hy : Ranked ys)
    (h : xs.Perm ys) : xs = ys :=
  h.eq_of_pairwise (fun _ _ _ _ hab hba => rank_injective (le_antisymm hab hba)) hx hy

theorem sortSamples_eq_of_perm {xs ys : List Float} (h : xs.Perm ys) :
    sortSamples xs = sortSamples ys :=
  (ranked_sortSamples xs).eq_of_perm (ranked_sortSamples ys) <|
    (perm_sortSamples xs).trans (h.trans (perm_sortSamples ys).symm)

theorem reduce?_median {xs : List Float} (hne : xs ≠ []) :
    reduce? .median xs = middle? (sortSamples xs) := by
  rw [reduce?, if_neg (mt List.isEmpty_iff.1 hne)]

/-! ### The middle of a list -/

theorem middle?_odd {front back : List Float} {y : Float} (h : front.length = back.length) :
    middle? (front ++ y :: back) = some y := by
  have hlength : (front ++ y :: back).length = 2 * front.length + 1 := by
    rw [List.length_append, List.length_cons]
    omega
  have hmid : (2 * front.length + 1) / 2 = front.length := by omega
  rw [middle?, hlength, hmid, if_neg (by omega), List.getElem?_append_right le_rfl, Nat.sub_self]
  rfl

theorem middle?_even {front back : List Float} {a b : Float} (h : front.length = back.length) :
    middle? (front ++ a :: b :: back) = some (midpoint a b) := by
  have hlength : (front ++ a :: b :: back).length = 2 * (front.length + 1) := by
    rw [List.length_append, List.length_cons, List.length_cons]
    omega
  have hmid : 2 * (front.length + 1) / 2 = front.length + 1 := by omega
  rw [middle?, hlength, hmid, if_pos (by omega), Nat.add_sub_cancel,
    List.getElem?_append_right le_rfl, List.getElem?_append_right (Nat.le_succ _), Nat.sub_self,
    Nat.succ_eq_add_one, Nat.add_sub_cancel_left]
  rfl

/-- A list of odd length has a middle. -/
theorem exists_middle {xs : List Float} (h : xs.length % 2 = 1) :
    ∃ front y back, xs = front ++ y :: back ∧ front.length = back.length := by
  have hlt : xs.length / 2 < xs.length := by omega
  refine ⟨xs.take (xs.length / 2), xs[xs.length / 2], xs.drop (xs.length / 2 + 1), ?_, ?_⟩
  · rw [List.getElem_cons_drop, List.take_append_drop]
  · rw [List.length_take, List.length_drop]
    omega

/-- A list of even length that is not empty has two in the middle. -/
theorem exists_middle_two {xs : List Float} (hne : xs ≠ []) (h : xs.length % 2 = 0) :
    ∃ front a b back, xs = front ++ a :: b :: back ∧ front.length = back.length := by
  have hpos := List.length_pos_iff.2 hne
  have hlt : xs.length / 2 - 1 < xs.length := by omega
  have hlt' : xs.length / 2 - 1 + 1 < xs.length := by omega
  refine ⟨xs.take (xs.length / 2 - 1), xs[xs.length / 2 - 1], xs[xs.length / 2 - 1 + 1],
    xs.drop (xs.length / 2 - 1 + 1 + 1), ?_, ?_⟩
  · rw [List.getElem_cons_drop, List.getElem_cons_drop, List.take_append_drop]
  · rw [List.length_take, List.length_drop]
    omega

/-- In a ranked list, what is less stands in front and what is greater behind. -/
theorem Ranked.countP_le {front back : List Float} {y : Float}
    (hranked : Ranked (front ++ y :: back)) (hnum : ∀ x ∈ front ++ y :: back, x.isNaN = false) :
    (front ++ y :: back).countP (fun x => decide (x < y)) ≤ front.length ∧
      (front ++ y :: back).countP (fun x => decide (y < x)) ≤ back.length := by
  obtain ⟨-, htail, hacross⟩ := List.pairwise_append.1 hranked
  have hy : y.isNaN = false := hnum y (by simp)
  have hself : ¬ y < y := by
    rw [lt_iff_place_lt hy hy]
    exact lt_irrefl _
  have hbehind : (y :: back).countP (fun x => decide (x < y)) = 0 := by
    rw [List.countP_eq_zero]
    rintro x hx hlt
    rcases List.mem_cons.1 hx with rfl | hx
    · exact hself (of_decide_eq_true hlt)
    · have hxnum : x.isNaN = false := hnum x (by simp [hx])
      have hle := place_le_of_rank_le hy hxnum ((List.pairwise_cons.1 htail).1 x hx)
      exact absurd ((lt_iff_place_lt hxnum hy).1 (of_decide_eq_true hlt)) (not_lt.2 hle)
  have hbefore : front.countP (fun x => decide (y < x)) = 0 := by
    rw [List.countP_eq_zero]
    intro x hx hlt
    have hxnum : x.isNaN = false := hnum x (by simp [hx])
    have hle := place_le_of_rank_le hxnum hy (hacross x hx y (by simp))
    exact absurd ((lt_iff_place_lt hy hxnum).1 (of_decide_eq_true hlt)) (not_lt.2 hle)
  rw [List.countP_append, List.countP_append, hbehind, hbefore, List.countP_cons_of_neg (by simpa)]
  exact ⟨by simpa using List.countP_le_length, by simpa using List.countP_le_length⟩

/-- The median of an odd number of numbers is one of them, with at most half of the
others on either side. -/
theorem median_of_odd {xs : List Float} (hnum : ∀ x ∈ xs, x.isNaN = false)
    (h : xs.length % 2 = 1) : ∃ y ∈ xs, reduce? .median xs = some y ∧
      xs.countP (fun x => decide (x < y)) ≤ (xs.length - 1) / 2 ∧
      xs.countP (fun x => decide (y < x)) ≤ (xs.length - 1) / 2 := by
  have hne : xs ≠ [] := by
    rintro rfl
    cases h
  have hperm := perm_sortSamples xs
  have hranked := ranked_sortSamples xs
  obtain ⟨front, y, back, hsplit, hlength⟩ := exists_middle (hperm.length_eq ▸ h)
  rw [hsplit] at hperm hranked
  have hboth : xs.length = front.length + (back.length + 1) := by
    rw [← hperm.length_eq, List.length_append, List.length_cons]
  obtain ⟨hless, hgreater⟩ := hranked.countP_le fun x hx => hnum x (hperm.subset hx)
  rw [hperm.countP_eq] at hless hgreater
  refine ⟨y, hperm.subset (by simp), ?_, by omega, by omega⟩
  rw [reduce?_median hne, hsplit, middle?_odd hlength]

/-- The median of an even number of samples is between the two in the middle. -/
theorem median_of_even {xs : List Float} (hne : xs ≠ []) (h : xs.length % 2 = 0) :
    ∃ front a b back, (front ++ a :: b :: back).Perm xs ∧ Ranked (front ++ a :: b :: back) ∧
      front.length = back.length ∧ reduce? .median xs = some (midpoint a b) := by
  have hperm := perm_sortSamples xs
  have hranked := ranked_sortSamples xs
  obtain ⟨front, a, b, back, hsplit, hlength⟩ := exists_middle_two
    (fun hnil => hne (List.perm_nil.1 (hnil ▸ hperm.symm))) (hperm.length_eq ▸ h)
  rw [hsplit] at hperm hranked
  refine ⟨front, a, b, back, hperm, hranked, hlength, ?_⟩
  rw [reduce?_median hne, hsplit, middle?_even hlength]

/-- Samples can be reduced, in every way, if there is one. -/
theorem exists_reduce? (r : Reduction) {xs : List Float} (hne : xs ≠ []) :
    ∃ y, r.reduce? xs = some y := by
  cases r with
  | min => exact ⟨_, by rw [reduce?, if_neg (mt List.isEmpty_iff.1 hne)]⟩
  | mean => exact ⟨_, by rw [reduce?, if_neg (mt List.isEmpty_iff.1 hne)]⟩
  | median =>
    rcases Nat.mod_two_eq_zero_or_one xs.length with heven | hodd
    · obtain ⟨_, _, _, _, -, -, -, h⟩ := median_of_even hne heven
      exact ⟨_, h⟩
    · rw [reduce?_median hne]
      obtain ⟨front, y, back, hsplit, hlength⟩ := exists_middle
        ((perm_sortSamples xs).length_eq.symm ▸ hodd)
      rw [hsplit, middle?_odd hlength]
      exact ⟨_, rfl⟩

end Reduction

/-! ### Measuring -/

theorem acceptSamples_of_usable {r : Reduction} {xs : List Float} {y : Float}
    (h : r.reduce? xs = some y) (hy : isUsable y = true) : acceptSamples r xs = .ok y := by
  rw [acceptSamples, h]
  exact if_pos hy

section
variable {σ : Type} {run : StateM σ (Except MeasureError Float)}

/-- Runs in a row, all of them good, with what they measure. -/
inductive Yields (run : StateM σ (Except MeasureError Float)) : σ → List Float → σ → Prop
  | none (s : σ) : Yields run s [] s
  | more {s s₁ s₂ : σ} {x : Float} {xs : List Float} : run.run s = (.ok x, s₁) →
      Yields run s₁ xs s₂ → Yields run s (x :: xs) s₂

variable {s s' : σ} {xs : List Float}

theorem Yields.collect (h : Yields run s xs s') :
    (collect run xs.length).run s = (.ok xs, s') := by
  induction h with
  | none s => rfl
  | more hrun _ ih =>
    rw [List.length_cons, GuardCost.collect, StateT.run_bind, hrun]
    show (GuardCost.collect run _ >>= _).run _ = _
    rw [StateT.run_bind, ih]
    rfl

/-- Good runs are measured to what their samples come to. -/
theorem Yields.measureWith (h : Yields run s xs s') (r : Reduction) :
    (measureWith xs.length r run).run s = (acceptSamples r xs, s') := by
  rw [GuardCost.measureWith, StateT.run_bind, h.collect]
  rfl

end

namespace Reduction

/-- **What samples are reduced to.**  Let there be samples, all of them numbers.
The least is numerically one of them and not greater than any.  The median does not
depend on their order; of an odd number it is a sample with at most half of the
others below it and at most half above, and of an even number the midpoint of the
two adjacent ones in the middle of the ranked samples.  So if all samples are
positive and finite, what is measured by the least of them, or by the median of an
odd number, is accepted. -/
theorem reductions_of_numbers {xs : List Float} (hne : xs ≠ [])
    (hnum : ∀ x ∈ xs, x.isNaN = false) :
    (∃ y, reduce? .min xs = some y ∧ (∃ x ∈ xs, (y == x) = true) ∧ ∀ x ∈ xs, y ≤ x) ∧
    (∀ ys, ys.Perm xs → reduce? .median ys = reduce? .median xs) ∧
    (xs.length % 2 = 1 → ∃ y ∈ xs, reduce? .median xs = some y ∧
      xs.countP (fun x => decide (x < y)) ≤ (xs.length - 1) / 2 ∧
      xs.countP (fun x => decide (y < x)) ≤ (xs.length - 1) / 2) ∧
    (xs.length % 2 = 0 → ∃ front a b back, (front ++ a :: b :: back).Perm xs ∧
      Ranked (front ++ a :: b :: back) ∧ front.length = back.length ∧
      reduce? .median xs = some (midpoint a b)) ∧
    ((∀ x ∈ xs, isUsable x = true) → ∀ r, r = .min ∨ (r = .median ∧ xs.length % 2 = 1) →
      ∀ (σ : Type) (run : StateM σ (Except MeasureError Float)) (s s' : σ), Yields run s xs s' →
        ∃ y, isUsable y = true ∧ (measureWith xs.length r run).run s = (.ok y, s')) := by
  obtain ⟨least, hmem, hmin, hle⟩ := min_of_numbers hne hnum
  refine ⟨⟨least, hmin, ⟨least, hmem, ?_⟩, fun x hx => ?_⟩, fun ys hperm => ?_,
    median_of_odd hnum, median_of_even hne, fun husable r hr σ run s s' hruns => ?_⟩
  · exact (beq_iff_place_eq (hnum least hmem) (hnum least hmem)).2 rfl
  · exact (le_iff_place_le (hnum least hmem) (hnum x hx)).2 (hle x hx)
  · have hne' : ys ≠ [] := fun hnil => hne (List.nil_perm.1 (hnil ▸ hperm))
    rw [reduce?_median hne, reduce?_median hne', sortSamples_eq_of_perm hperm]
  · obtain ⟨y, hy, hreduce⟩ : ∃ y ∈ xs, reduce? r xs = some y := by
      rcases hr with rfl | ⟨rfl, hodd⟩
      · exact ⟨least, hmem, hmin⟩
      · obtain ⟨y, hy, hmedian, -⟩ := median_of_odd hnum hodd
        exact ⟨y, hy, hmedian⟩
    refine ⟨y, husable y hy, ?_⟩
    rw [hruns.measureWith, acceptSamples_of_usable hreduce (husable y hy)]

/-- Runs that measure one after another what they are given. -/
def replay : StateM (List Float) (Except MeasureError Float) := fun
  | [] => (.error .noSamples, [])
  | x :: rest => (.ok x, rest)

/-- Three samples in any order, and the two zeros with infinity in two orders. -/
theorem few_samples_reduced :
    (∃ y, isUsable y = true ∧ (measureWith 3 .median replay).run [0.75, 0.25, 0.5] = (.ok y, [])) ∧
      reduce? .median [infinity, 0.0, -0.0, -0.0] = reduce? .median [-0.0, 0.0, -0.0, infinity] ∧
      ∃ y, reduce? .min [-0.0, 0.0, -0.0, infinity] = some y ∧
        ∀ x ∈ [-0.0, 0.0, -0.0, infinity], y ≤ x := by
  have hthree : ∀ x ∈ ([0.75, 0.25, 0.5] : List Float), x.isNaN = false := by decide +kernel
  have husable : ∀ x ∈ ([0.75, 0.25, 0.5] : List Float), isUsable x = true := by decide +kernel
  have hzeros : ∀ x ∈ ([-0.0, 0.0, -0.0, infinity] : List Float), x.isNaN = false := by
    decide +kernel
  have hperm : ([infinity, 0.0, -0.0, -0.0] : List Float).Perm [-0.0, 0.0, -0.0, infinity] := by
    decide +kernel
  have hruns : Yields replay [0.75, 0.25, 0.5] [0.75, 0.25, 0.5] [] :=
    .more rfl (.more rfl (.more rfl (.none [])))
  obtain ⟨-, -, -, -, hmeasured⟩ := reductions_of_numbers (by simp) hthree
  obtain ⟨⟨y, hmin, -, hle⟩, hmedian, -⟩ := reductions_of_numbers (by simp) hzeros
  exact ⟨hmeasured husable .median (.inr ⟨rfl, rfl⟩) _ replay _ _ hruns, hmedian _ hperm,
    y, hmin, hle⟩

end Reduction

end GuardCost
