/-
GuardCost/Proofs/RatioWidths.lean

The width of the ratio table.  A double is less than `2 ^ 1024`, so a ratio takes
a few hundred characters at most (`length_fixed_le`), and the headings are texts of
the program.  Only the names of the programs are of any length:

    the ratio table cannot be laid out  <->  the name of some row is too wide

(`layOut?_table_eq_none_iff`).
-/
import GuardCost.Proofs.DoubleOrder
import GuardCost.Proofs.TableColumns

namespace GuardCost

/-! ### Lengths of numbers -/

namespace Decimal

/-- The length of what is less than a power of ten. -/
theorem length_digits_le {n e : Nat} (he : 0 < e) (h : n < 10 ^ e) : (digits n).length ≤ e := by
  rw [digits, String.length_ofList]
  exact Nat.toDigits_length 10 n e he h

theorem length_withPlaces_le (whole places : String) :
    (withPlaces whole places).length ≤ whole.length + places.length + 1 := by
  unfold withPlaces
  split
  · omega
  · rw [String.length_append, String.length_append, show ".".length = 1 from rfl]
    omega

theorem length_zeros (n : Nat) : (zeros n).length = n := by
  rw [zeros, String.length_ofList, List.length_replicate]

theorem length_padRight (n : Nat) (s : String) : (padRight n s).length = max n s.length := by
  rw [padRight, String.length_append, length_zeros]
  omega

/-- A number of units is written with zeros in front of its digits, and a point. -/
theorem length_writeScaled_le (places : Nat) {n e : Nat} (he : 0 < e) (h : n < 10 ^ e) :
    (writeScaled places n).length ≤ 2 * places + e + 2 := by
  have hdigits := length_digits_le he h
  -- the text with zeros in front, so that there is a digit before the point
  let padded := zeros (places + 1 - (digits n).length) ++ digits n
  have hpadded : padded.length = max (places + 1) (digits n).length := by
    rw [String.length_append, length_zeros]
    omega
  show (positional places padded ((padded.length : Int) - places)).length ≤ _
  have hinside : ¬ (padded.length : Int) - places ≤ 0 := by omega
  rw [positional, if_neg hinside]
  split
  · next hle =>
    have hplaces : places = 0 := by omega
    refine (length_withPlaces_le _ _).trans ?_
    rw [String.length_append, length_zeros, length_zeros, hpadded]
    omega
  · refine (length_withPlaces_le _ _).trans ?_
    rw [length_padRight, String.length_ofList, String.length_ofList, List.length_take,
      List.length_drop, String.length_toList, hpadded]
    omega

theorem roundDiv_le (num den : Nat) : roundDiv num den ≤ num / den + 1 := by
  unfold roundDiv
  dsimp only
  split_ifs <;> omega

theorem power_two_le {e : Int} {k : Nat} (h : e ≤ k) : (power 2 e).1 ≤ 2 ^ k := by
  unfold power
  split
  · exact Nat.pow_le_pow_right (by decide) (by omega)
  · exact Nat.one_le_two_pow

/-- A finite double counts less than `10 ^ 400` thousandths. -/
theorem roundDiv_lt_of_isNumber {negative : Bool} {m : Nat} {e : Int}
    (h : (Binary64.View.finite negative m e).IsNumber) :
    roundDiv (m * (power 2 e).1 * Nat.pow 10 3) (power 2 e).2 < 10 ^ 400 := by
  cases h with | finite _ hm _ hle _
  have hnum : (power 2 e).1 ≤ 2 ^ 971 := power_two_le hle
  calc
    roundDiv (m * (power 2 e).1 * Nat.pow 10 3) (power 2 e).2
      ≤ m * (power 2 e).1 * Nat.pow 10 3 / (power 2 e).2 + 1 := roundDiv_le _ _
    _ ≤ m * (power 2 e).1 * Nat.pow 10 3 + 1 := Nat.add_le_add_right (Nat.div_le_self _ _) 1
    _ ≤ 2 * Binary64.hiddenBit * 2 ^ 971 * Nat.pow 10 3 + 1 :=
      Nat.add_le_add_right (Nat.mul_le_mul_right _ (Nat.mul_le_mul hm.le hnum)) 1
    _ < 10 ^ 400 := by decide +kernel

theorem length_signed_le (negative : Bool) (s : String) :
    (signed negative s).length ≤ s.length + 1 := by
  unfold signed
  split
  · rw [String.length_append, show "-".length = 1 from rfl]
    omega
  · omega

/-- No double is long with three places. -/
theorem length_fixed_le (x : Float) : (fixed 3 x).length ≤ 500 := by
  have hbits : x.toBits.toNat < 2 * Binary64.signBit := x.toBits.toNat_lt
  unfold fixed
  cases hview : Binary64.view x with
  | nan => decide
  | infinite negative => cases negative <;> decide
  | finite negative m e =>
    have hnumber := (Binary64.viewBits_cases hbits (by rw [← Binary64.view, hview]; simp)).1
    rw [← Binary64.view, hview] at hnumber
    have hlength := length_writeScaled_le 3 (by decide) (roundDiv_lt_of_isNumber hnumber)
    have hsigned := length_signed_le negative
      (writeScaled 3 (roundDiv (m * (power 2 e).1 * Nat.pow 10 3) (power 2 e).2))
    dsimp only
    omega

end Decimal

/-! ### The ratio table -/

theorem Column.width_label_le (c : Column) : Table.width c.label ≤ 100 := by
  cases c with
  | native => decide
  | variant v => cases v <;> decide

namespace Report

open Table

theorem width_shownRatio_le (x? : Option Float) : width (shownRatio x?) ≤ 500 := by
  cases x? with
  | none => exact Nat.zero_le _
  | some x => exact Decimal.length_fixed_le x

/-- What stands in the ratio table is narrow, up to the names of the programs. -/
theorem narrow_or_name_of_mem_column {r : Report} {i : Nat} {s : String}
    (h : s ∈ r.table.column i) : width s ≤ 500 ∨ ∃ row ∈ r.rows, s = row.program := by
  rcases List.mem_append.1 h with hheader | hcell
  · have hs : s ∈ r.headers := List.mem_of_getElem? (Option.mem_toList.1 hheader)
    rcases List.mem_cons.1 hs with rfl | hs
    · exact .inl (by decide)
    · obtain ⟨c, -, rfl⟩ := List.mem_map.1 hs
      exact .inl (c.width_label_le.trans (by decide))
  · obtain ⟨cells, hcells, hs⟩ := List.mem_filterMap.1 hcell
    obtain ⟨row, hrow, rfl⟩ := List.mem_map.1 hcells
    rcases List.mem_cons.1 (List.mem_of_getElem? hs) with rfl | hs
    · exact .inr ⟨row, hrow, rfl⟩
    · obtain ⟨x?, -, rfl⟩ := List.mem_map.1 hs
      exact .inl (width_shownRatio_le x?)

/-- **The ratio table cannot be laid out just if a name in it is too wide.** -/
theorem layOut?_table_eq_none_iff (r : Report) :
    r.table.layOut? = none ↔ ∃ row ∈ r.rows, widthLimit < width row.program := by
  rw [layOut?_eq_none_iff]
  constructor
  · rintro ⟨i, -, hwide⟩
    by_contra hnarrow
    have hle : r.table.columnWidth i ≤ widthLimit := by
      refine widest_le fun s hs => ?_
      rcases narrow_or_name_of_mem_column hs with hs | ⟨row, hrow, rfl⟩
      · exact hs.trans (by decide)
      · exact Nat.le_of_not_lt fun h => hnarrow ⟨row, hrow, h⟩
    exact Nat.not_lt_of_le hle hwide
  · rintro ⟨row, hrow, hwide⟩
    have hmem : row.program :: row.cells.map shownRatio ∈ r.table.rows :=
      List.mem_map.2 ⟨row, hrow, rfl⟩
    exact ⟨0, Nat.succ_pos _, hwide.trans_le (r.table.width_cell_le hmem 0)⟩

end Report

end GuardCost
