/-
GuardCost/Proofs/MetricTables.lean

Tables with text keys.  An update makes a new value of the old one at its key
(`get?_update_self`) and is not seen at any other (`get?_update_ne`); the keys
stay in ascending order (`ascending_update`).

Only one table in ascending order has given values (`eq_of_get?`).  So entries
that are met in some other order are found in the same way (`get?_of_perm`),
and sorting them by the bytes of their keys gives the table back
(`byBytes_of_perm`).
-/
import GuardCost.Metrics.Store
import GuardCost.Proofs.ByteOrder
import Mathlib.Data.List.Nodup

namespace GuardCost

/-! ### Tables -/

namespace Sorted

variable {α : Type} {key key' : String} {x : α} {table table' : List (String × α)}

@[simp] theorem get?_nil (key : String) : get? key ([] : List (String × α)) = none := rfl

theorem get?_cons (key : String) (e : String × α) (table : List (String × α)) :
    get? key (e :: table) = if key = e.1 then some e.2 else get? key table := by
  rw [get?, get?, List.lookup_cons]
  by_cases h : key = e.1
  · rw [if_pos h, beq_iff_eq.2 h]
  · rw [if_neg h, beq_eq_false_iff_ne.2 h]

theorem mem_of_get? (h : get? key table = some x) : (key, x) ∈ table := by
  obtain ⟨before, after, rfl, -⟩ := List.lookup_eq_some_iff.1 h
  exact List.mem_append_right _ List.mem_cons_self

/-- If no key has two entries, an entry is what is found at its key. -/
theorem get?_eq_some_iff (hnd : (table.map Prod.fst).Nodup) :
    get? key table = some x ↔ (key, x) ∈ table := by
  refine ⟨mem_of_get?, fun h => ?_⟩
  induction table with
  | nil => cases h
  | cons e rest ih =>
    obtain ⟨he, hrest⟩ := List.nodup_cons.1 hnd
    rw [get?_cons]
    rcases List.mem_cons.1 h with rfl | h
    · exact if_pos rfl
    · have hne : key ≠ e.1 := by
        intro hkey
        exact he (hkey ▸ List.mem_map_of_mem h)
      rw [if_neg hne]
      exact ih hrest h

/-- The order of the entries does not matter for what is found. -/
theorem get?_of_perm (hnd : (table.map Prod.fst).Nodup) (h : table'.Perm table) (key : String) :
    get? key table' = get? key table := by
  have hnd' : (table'.map Prod.fst).Nodup := (h.map Prod.fst).nodup_iff.2 hnd
  apply Option.ext
  intro x
  rw [get?_eq_some_iff hnd', get?_eq_some_iff hnd, h.mem_iff]

/-! ### Updates -/

theorem mem_update {change : Option α → α} {e : String × α} (h : e ∈ update key change table) :
    e.1 = key ∨ e ∈ table := by
  induction table with
  | nil => exact .inl (congrArg Prod.fst (List.mem_singleton.1 h))
  | cons e' rest ih =>
    rw [update] at h
    split_ifs at h with heq hlt
    · rcases List.mem_cons.1 h with rfl | h
      · exact .inl heq.symm
      · exact .inr (List.mem_cons_of_mem _ h)
    · rcases List.mem_cons.1 h with rfl | h
      · exact .inl rfl
      · exact .inr h
    · rcases List.mem_cons.1 h with rfl | h
      · exact .inr List.mem_cons_self
      · exact (ih h).imp_right (List.mem_cons_of_mem _)

/-- Nothing is found in front of the first key. -/
theorem get?_eq_none (h : ∀ e ∈ table, key < e.1) : get? key table = none := by
  cases hget : get? key table with
  | none => rfl
  | some x => exact absurd (h _ (mem_of_get? hget)) (lt_irrefl key)

/-- An update leaves all other keys alone. -/
theorem get?_update_ne (change : Option α → α) (h : key' ≠ key) :
    get? key' (update key change table) = get? key' table := by
  induction table with
  | nil => rw [update, get?_cons, if_neg h]
  | cons e rest ih =>
    rw [update]
    split_ifs with heq hlt
    · rw [get?_cons, get?_cons, ← heq, if_neg h, if_neg h]
    · rw [get?_cons, if_neg h]
    · rw [get?_cons, get?_cons, ih]

/-- An update changes what is found at its key. -/
theorem get?_update_self (hasc : Ascending table) (change : Option α → α) :
    get? key (update key change table) = some (change (get? key table)) := by
  induction table with
  | nil => rw [update, get?_cons, if_pos rfl, get?_nil]
  | cons e rest ih =>
    obtain ⟨hfirst, hrest⟩ := List.pairwise_cons.1 hasc
    rw [update]
    split_ifs with heq hlt
    · rw [get?_cons, get?_cons, if_pos heq, if_pos heq]
    · -- the key comes before all others, so it is new
      have hnone : get? key (e :: rest) = none := by
        apply get?_eq_none
        intro e' he'
        rcases List.mem_cons.1 he' with rfl | he'
        · exact hlt
        · exact lt_trans hlt (hfirst e' he')
      rw [get?_cons, if_pos rfl, hnone]
    · rw [get?_cons, get?_cons, if_neg heq, if_neg heq]
      exact ih hrest

theorem ascending_update (hasc : Ascending table) (change : Option α → α) :
    Ascending (update key change table) := by
  induction table with
  | nil => exact List.pairwise_singleton _ _
  | cons e rest ih =>
    obtain ⟨hfirst, hrest⟩ := List.pairwise_cons.1 hasc
    rw [update]
    split_ifs with heq hlt
    · exact List.pairwise_cons.2 ⟨hfirst, hrest⟩
    · refine List.pairwise_cons.2 ⟨fun e' he' => ?_, hasc⟩
      rcases List.mem_cons.1 he' with rfl | he'
      · exact hlt
      · exact lt_trans hlt (hfirst e' he')
    · refine List.pairwise_cons.2 ⟨fun e' he' => ?_, ih hrest⟩
      rcases mem_update he' with hkey | he'
      · rw [hkey]
        exact lt_of_le_of_ne (not_lt.1 hlt) (Ne.symm heq)
      · exact hfirst e' he'

/-! ### Order -/

theorem Ascending.nodup (h : Ascending table) : (table.map Prod.fst).Nodup := by
  rw [List.nodup_iff_pairwise_ne, List.pairwise_map]
  exact h.imp ne_of_lt

/-- Only one table in ascending order has given entries. -/
theorem Ascending.eq_of_perm (h : Ascending table) (h' : Ascending table')
    (hperm : table'.Perm table) : table' = table :=
  hperm.eq_of_pairwise (fun _ _ _ _ hlt hgt => absurd hlt (lt_asymm hgt)) h' h

/-- What is found at each key determines a table in ascending order. -/
theorem eq_of_get? (h : Ascending table) (h' : Ascending table')
    (hget : ∀ key, get? key table' = get? key table) : table' = table := by
  apply h.eq_of_perm h'
  rw [List.perm_ext_iff_of_nodup (List.Nodup.of_map _ h'.nodup)
    (List.Nodup.of_map _ h.nodup)]
  rintro ⟨key, x⟩
  rw [← get?_eq_some_iff h'.nodup, ← get?_eq_some_iff h.nodup, hget]

/-- The entries in the order of the bytes of their keys. -/
def byBytes (table : List (String × α)) : List (String × α) :=
  table.mergeSort fun a b => decide (¬ Bytes.ofString b.1 < Bytes.ofString a.1)

/-- Sorting finds the table again, in whatever order its entries are met. -/
theorem byBytes_of_perm (h : Ascending table) (hperm : table'.Perm table) :
    byBytes table' = table := by
  have hle : ∀ a b : String × α,
      decide (¬ Bytes.ofString b.1 < Bytes.ofString a.1) = true ↔ a.1 ≤ b.1 := by
    intro a b
    rw [decide_eq_true_iff, Bytes.ofString_lt_iff, not_lt]
  have hsorted : (byBytes table').Pairwise fun a b => a.1 ≤ b.1 := by
    refine List.Pairwise.imp (fun {a b} => (hle a b).1) (List.pairwise_mergeSort ?_ ?_ table')
    · intro a b c hab hbc
      exact (hle a c).2 (le_trans ((hle a b).1 hab) ((hle b c).1 hbc))
    · intro a b
      rw [Bool.or_eq_true, hle, hle]
      exact le_total _ _
  have hfound : (byBytes table').Perm table := (List.mergeSort_perm _ _).trans hperm
  apply hfound.eq_of_pairwise _ hsorted (h.imp le_of_lt)
  -- two entries with the same key are one
  intro a b ha hb hab hba
  have hkey : a.1 = b.1 := le_antisymm hab hba
  exact List.inj_on_of_nodup_map h.nodup (hfound.mem_iff.1 ha) hb hkey

end Sorted

end GuardCost
