/-
GuardCost/Proofs/Chains.lean

Chains and lists.  A chain of parts that may fail ends well if each part does
(`bind_eq_ok_iff`), and fails where the first of them does
(`bind_eq_error_iff`).  Besides, a list is split in one way at its first and at
its last separator, a member is found by a key that no other one has, and what
holds of all members holds of one of them and of the others.
-/
import Mathlib.Data.List.Basic
import Mathlib.Tactic.Tauto

namespace GuardCost

/-! ### Chains -/

section
variable {ε α β : Type} {x : Except ε α} {f : α → Except ε β}

/-- A chain succeeds if each of its two parts does. -/
theorem bind_eq_ok_iff {b : β} : (x >>= f) = .ok b ↔ ∃ a, x = .ok a ∧ f a = .ok b := by
  cases x with
  | error e => simp [bind, Except.bind]
  | ok a => simp [bind, Except.bind]

/-- A chain fails where its first part does, or after it. -/
theorem bind_eq_error_iff {e : ε} :
    (x >>= f) = .error e ↔ x = .error e ∨ ∃ a, x = .ok a ∧ f a = .error e := by
  cases x with
  | error e' => simp [bind, Except.bind]
  | ok a => simp [bind, Except.bind]

end

/-! ### Lists -/

section
variable {α : Type} {x : α} {a a' b b' : List α}

/-- A list is split in one way at the first of its separators. -/
theorem append_cons_inj_of_notMem_front (ha : x ∉ a) (ha' : x ∉ a')
    (h : a ++ x :: b = a' ++ x :: b') : a = a' ∧ b = b' := by
  induction a generalizing a' with
  | nil =>
    cases a' with
    | nil => exact ⟨rfl, (List.cons.inj h).2⟩
    | cons y ys => exact absurd ((List.cons.inj h).1 ▸ List.mem_cons_self) ha'
  | cons y ys ih =>
    cases a' with
    | nil => exact absurd ((List.cons.inj h).1 ▸ List.mem_cons_self) ha
    | cons z zs =>
      rw [List.cons_append, List.cons_append] at h
      obtain ⟨rfl, hrest⟩ := List.cons.inj h
      obtain ⟨rfl, hb⟩ := ih (fun hy => ha (List.mem_cons_of_mem _ hy))
        (fun hz => ha' (List.mem_cons_of_mem _ hz)) hrest
      exact ⟨rfl, hb⟩

/-- A list is split in one way at the last of its separators. -/
theorem append_cons_inj_of_notMem_back (hb : x ∉ b) (hb' : x ∉ b')
    (h : a ++ x :: b = a' ++ x :: b') : a = a' ∧ b = b' := by
  have hrev : b.reverse ++ x :: a.reverse = b'.reverse ++ x :: a'.reverse := by
    simpa using congrArg List.reverse h
  obtain ⟨hback, hfront⟩ := append_cons_inj_of_notMem_front
    (fun hx => hb (List.mem_reverse.1 hx)) (fun hx => hb' (List.mem_reverse.1 hx)) hrev
  exact ⟨List.reverse_inj.1 hfront, List.reverse_inj.1 hback⟩

end

/-- What is found by a key that no two members share. -/
theorem find?_key_eq_some_iff {α β : Type} [BEq β] [LawfulBEq β] (key : α → β) {k : β} {xs : List α}
    {x : α} (hinj : ∀ a ∈ xs, ∀ b ∈ xs, key a = k → key b = k → a = b) :
    (xs.find? fun a => key a == k) = some x ↔ x ∈ xs ∧ key x = k := by
  constructor
  · intro h
    exact ⟨List.mem_of_find?_eq_some h, by simpa using List.find?_some h⟩
  · rintro ⟨hmem, hkey⟩
    cases h : xs.find? fun a => key a == k with
    | none => exact absurd (List.find?_eq_none.1 h x hmem) (by simp [hkey])
    | some y =>
      have hy : key y = k := by simpa using List.find?_some h
      rw [hinj y (List.mem_of_find?_eq_some h) x hmem hy hkey]

/-- What holds of a member and of the others holds of all. -/
theorem forall_mem_insert_iff {α : Type} {p : α → Prop} {a : α} {front back : List α} :
    (∀ x ∈ front ++ a :: back, p x) ↔ p a ∧ ∀ x ∈ front ++ back, p x := by
  simp only [List.forall_mem_append, List.forall_mem_cons]
  tauto

end GuardCost
