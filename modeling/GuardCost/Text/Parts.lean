/-
GuardCost/Text/Parts.lean

Parts of a sequence, for characters and bytes alike.  `partsAt` splits at
every separator, so a sequence with `n` separators has `n + 1` parts, and
`joinWith` is its inverse on parts that are free of the separator.
-/
namespace GuardCost

variable {α : Type} [DecidableEq α]

/-- The parts between the separators; there is always one. -/
def partsAt (sep : α) : List α → List (List α)
  | [] => [[]]
  | x :: rest =>
    if x = sep then [] :: partsAt sep rest
    else match partsAt sep rest with
      | [] => [[x]]
      | part :: parts => (x :: part) :: parts

/-- The parts with a separator sequence between them. -/
def joinWith (sep : List α) : List (List α) → List α
  | [] => []
  | [part] => part
  | part :: next :: parts => part ++ sep ++ joinWith sep (next :: parts)

/-- What stands before and after the first separator, if there is one. -/
def splitFirst? (sep : α) : List α → Option (List α × List α)
  | [] => none
  | x :: rest =>
    if x = sep then some ([], rest)
    else (splitFirst? sep rest).map fun (before, after) => (x :: before, after)

/-- What stands before and after the last separator, if there is one. -/
def splitLast? (sep : α) (xs : List α) : Option (List α × List α) :=
  (splitFirst? sep xs.reverse).map fun (after, before) => (before.reverse, after.reverse)

/-- Whether `part` occurs as a contiguous piece. -/
def hasInfix (part : List α) : List α → Bool
  | [] => part.isEmpty
  | x :: rest => part.isPrefixOf (x :: rest) || hasInfix part rest

/-- What follows from the first occurrence of `part` on, itself included. -/
def fromFirst? (part : List α) : List α → Option (List α)
  | [] => if part.isEmpty then some [] else none
  | x :: rest =>
    if part.isPrefixOf (x :: rest) then some (x :: rest) else fromFirst? part rest

omit [DecidableEq α] in
@[simp] theorem joinWith_singleton (sep part : List α) : joinWith sep [part] = part := rfl

theorem partsAt_ne_nil (sep : α) (xs : List α) : partsAt sep xs ≠ [] := by
  cases xs with
  | nil => simp [partsAt]
  | cons x rest =>
    simp only [partsAt]
    split
    · simp
    · split <;> simp

/-- Joining the parts gives the sequence back. -/
theorem joinWith_partsAt (sep : α) (xs : List α) : joinWith [sep] (partsAt sep xs) = xs := by
  induction xs with
  | nil => rfl
  | cons x rest ih =>
    obtain ⟨part, parts, hp⟩ := List.exists_cons_of_ne_nil (partsAt_ne_nil sep rest)
    simp only [partsAt, hp]
    rw [hp] at ih
    split
    · next h => subst h; simp [joinWith, ih]
    · cases parts with
      | nil => simpa [joinWith] using ih
      | cons next parts => simpa [joinWith] using ih

end GuardCost
