/-
GuardCost/Proofs/TextPaths.lean

Paths that are texts.  A path is kept as text by decoding it, and what is not
UTF-8 is lost on the way (`Bytes.ofString_lossy_iff`).  A slash is never part of a
larger character, so the parts of a text are texts

    parts of the bytes of s  =  the bytes of the parts of s          (partsAt_ofString)

and the absolute form of a text is one wherever the current directory is named by
one (`isText_of_absolute`).
-/
import GuardCost.Proofs.NamedFiles

namespace GuardCost

/-! ### Bytes of texts -/

namespace Bytes

/-- The bytes of a text. -/
def IsText (b : Bytes) : Prop := ∃ s, b = ofString s

/-- Only a text is the same after it was decoded. -/
theorem ofString_lossy_iff {b : Bytes} : ofString (lossy b) = b ↔ IsText b := by
  constructor
  · intro h
    exact ⟨lossy b, h.symm⟩
  · rintro ⟨s, rfl⟩
    rw [lossy, decode?_ofString]

theorem ofString_ofList (cs : List Char) :
    ofString (String.ofList cs) = cs.flatMap String.utf8EncodeChar := by
  rw [ofString_eq, String.toList_ofList]

/-- A slash at the start stays there, whatever comes after it. -/
theorem head?_ofString_lossy {b : Bytes} (h : b.head? = some slash) :
    (ofString (lossy b)).head? = some slash := by
  cases hdecode : decode? b with
  | some s =>
    rw [ofString_lossy_iff.2 ⟨s, decode?_eq_some.1 hdecode⟩]
    exact h
  | none =>
    obtain ⟨rest, rfl⟩ := List.head?_eq_some_iff.1 h
    have hslash : replaceInvalid (slash :: rest) = '/' :: replaceInvalid rest := by
      rw [replaceInvalid]
      rfl
    rw [lossy, hdecode]
    dsimp only
    rw [hslash, ofString_ofList]
    rfl

theorem isText_append {b c : Bytes} (hb : IsText b) (hc : IsText c) : IsText (b ++ c) := by
  obtain ⟨s, rfl⟩ := hb
  obtain ⟨t, rfl⟩ := hc
  exact ⟨s ++ t, (ofString_append s t).symm⟩

theorem isText_slash : IsText [slash] := ⟨"/", rfl⟩

end Bytes

/-! ### Parts of texts -/

theorem partsAt_joinWith {α : Type} [DecidableEq α] {sep : α} {parts : List (List α)}
    (hne : parts ≠ []) (h : ∀ part ∈ parts, sep ∉ part) :
    partsAt sep (joinWith [sep] parts) = parts := by
  induction parts with
  | nil => exact absurd rfl hne
  | cons part rest ih =>
    have hpart := partsAt_of_notMem (h part List.mem_cons_self)
    cases rest with
    | nil => exact hpart
    | cons next more =>
      have hrest := ih (List.cons_ne_nil _ _) fun p hp => h p (List.mem_cons_of_mem _ hp)
      rw [joinWith, List.append_assoc, List.singleton_append, partsAt_append, hpart, hrest]
      rfl

theorem flatMap_joinWith {α β : Type} (f : α → List β) (sep : List α) (parts : List (List α)) :
    (joinWith sep parts).flatMap f = joinWith (sep.flatMap f) (parts.map (·.flatMap f)) := by
  induction parts with
  | nil => rfl
  | cons part rest ih =>
    cases rest with
    | nil => rfl
    | cons next more =>
      rw [joinWith, List.flatMap_append, List.flatMap_append, ih]
      rfl

/-- The parts of the bytes of a text are the bytes of its parts. -/
theorem partsAt_ofString (s : String) : partsAt Bytes.slash (Bytes.ofString s) =
    (partsAt '/' s.toList).map fun part => Bytes.ofString (String.ofList part) := by
  have hjoin : Bytes.ofString s = joinWith [Bytes.slash]
      ((partsAt '/' s.toList).map fun part => Bytes.ofString (String.ofList part)) := by
    conv_lhs => rw [Bytes.ofString_eq, ← joinWith_partsAt '/' s.toList, flatMap_joinWith]
    simp only [Bytes.ofString_ofList]
    rfl
  rw [hjoin]
  refine partsAt_joinWith ?_ fun part hpart => ?_
  · simpa using partsAt_ne_nil '/' s.toList
  · obtain ⟨cs, hcs, rfl⟩ := List.mem_map.1 hpart
    intro hslash
    have hmem := Bytes.mem_of_slash_mem_ofString hslash
    rw [String.toList_ofList] at hmem
    exact notMem_of_mem_partsAt hcs hmem

namespace Path

theorem isText_of_mem_steps {p : Path} (hp : p.bytes.IsText) {step : Bytes}
    (hstep : step ∈ p.steps) : step.IsText := by
  obtain ⟨s, hs⟩ := hp
  have hpart := (List.mem_filter.1 hstep).1
  rw [parts, hs, partsAt_ofString] at hpart
  obtain ⟨cs, -, rfl⟩ := List.mem_map.1 hpart
  exact ⟨_, rfl⟩

theorem isText_spelled {double slash : Bool} {steps : List Bytes}
    (hsteps : ∀ step ∈ steps, step.IsText) : (spelled double steps slash).bytes.IsText := by
  have hnil : Bytes.IsText [] := ⟨"", rfl⟩
  have hflat : Bytes.IsText (steps.flatMap fun step => Bytes.slash :: step) := by
    induction steps with
    | nil => exact hnil
    | cons step rest ih =>
      rw [List.flatMap_cons]
      refine Bytes.isText_append ?_ (ih fun s hs => hsteps s (List.mem_cons_of_mem _ hs))
      exact Bytes.isText_append Bytes.isText_slash (hsteps step List.mem_cons_self)
  refine Bytes.isText_append (Bytes.isText_append ?_ hflat) ?_ <;> split
  · exact Bytes.isText_slash
  · exact hnil
  · exact Bytes.isText_slash
  · exact hnil

/-- **The absolute form of a text is a text where the current directory is named by
one.** -/
theorem isText_of_absolute {here : Location} (hhere : ∀ name ∈ here, IsStep name) {p q : Path}
    (hq : absolutePath (.ok here.path) p = .ok q) (hp : p.bytes.IsText)
    (hcurrent : here.path.bytes.IsText) : q.bytes.IsText := by
  rw [eq_spelled_of_absolutePath hhere hq]
  refine isText_spelled fun step hstep => ?_
  have hnames : here.path.steps = here := by
    rw [Location.path_eq_spelled, steps_spelled hhere]
  -- each step is one of the path itself or of the current directory
  unfold allSteps at hstep
  split at hstep
  · exact isText_of_mem_steps hp hstep
  · rcases List.mem_append.1 hstep with hstep | hstep
    · exact isText_of_mem_steps hcurrent (hnames.symm ▸ hstep)
    · exact isText_of_mem_steps hp hstep

end Path

end GuardCost
