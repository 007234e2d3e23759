/-
GuardCost/Proofs/Floors.lean

Workers on one machine.  A *floor* is a machine and workers, each in a state of
its own; in a move some worker acts (`Floor.Move`), and a run is any sequence of
moves.  The workers are *separate* if each keeps to an area of the machine and
acts in the same way whatever happens in the areas of the others
(`Floor.Separate`).  Then a run of the floor is, for each worker, a run of that
worker alone, but for the areas of the others:

    start ⟶* f   →   ∃ g,  (start.states i, start.world) ⟶*ᵢ (f.states i, g)
                         and g = f.world outside of the others' areas
                                                              (solo_of_run)

If moreover the areas are disjoint and each worker alone can end in one way
only, then the floor can end in one way only (`agree`).
-/
import GuardCost.Proofs.Alike
import Mathlib.Logic.Function.Basic
import Mathlib.Logic.Relation

namespace GuardCost

open Relation

/-- What a worker can make of its state and the machine. -/
abbrev Acts (σ : Type) := σ × World → σ × World → Prop

/-- Workers on one machine. -/
structure Floor (ι σ : Type) where
  world : World
  states : ι → σ

namespace Floor

variable {ι σ : Type} [DecidableEq ι]

/-- The floor on which one worker has got somewhere. -/
def advance (f : Floor ι σ) (i : ι) (after : σ × World) : Floor ι σ :=
  ⟨after.2, Function.update f.states i after.1⟩

/-- The state of a worker, and the machine. -/
def worker (f : Floor ι σ) (i : ι) : σ × World := (f.states i, f.world)

theorem states_advance_self (f : Floor ι σ) (i : ι) (after : σ × World) :
    (f.advance i after).states i = after.1 :=
  Function.update_self ..

theorem states_advance_ne (f : Floor ι σ) {i j : ι} (h : j ≠ i) (after : σ × World) :
    (f.advance i after).states j = f.states j :=
  Function.update_of_ne h ..

theorem worker_advance (f : Floor ι σ) (i : ι) (after : σ × World) :
    (f.advance i after).worker i = after := by
  simp [worker, advance]

theorem advance_advance (f : Floor ι σ) (i : ι) (after after' : σ × World) :
    (f.advance i after).advance i after' = f.advance i after' := by
  simp [advance]

variable (acts : ι → Acts σ)

/-- One worker acts. -/
inductive Move : Floor ι σ → Floor ι σ → Prop
  | act (f : Floor ι σ) (i : ι) (after : σ × World) (h : acts i (f.worker i) after) :
    Move f (f.advance i after)

/-- The workers act one at a time, in any order. -/
abbrev Run : Floor ι σ → Floor ι σ → Prop := ReflTransGen (Move acts)

/-- A floor on which no worker can act any more. -/
def Idle (f : Floor ι σ) : Prop := ∀ f', ¬ Move acts f f'

variable {acts}

/-- One worker may act all the time. -/
theorem run_of_solo {f : Floor ι σ} {i : ι} {after : σ × World}
    (h : ReflTransGen (acts i) (f.worker i) after) : Run acts f (f.advance i after) := by
  induction h with
  | refl =>
    have hsame : f.advance i (f.worker i) = f := by simp [advance, worker]
    rw [hsame]
  | @tail between after _ hact ih =>
    refine ih.tail ?_
    rw [← worker_advance f i between] at hact
    have hmove := Move.act (f.advance i between) i after hact
    rwa [advance_advance] at hmove

/-! ### Separate workers -/

/-- The areas of the other workers. -/
def others (area : ι → Set Location) (i : ι) : Set Location := {x | ∃ j, j ≠ i ∧ x ∈ area j}

/-- Wherever a worker can get to alone, it keeps to its area, and acts as it
would if the machine differed in the areas of the others. -/
def Separate (acts : ι → Acts σ) (area : ι → Set Location) (start : Floor ι σ) : Prop :=
  ∀ i s g w after, ReflTransGen (acts i) (start.worker i) (s, g) →
    World.Alike (others area i) g w → acts i (s, w) after →
      World.Alike (area i) w after.2 ∧
        ∃ g', acts i (s, g) (after.1, g') ∧ World.Alike (others area i) g' after.2

variable {area : ι → Set Location} {start f f' : Floor ι σ}

/-- **A run of separate workers is a run of each alone**, but for the areas of
the others; and what is in no area stays as it is. -/
theorem solo_of_run (hsep : Separate acts area start) (run : Run acts start f) :
    (∀ i, ∃ g, ReflTransGen (acts i) (start.worker i) (f.states i, g) ∧
        World.Alike (others area i) g f.world) ∧
      World.Alike {x | ∃ i, x ∈ area i} start.world f.world := by
  induction run with
  | refl => exact ⟨fun i => ⟨start.world, .refl, .refl _ _⟩, .refl _ _⟩
  | @tail f _ _ hmove ih =>
    obtain ⟨hsolo, hframe⟩ := ih
    obtain ⟨i, after, hact⟩ := hmove
    obtain ⟨g, hg, halike⟩ := hsolo i
    obtain ⟨hkeep, g', hact', halike'⟩ := hsep i _ _ _ _ hg halike hact
    refine ⟨fun j => ?_, hframe.trans (hkeep.mono fun x hx => ⟨i, hx⟩)⟩
    by_cases hj : j = i
    · subst hj
      refine ⟨g', ?_, halike'⟩
      rw [states_advance_self]
      exact hg.tail hact'
    · -- what the worker does is in the area of another one
      obtain ⟨h, hh, hlike⟩ := hsolo j
      refine ⟨h, ?_, hlike.trans (hkeep.mono fun x hx => ⟨i, fun hi => hj hi.symm, hx⟩)⟩
      rw [states_advance_ne f hj]
      exact hh

/-- **Separate workers can end in one way only**, if the areas are disjoint and
each of them alone can. -/
theorem agree (hsep : Separate acts area start)
    (hdisjoint : ∀ i j x, x ∈ area i → x ∈ area j → i = j) (Ended : ι → σ → Prop)
    (honly : ∀ i s g s' g', ReflTransGen (acts i) (start.worker i) (s, g) →
      ReflTransGen (acts i) (start.worker i) (s', g') → Ended i s → Ended i s' →
        s' = s ∧ World.Alike ∅ g g')
    (run : Run acts start f) (run' : Run acts start f') (hended : ∀ i, Ended i (f.states i))
    (hended' : ∀ i, Ended i (f'.states i)) :
    f'.states = f.states ∧ World.Alike ∅ f.world f'.world := by
  obtain ⟨hsolo, hframe⟩ := solo_of_run hsep run
  obtain ⟨hsolo', hframe'⟩ := solo_of_run hsep run'
  refine ⟨funext fun i => ?_, hframe'.current.trans hframe.current.symm, fun x _ => ?_⟩
  · obtain ⟨g, hg, -⟩ := hsolo i
    obtain ⟨g', hg', -⟩ := hsolo' i
    exact (honly i _ _ _ _ hg hg' (hended i) (hended' i)).1
  · by_cases hx : ∃ i, x ∈ area i
    · obtain ⟨i, hi⟩ := hx
      have hnot : x ∉ others area i := by
        rintro ⟨j, hj, hmem⟩
        exact hj (hdisjoint j i x hmem hi)
      obtain ⟨g, hg, halike⟩ := hsolo i
      obtain ⟨g', hg', halike'⟩ := hsolo' i
      have hsame := (honly i _ _ _ _ hg hg' (hended i) (hended' i)).2
      rw [halike'.node x hnot, hsame.node x (Set.notMem_empty x), halike.node x hnot]
    · rw [hframe'.node x hx, hframe.node x hx]

end Floor

end GuardCost
