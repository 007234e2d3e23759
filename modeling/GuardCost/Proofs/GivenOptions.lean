/-
GuardCost/Proofs/GivenOptions.lean

The options of one level, taken together.  Giving a use looks at the options before
it, and reading a level ends with a look at the pairs that exclude each other.
Both looks come to one condition on the options as a whole (`Opt.Together`): no two
of them exclude each other, where an option that does not repeat excludes itself.
The values are read apart from that, each into its place (`Placed`):

    ofUses uses = ok h  ↔  Together (optionsOf uses)
                             ∧ ∃ g, Placed uses g ∧ h = g.withOptions (optionsOf uses)

Where the values can be read, what is not accepted is a conflict (`Placed.ofUses`),
and the same holds of the two levels of a command line
(`SpellsLine.parse_eq_ok_iff_together`, `SpellsLine.parse_eq_conflict`).
-/
import GuardCost.Proofs.OptionWords
import Mathlib.Data.List.Induction
import Mathlib.Data.List.Pairwise

namespace GuardCost.Cli

/-! ### Options that can be given together -/

namespace Opt

/-- Two uses of options that cannot both be given at one level. -/
def Excludes (a b : Opt) : Prop :=
  (a = b ∧ a.repeats = false) ∨ (a, b) ∈ exclusive ∨ (b, a) ∈ exclusive

instance (a b : Opt) : Decidable (a.Excludes b) :=
  inferInstanceAs (Decidable (_ ∨ _ ∨ _))

/-- Options that can be given at one level, whatever their order. -/
def Together (os : List Opt) : Prop := os.Pairwise fun a b => ¬ a.Excludes b

instance (os : List Opt) : Decidable (Together os) :=
  inferInstanceAs (Decidable (List.Pairwise _ _))

variable {a b o : Opt} {os front back : List Opt}

theorem Excludes.symm (h : a.Excludes b) : b.Excludes a := by
  rcases h with ⟨rfl, h⟩ | h | h
  · exact .inl ⟨rfl, h⟩
  · exact .inr (.inr h)
  · exact .inr (.inl h)

instance : Std.Symm fun a b : Opt => ¬ a.Excludes b := ⟨fun _ _ h h' => h h'.symm⟩

/-- One more option goes together with others just if it excludes none of them. -/
theorem together_insert_iff :
    Together (front ++ o :: back) ↔
      (∀ a ∈ front ++ back, ¬ o.Excludes a) ∧ Together (front ++ back) := by
  have hperm : (front ++ o :: back).Perm (o :: (front ++ back)) := List.perm_middle
  rw [Together, hperm.pairwise_iff fun h h' => h h'.symm, List.pairwise_cons, Together]

/-- Options of which only those are repeated that can be. -/
def Once (os : List Opt) : Prop := os.Pairwise fun a b => ¬ (a = b ∧ a.repeats = false)

theorem once_concat_iff :
    Once (os ++ [o]) ↔ Once os ∧ ¬ (o ∈ os ∧ o.repeats = false) := by
  rw [Once, List.pairwise_append]
  simp only [List.pairwise_singleton, true_and, List.mem_singleton, forall_eq]
  refine and_congr_right fun _ => ⟨?_, ?_⟩
  · rintro h ⟨ho, hrepeats⟩
    exact h o ho ⟨rfl, hrepeats⟩
  · rintro h a ha ⟨rfl, hrepeats⟩
    exact h ⟨ha, hrepeats⟩

/-- Options go together just if none is repeated that cannot be, and no pair that is
listed as exclusive is among them. -/
theorem together_iff : Together os ↔ Once os ∧
      ∀ pair ∈ exclusive, ¬ (pair.1 ∈ os ∧ pair.2 ∈ os) := by
  have hself : ∀ a : Opt, (a, a) ∉ exclusive := by
    intro a
    cases a <;> decide
  constructor
  · intro h
    refine ⟨h.imp fun hab heq => hab (.inl heq), ?_⟩
    · rintro ⟨a, b⟩ hpair ⟨ha, hb⟩
      have hne : a ≠ b := fun heq => hself b (heq ▸ hpair)
      exact h.forall ha hb hne (.inr (.inl hpair))
  · rintro ⟨honce, hpairs⟩
    have hfree : os.Pairwise fun a b => (a, b) ∉ exclusive ∧ (b, a) ∉ exclusive :=
      List.pairwise_of_forall_mem_list fun a ha b hb =>
        ⟨fun h => hpairs _ h ⟨ha, hb⟩, fun h => hpairs _ h ⟨hb, ha⟩⟩
    refine (honce.and hfree).imp ?_
    rintro a b ⟨honce, hab, hba⟩ (h | h | h)
    · exact honce h
    · exact hab h
    · exact hba h

end Opt

/-! ### Values in their places -/

namespace Given

variable {g h : Given} {os : List Opt} {o : Opt} {word : Bytes} {uses : List Use}

/-- The same values, with other options given. -/
def withOptions (g : Given) (os : List Opt) : Given := { g with options := os }

@[simp] theorem has_withOptions (g : Given) (os : List Opt) (o : Opt) :
    (g.withOptions os).has o = decide (o ∈ os) := rfl

/-- Reading a value does not look at the options before it. -/
theorem place_withOptions (g : Given) (os : List Opt) (o : Opt) (word : Bytes) :
    (g.withOptions os).place o word = (fun h => h.withOptions os) <$> g.place o word := by
  cases o <;> simp only [place, map_bind, map_pure] <;> rfl

/-- Read values into their places, one after the other. -/
def placeAll (g : Given) (uses : List Use) : Except UsageError Given :=
  uses.foldlM (fun g use => g.place use.1 use.2) g

theorem set_withOptions (hhelp : o ≠ .help) (hversion : o ≠ .version) :
    (g.withOptions os).set o word =
      if o ∈ os ∧ o.repeats = false then .error (.conflict o o)
      else (fun h => h.withOptions (os ++ [o])) <$> g.place o word := by
  have hset : (g.withOptions os).set o word =
      if (g.withOptions os).has o && !o.repeats then .error (.conflict o o)
      else (g.withOptions os).place o word >>= fun h =>
        .ok { h with options := h.options ++ [o] } := by
    cases o <;> first | rfl | exact absurd rfl hhelp | exact absurd rfl hversion
  rw [hset, place_withOptions, bind_map_left]
  simp only [has_withOptions, Bool.and_eq_true, decide_eq_true_iff, Bool.not_eq_true']
  split
  · rfl
  · cases g.place o word <;> rfl

/-- An option that is given does not ask for help, and its value can be read. -/
theorem exists_place (hset : (g.withOptions os).set o word = .ok h) :
    (o ≠ .help ∧ o ≠ .version) ∧
      ∃ g₁, g.place o word = .ok g₁ ∧ h = g₁.withOptions (os ++ [o]) := by
  have hplain : o ≠ .help ∧ o ≠ .version := by
    constructor <;> rintro rfl <;> cases hset
  refine ⟨hplain, ?_⟩
  rw [set_withOptions hplain.1 hplain.2] at hset
  split at hset
  · cases hset
  · cases hplace : g.place o word with
    | error e =>
      rw [hplace] at hset
      cases hset
    | ok g₁ =>
      rw [hplace] at hset
      cases hset
      exact ⟨g₁, rfl, rfl⟩

theorem setAll_concat (g : Given) (uses : List Use) (use : Use) :
    g.setAll (uses ++ [use]) = g.setAll uses >>= fun g => g.set use.1 use.2 := by
  simp only [setAll_append, setAll_singleton]

end Given

/-- Uses whose values can be read into their places; none of them asks for the help
or for the version. -/
structure Placed (uses : List Use) (g : Given) : Prop where
  plain : ∀ use ∈ uses, use.1 ≠ .help ∧ use.1 ≠ .version
  placeAll : ({} : Given).placeAll uses = .ok g

/-- The options of uses. -/
def optionsOf (uses : List Use) : List Opt := uses.map Prod.fst

section
variable {uses : List Use} {use : Use} {g h : Given}

theorem Placed.nil : Placed [] {} := ⟨nofun, rfl⟩

theorem placed_concat_iff : Placed (uses ++ [use]) h ↔
    (use.1 ≠ .help ∧ use.1 ≠ .version) ∧ ∃ g, Placed uses g ∧ g.place use.1 use.2 = .ok h := by
  have hplace : ({} : Given).placeAll (uses ++ [use]) =
      ({} : Given).placeAll uses >>= fun g => g.place use.1 use.2 := by
    rw [Given.placeAll, List.foldlM_append]
    simp only [List.foldlM_cons, List.foldlM_nil, bind_pure]
    rfl
  constructor
  · rintro ⟨hplain, hall⟩
    rw [hplace, bind_eq_ok_iff] at hall
    obtain ⟨g, hg, hstep⟩ := hall
    exact ⟨hplain use (by simp), g, ⟨fun u hu => hplain u (by simp [hu]), hg⟩, hstep⟩
  · rintro ⟨huse, g, ⟨hplain, hg⟩, hstep⟩
    refine ⟨fun u hu => ?_, by rw [hplace, hg]; exact hstep⟩
    rcases List.mem_append.1 hu with hu | hu
    · exact hplain u hu
    · exact List.mem_singleton.1 hu ▸ huse

/-- What can be given can be read into its place. -/
theorem exists_placed (hset : ({} : Given).setAll uses = .ok h) :
    ∃ g, Placed uses g ∧ h = g.withOptions (optionsOf uses) := by
  induction uses using List.reverseRecOn generalizing h with
  | nil =>
    cases hset
    exact ⟨{}, .nil, rfl⟩
  | append_singleton uses use ih =>
    rw [Given.setAll_concat, bind_eq_ok_iff] at hset
    obtain ⟨h₁, hset, hstep⟩ := hset
    obtain ⟨g, hplaced, rfl⟩ := ih hset
    obtain ⟨hplain, g₁, hplace, rfl⟩ := Given.exists_place hstep
    exact ⟨g₁, placed_concat_iff.2 ⟨hplain, g, hplaced, hplace⟩, by simp [optionsOf]⟩

/-- What can be read into its place can be given, unless an option is repeated. -/
theorem Placed.setAll (hplaced : Placed uses g) :
    (Opt.Once (optionsOf uses) ∧ ({} : Given).setAll uses = .ok (g.withOptions (optionsOf uses))) ∨
      (¬ Opt.Once (optionsOf uses) ∧ ∃ o, ({} : Given).setAll uses = .error (.conflict o o)) := by
  induction uses using List.reverseRecOn generalizing g with
  | nil =>
    cases hplaced.placeAll
    exact .inl ⟨.nil, rfl⟩
  | append_singleton uses use ih =>
    obtain ⟨hplain, g₁, hfront, hplace⟩ := placed_concat_iff.1 hplaced
    have hoptions : optionsOf (uses ++ [use]) = optionsOf uses ++ [use.1] := by simp [optionsOf]
    rw [hoptions, Given.setAll_concat, Opt.once_concat_iff]
    rcases ih hfront with ⟨honce, hset⟩ | ⟨honce, o, hset⟩
    · rw [hset]
      show _ ∧ (g₁.withOptions _).set _ _ = _ ∨ _ ∧ ∃ o, (g₁.withOptions _).set _ _ = _
      rw [Given.set_withOptions hplain.1 hplain.2, hplace]
      split
      · next hclash => exact .inr ⟨fun h => h.2 hclash, use.1, rfl⟩
      · next hclash => exact .inl ⟨⟨honce, hclash⟩, rfl⟩
    · rw [hset]
      exact .inr ⟨fun h => honce h.1, o, rfl⟩

/-! ### A level -/

namespace Given

theorem refuseConflicts_cases (g : Given) :
    ((∀ pair ∈ Opt.exclusive, ¬ (pair.1 ∈ g.options ∧ pair.2 ∈ g.options)) ∧
        g.refuseConflicts = .ok ()) ∨
      ((¬ ∀ pair ∈ Opt.exclusive, ¬ (pair.1 ∈ g.options ∧ pair.2 ∈ g.options)) ∧
        ∃ a b, g.refuseConflicts = .error (.conflict a b)) := by
  unfold refuseConflicts
  split
  · next a b hfind =>
    have hboth : a ∈ g.options ∧ b ∈ g.options := by
      simpa [has] using List.find?_some hfind
    exact .inr ⟨fun h => h (a, b) (List.mem_of_find?_eq_some hfind) hboth, a, b, rfl⟩
  · next hfind =>
    refine .inl ⟨fun pair hpair hboth => ?_, rfl⟩
    exact List.find?_eq_none.1 hfind pair hpair (by simpa [has] using hboth)

end Given

/-- **Uses whose values can be read are accepted at a level just if their options go
together**; otherwise two of them are in conflict. -/
theorem Placed.ofUses (hplaced : Placed uses g) :
    (Opt.Together (optionsOf uses) ∧
        Given.ofUses uses = .ok (g.withOptions (optionsOf uses))) ∨
      (¬ Opt.Together (optionsOf uses) ∧ ∃ a b, Given.ofUses uses = .error (.conflict a b)) := by
  rw [Opt.together_iff]
  rcases hplaced.setAll with ⟨honce, hset⟩ | ⟨honce, o, hset⟩
  · rcases (g.withOptions (optionsOf uses)).refuseConflicts_cases with
      ⟨hfree, hrefuse⟩ | ⟨hfree, a, b, hrefuse⟩
    · exact .inl ⟨⟨honce, hfree⟩, Given.ofUses_eq_ok_iff.2 ⟨hset, hrefuse⟩⟩
    · refine .inr ⟨fun h => hfree h.2, a, b, ?_⟩
      simp only [Given.ofUses, hset, hrefuse, bind, Except.bind]
  · refine .inr ⟨fun h => honce h.1, o, o, ?_⟩
    simp only [Given.ofUses, hset, bind, Except.bind]

theorem ofUses_eq_ok_iff_together : Given.ofUses uses = .ok h ↔
    Opt.Together (optionsOf uses) ∧ ∃ g, Placed uses g ∧ h = g.withOptions (optionsOf uses) := by
  constructor
  · intro hok
    obtain ⟨g, hplaced, rfl⟩ := exists_placed (Given.ofUses_eq_ok_iff.1 hok).1
    rcases hplaced.ofUses with ⟨htogether, -⟩ | ⟨-, a, b, hconflict⟩
    · exact ⟨htogether, g, hplaced, rfl⟩
    · rw [hok] at hconflict
      cases hconflict
  · rintro ⟨htogether, g, hplaced, rfl⟩
    rcases hplaced.ofUses with ⟨-, hok⟩ | ⟨hfree, -⟩
    · exact hok
    · exact absurd htogether hfree

/-! ### Two levels -/

variable {top inner : List Use} {c : CommandName} {words : List Bytes} {k : Given}
  {i : Invocation}

/-- What is accepted are values that can be read, with options that go together at
each level. -/
theorem SpellsLine.parse_eq_ok_iff_together (hline : SpellsLine top c inner words) :
    Invocation.parse words = .ok i ↔
      (Opt.Together (optionsOf top) ∧ Opt.Together (optionsOf inner)) ∧
        ∃ g k, Placed top g ∧ Placed inner k ∧
          i = .ofLevels (g.withOptions (optionsOf top)) c (k.withOptions (optionsOf inner)) := by
  rw [hline.parse_eq_ok_iff]
  simp only [ofUses_eq_ok_iff_together]
  constructor
  · rintro ⟨_, _, ⟨htop, g, hg, rfl⟩, ⟨hinner, k, hk, rfl⟩, rfl⟩
    exact ⟨⟨htop, hinner⟩, g, k, hg, hk, rfl⟩
  · rintro ⟨⟨htop, hinner⟩, g, k, hg, hk, rfl⟩
    exact ⟨_, _, ⟨htop, g, hg, rfl⟩, ⟨hinner, k, hk, rfl⟩, rfl⟩

/-- Where all values can be read, options that do not go together at their level are
in conflict. -/
theorem SpellsLine.parse_eq_conflict (hline : SpellsLine top c inner words) (hg : Placed top g)
    (hk : Placed inner k)
    (hclash : ¬ (Opt.Together (optionsOf top) ∧ Opt.Together (optionsOf inner))) :
    ∃ a b, Invocation.parse words = .error (.conflict a b) := by
  rw [hline.parse_eq]
  rcases hg.setAll with ⟨honce, hset⟩ | ⟨-, o, hset⟩
  · rcases hk.ofUses with ⟨hinner, hok⟩ | ⟨-, a, b, hconflict⟩
    · rcases (g.withOptions (optionsOf top)).refuseConflicts_cases with
        ⟨hfree, -⟩ | ⟨-, a, b, hrefuse⟩
      · exact absurd ⟨Opt.together_iff.2 ⟨honce, hfree⟩, hinner⟩ hclash
      · exact ⟨a, b, by simp only [hset, hok, hrefuse, bind, Except.bind]⟩
    · exact ⟨a, b, by simp only [hset, hconflict, bind, Except.bind]⟩
  · exact ⟨o, o, by simp only [hset, bind, Except.bind]⟩

end

end GuardCost.Cli
