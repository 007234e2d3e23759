/-
GuardCost/Proofs/FlagLevels.lean

Flags that are known at both levels.  Such a flag counts wherever it stands, but the
options that it excludes are looked for at its own level only.  So it can be moved
across the command, and nothing changes,

    T₁ flag T₂ command I₁ I₂        T₁ T₂ command I₁ flag I₂

as long as it clashes with no option on the side where it lands; if it does, the line
is not accepted any more (`Lands`).  In the same way two flags that exclude each other
can both be in effect, if they stand at different levels.

**Main theorem** (`flags_count_at_both_levels`): both statements, for all words that
are accepted.  In `silent_list_verbose` two flags that exclude each other are in
effect.
-/
import GuardCost.Proofs.Chains
import GuardCost.Proofs.GivenOptions

namespace GuardCost.Cli

/-! ### Spelling uses -/

/-- A use that can stand at a level. -/
structure Fits (level : Level) (use : Use) : Prop where
  known : use.1 ∈ Opt.known level
  flag : use.1.takesValue = false → use.2 = []

section
variable {level : Level} {uses : List Use} {due? : Option Opt} {words : List Bytes}

theorem SpellsLetters.fits {bs : Bytes} (h : SpellsLetters level uses due? bs) :
    (∀ use ∈ uses, Fits level use) ∧
      ∀ o, due? = some o → o ∈ Opt.known level ∧ o.takesValue = true := by
  induction h with
  | done => exact ⟨nofun, nofun⟩
  | flag ho hflag _ ih => exact ⟨List.forall_mem_cons.2 ⟨⟨ho.1, fun _ => rfl⟩, ih.1⟩, ih.2⟩
  | apart ho hvalue => exact ⟨nofun, fun o h => Option.some.inj h ▸ ⟨ho.1, hvalue⟩⟩
  | joined ho hvalue | equals ho hvalue =>
    refine ⟨List.forall_mem_singleton.2 ⟨ho.1, fun hflag => ?_⟩, nofun⟩
    rw [hvalue] at hflag
    cases hflag

/-- Words spell uses that can stand at the level. -/
theorem Spells.fits (h : Spells level due? uses words)
    (hdue : ∀ o, due? = some o → o ∈ Opt.known level ∧ o.takesValue = true) :
    ∀ use ∈ uses, Fits level use := by
  -- a flag has no value, and what has a value is no flag
  have hvalued : ∀ {o : Opt} {value : Bytes}, o ∈ Opt.known level → o.takesValue = true →
      Fits level (o, value) := by
    refine fun ho hvalue => ⟨ho, fun hflag => ?_⟩
    rw [hvalue] at hflag
    cases hflag
  induction h with
  | done => nofun
  | value _ _ ih =>
    obtain ⟨ho, hvalue⟩ := hdue _ rfl
    exact List.forall_mem_cons.2 ⟨hvalued ho hvalue, ih nofun⟩
  | flag ho _ _ ih => exact List.forall_mem_cons.2 ⟨⟨ho, fun _ => rfl⟩, ih nofun⟩
  | apart ho hvalue _ ih => exact ih fun o h => Option.some.inj h ▸ ⟨ho, hvalue⟩
  | equals ho hvalue _ ih => exact List.forall_mem_cons.2 ⟨hvalued ho hvalue, ih nofun⟩
  | letters _ hletters _ ih =>
    exact List.forall_mem_append.2 ⟨hletters.fits.1, ih hletters.fits.2⟩

/-- Uses that can stand at a level can be spelled, with their long names. -/
theorem exists_spells_of_fits (h : ∀ use ∈ uses, Fits level use) :
    ∃ words, Spells level none uses words := by
  induction uses with
  | nil => exact ⟨[], .done⟩
  | cons use rest ih =>
    obtain ⟨o, value⟩ := use
    obtain ⟨⟨hknown, hflag⟩, hrest⟩ := List.forall_mem_cons.1 h
    obtain ⟨words, hspells⟩ := ih hrest
    cases hvalue : o.takesValue with
    | true => exact ⟨_, .equals hknown hvalue hspells⟩
    | false =>
      obtain rfl : value = [] := hflag hvalue
      exact ⟨_, .flag hknown hvalue hspells⟩

variable {top inner : List Use} {c : CommandName}

/-- Uses of two levels are spelled by some line just if they can stand there. -/
theorem exists_spellsLine_iff : (∃ words, SpellsLine top c inner words) ↔
    (∀ use ∈ top, Fits .top use) ∧ ∀ use ∈ inner, Fits (.after c) use := by
  constructor
  · rintro ⟨_, htop, hinner, -⟩
    exact ⟨htop.fits nofun, hinner.fits nofun⟩
  · rintro ⟨htop, hinner⟩
    obtain ⟨front, hfront⟩ := exists_spells_of_fits htop
    obtain ⟨back, hback⟩ := exists_spells_of_fits hinner
    exact ⟨_, .intro hfront hback .nothing⟩

end

/-! ### Flags known everywhere -/

namespace Opt

variable {f : Opt}

theorem fits_of_everywhere (hf : f ∈ everywhere) (level : Level) : Fits level (f, []) := by
  refine ⟨?_, fun _ => rfl⟩
  obtain - | (- | - | -) := level <;> simp [known, hf]

/-- Options of which one cannot stand at the same level. -/
def Clashes (f : Opt) (uses : List Use) : Prop := ∃ o ∈ optionsOf uses, f.Excludes o

instance (f : Opt) (uses : List Use) : Decidable (f.Clashes uses) :=
  inferInstanceAs (Decidable (∃ o ∈ optionsOf uses, f.Excludes o))

theorem together_insert_flag_iff {front back : List Use} :
    Together (optionsOf (front ++ (f, []) :: back)) ↔
      ¬ f.Clashes (front ++ back) ∧ Together (optionsOf (front ++ back)) := by
  simp only [optionsOf, List.map_append, List.map_cons, together_insert_iff, Clashes, not_exists,
    not_and]

end Opt

section
variable {f : Opt} {front back : List Use} {g k : Given} {c : CommandName}

/-- A flag that is known everywhere has no value to be read. -/
theorem placed_insert_flag_iff (hf : f ∈ Opt.everywhere) (hhelp : f ≠ .help) :
    Placed (front ++ (f, []) :: back) g ↔ Placed (front ++ back) g := by
  have hplace : ∀ g : Given, g.place f [] = .ok g := by
    intro g
    cases f <;> first | rfl | exact absurd hf (by decide)
  have hversion : f ≠ .version := by
    rintro rfl
    exact absurd hf (by decide)
  have hall : ({} : Given).placeAll (front ++ (f, []) :: back) =
      ({} : Given).placeAll (front ++ back) := by
    simp only [Given.placeAll, List.foldlM_append, List.foldlM_cons, hplace]
    rfl
  constructor
  · rintro ⟨hplain, hplaced⟩
    exact ⟨(forall_mem_insert_iff.1 hplain).2, hall ▸ hplaced⟩
  · rintro ⟨hplain, hplaced⟩
    exact ⟨forall_mem_insert_iff.2 ⟨⟨hhelp, hversion⟩, hplain⟩, hall ▸ hplaced⟩

/-- Options known everywhere count at either level, the others at the inner one. -/
theorem Invocation.ofLevels_congr {tops inners tops' inners' : List Opt}
    (hshared : ∀ o ∈ Opt.everywhere, (o ∈ tops ∨ o ∈ inners) ↔ (o ∈ tops' ∨ o ∈ inners'))
    (hinner : ∀ o ∉ Opt.everywhere, o ∈ inners ↔ o ∈ inners') :
    ofLevels (g.withOptions tops) c (k.withOptions inners) =
      ofLevels (g.withOptions tops') c (k.withOptions inners') := by
  have heither : ∀ o ∈ Opt.everywhere,
      ((g.withOptions tops).has o || (k.withOptions inners).has o) =
        ((g.withOptions tops').has o || (k.withOptions inners').has o) := by
    intro o ho
    simp only [Given.has_withOptions, ← Bool.decide_or, decide_eq_decide]
    exact hshared o ho
  have hhas : ∀ o ∉ Opt.everywhere, (k.withOptions inners).has o = (k.withOptions inners').has o :=
    fun o ho => decide_eq_decide.2 (hinner o ho)
  have htools : (k.withOptions inners).toolOptions = (k.withOptions inners').toolOptions := by
    simp only [Given.toolOptions, hhas .release (by decide), hhas .debug (by decide),
      hhas .noDebugSymbols (by decide)]
    rfl
  have hrequest : (k.withOptions inners).request c = (k.withOptions inners').request c := by
    cases c <;> simp only [Given.request, htools] <;> rfl
  rw [ofLevels, ofLevels, hrequest, heither .metrics (by decide), heither .verbose (by decide),
    heither .silent (by decide)]

end

/-! ### Moving a flag -/

/-- What becomes of an accepted line when a flag is moved to where other options
stand: it is accepted as before, unless the flag clashes with one of them. -/
structure Lands (f : Opt) (others : List Use) (i : Invocation) (moved : List Bytes) : Prop where
  free : ¬ f.Clashes others → Invocation.parse moved = .ok i
  clash : f.Clashes others → ∃ a b, Invocation.parse moved = .error (.conflict a b)

section
variable {words moved : List Bytes} {f : Opt} {c : CommandName} {i : Invocation} {g k : Given}
  {top inner others front back : List Use}

theorem SpellsLine.lands (hline : SpellsLine top c inner moved) (hg : Placed top g)
    (hk : Placed inner k)
    (htogether : Opt.Together (optionsOf top) ∧ Opt.Together (optionsOf inner) ↔
      ¬ f.Clashes others)
    (hi : Invocation.ofLevels (g.withOptions (optionsOf top)) c
      (k.withOptions (optionsOf inner)) = i) : Lands f others i moved where
  free hfree := hline.parse_eq_ok_iff_together.2 ⟨htogether.2 hfree, g, k, hg, hk, hi.symm⟩
  clash hclash := hline.parse_eq_conflict hg hk fun h => htogether.1 h hclash

theorem mem_optionsOf_insert {o : Opt} : o ∈ optionsOf (front ++ (f, []) :: back) ↔
    o = f ∨ o ∈ optionsOf (front ++ back) := by
  simp only [optionsOf, List.map_append, List.map_cons, List.mem_append, List.mem_cons]
  tauto

/-- A flag before the command can be moved behind it. -/
theorem SpellsLine.lands_inside {left right : List Use} (hf : f ∈ Opt.everywhere)
    (hline : SpellsLine (left ++ (f, []) :: right) c (front ++ back) words)
    (hparse : Invocation.parse words = .ok i)
    (hmoved : SpellsLine (left ++ right) c (front ++ (f, []) :: back) moved) :
    Lands f (front ++ back) i moved := by
  obtain ⟨⟨htop, hinner⟩, g, k, hg, hk, rfl⟩ := hline.parse_eq_ok_iff_together.1 hparse
  have hhelp : f ≠ .help := (hg.plain (f, []) (by simp)).1
  have hleft := (Opt.together_insert_flag_iff.1 htop).2
  refine hmoved.lands ((placed_insert_flag_iff hf hhelp).1 hg)
    ((placed_insert_flag_iff hf hhelp).2 hk) ?_ ?_
  · rw [Opt.together_insert_flag_iff, and_iff_right hleft, and_iff_left hinner]
  · refine Invocation.ofLevels_congr (fun o _ => ?_) fun o ho => ?_
    · rw [mem_optionsOf_insert, mem_optionsOf_insert]
      tauto
    · have hne : o ≠ f := fun h => ho (h ▸ hf)
      rw [mem_optionsOf_insert, or_iff_right hne]

/-- A flag behind the command can be moved before it. -/
theorem SpellsLine.lands_before {left right : List Use} (hf : f ∈ Opt.everywhere)
    (hline : SpellsLine (left ++ right) c (front ++ (f, []) :: back) words)
    (hparse : Invocation.parse words = .ok i)
    (hmoved : SpellsLine (left ++ (f, []) :: right) c (front ++ back) moved) :
    Lands f (left ++ right) i moved := by
  obtain ⟨⟨htop, hinner⟩, g, k, hg, hk, rfl⟩ := hline.parse_eq_ok_iff_together.1 hparse
  have hhelp : f ≠ .help := (hk.plain (f, []) (by simp)).1
  have hfront := (Opt.together_insert_flag_iff.1 hinner).2
  refine hmoved.lands ((placed_insert_flag_iff hf hhelp).2 hg)
    ((placed_insert_flag_iff hf hhelp).1 hk) ?_ ?_
  · rw [Opt.together_insert_flag_iff, and_iff_left hfront, and_iff_left htop]
  · refine Invocation.ofLevels_congr (fun o _ => ?_) fun o ho => ?_
    · rw [mem_optionsOf_insert, mem_optionsOf_insert]
      tauto
    · have hne : o ≠ f := fun h => ho (h ▸ hf)
      rw [mem_optionsOf_insert, or_iff_right hne]

/-- Of an accepted line, the flags in effect that exclude each other stand at
different levels. -/
theorem SpellsLine.both_iff (hline : SpellsLine top c inner words)
    (hparse : Invocation.parse words = .ok i) :
    (i.silent = true ∧ i.verbose = true) ↔
      (.silent ∈ optionsOf top ∧ .verbose ∈ optionsOf inner) ∨
        (.verbose ∈ optionsOf top ∧ .silent ∈ optionsOf inner) := by
  obtain ⟨⟨htop, hinner⟩, g, k, -, -, rfl⟩ := hline.parse_eq_ok_iff_together.1 hparse
  have hnottop := (Opt.together_iff.1 htop).2 (.silent, .verbose) (by decide)
  have hnotinner := (Opt.together_iff.1 hinner).2 (.silent, .verbose) (by decide)
  show ((decide (Opt.silent ∈ optionsOf top) || decide (Opt.silent ∈ optionsOf inner)) = true ∧
    (decide (Opt.verbose ∈ optionsOf top) || decide (Opt.verbose ∈ optionsOf inner)) = true) ↔ _
  simp only [Bool.or_eq_true, decide_eq_true_iff]
  tauto

/-- **Flags count at both levels, and exclude each other at one.**  Take any words that
are accepted.  They spell a command line, and for every command line that they spell:

* silent and verbose are both in effect if and only if one of them stands before the
  command and the other behind it;
* a flag known everywhere that stands on one side of the command can be moved to any
  place on the other side.  The line is then accepted with the same result, unless the
  flag clashes with an option there; then it is refused as a conflict. -/
theorem flags_count_at_both_levels (hparse : Invocation.parse words = .ok i) :
    (∃ top c inner, SpellsLine top c inner words) ∧
      ∀ top c inner, SpellsLine top c inner words →
        ((i.silent = true ∧ i.verbose = true) ↔
          (.silent ∈ optionsOf top ∧ .verbose ∈ optionsOf inner) ∨
            (.verbose ∈ optionsOf top ∧ .silent ∈ optionsOf inner)) ∧
        (∀ f ∈ Opt.everywhere, ∀ left right front back, top = left ++ (f, []) :: right →
          inner = front ++ back →
            (∃ moved, SpellsLine (left ++ right) c (front ++ (f, []) :: back) moved) ∧
              ∀ moved, SpellsLine (left ++ right) c (front ++ (f, []) :: back) moved →
                Lands f inner i moved) ∧
        ∀ f ∈ Opt.everywhere, ∀ left right front back, top = left ++ right →
          inner = front ++ (f, []) :: back →
            (∃ moved, SpellsLine (left ++ (f, []) :: right) c (front ++ back) moved) ∧
              ∀ moved, SpellsLine (left ++ (f, []) :: right) c (front ++ back) moved →
                Lands f top i moved := by
  refine ⟨exists_spellsLine hparse, fun top c inner hline => ?_⟩
  obtain ⟨htop, hinner⟩ := exists_spellsLine_iff.1 ⟨words, hline⟩
  refine ⟨hline.both_iff hparse, ?_, ?_⟩
  · rintro f hf left right front back rfl rfl
    refine ⟨exists_spellsLine_iff.2 ⟨?_, ?_⟩, fun moved => hline.lands_inside hf hparse⟩
    · exact (forall_mem_insert_iff.1 htop).2
    · exact forall_mem_insert_iff.2 ⟨Opt.fits_of_everywhere hf _, hinner⟩
  · rintro f hf left right front back rfl rfl
    refine ⟨exists_spellsLine_iff.2 ⟨?_, ?_⟩, fun moved => hline.lands_before hf hparse⟩
    · exact forall_mem_insert_iff.2 ⟨Opt.fits_of_everywhere hf _, htop⟩
    · exact (forall_mem_insert_iff.1 hinner).2

end

namespace Sample

/-- Silent before the command, verbose behind it. -/
def listWords : List Bytes := ["--silent", "list", "--verbose"].map Bytes.ofString

def listed : Invocation := ⟨false, true, true, .list ⟨none, []⟩ ⟨none, none, none⟩⟩

theorem parse_listWords : Invocation.parse listWords = .ok listed := by decide

theorem spells_listWords : SpellsLine [(.silent, [])] .list [(.verbose, [])] listWords :=
  .intro (.flag (by decide) rfl .done) (.flag (by decide) rfl .done) .nothing

/-- Moving the verbose flag to the other side makes a conflict of it. -/
theorem verbose_moved_before_silent :
    (listed.silent = true ∧ listed.verbose = true) ∧
      ∃ a b, Invocation.parse (["--verbose", "--silent", "list"].map Bytes.ofString) =
        .error (.conflict a b) := by
  obtain ⟨hboth, -, hbefore⟩ :=
    (flags_count_at_both_levels parse_listWords).2 _ _ _ spells_listWords
  have hmoved : SpellsLine ([] ++ (Opt.verbose, []) :: [(.silent, [])]) .list []
      (["--verbose", "--silent", "list"].map Bytes.ofString) :=
    .intro (.flag (by decide) rfl (.flag (by decide) rfl .done)) .done .nothing
  have hlands := (hbefore .verbose (by decide) [] [(.silent, [])] [] [] rfl rfl).2 _ hmoved
  exact ⟨hboth.2 (.inl ⟨by decide, by decide⟩), hlands.clash (by decide)⟩

/-- Two flags that exclude each other can both be in effect, and there are accepted
lines that moving a flag makes a conflict of. -/
theorem silent_list_verbose :
    Invocation.parse (["--silent", "list", "--verbose"].map Bytes.ofString) =
        .ok ⟨false, true, true, .list ⟨none, []⟩ ⟨none, none, none⟩⟩ ∧
      Invocation.parse (["--silent", "--verbose", "list"].map Bytes.ofString) =
        .error (.conflict .silent .verbose) ∧
      Invocation.parse (["list", "--silent", "--verbose"].map Bytes.ofString) =
        .error (.conflict .silent .verbose) := by
  decide

end Sample

end GuardCost.Cli
