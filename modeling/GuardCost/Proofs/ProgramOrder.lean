/-
GuardCost/Proofs/ProgramOrder.lean

The build of a program, taken apart.  A program is prepared, goes through its
front stage by stage, and then builds its variants in any order; each of these
is one action on the machine (`Pipeline.BuildsProgram`), and between them the
program has made some `Progress`.

Built alone from a machine `w₀`, a program is always on the way to the outcome
of `Pipeline.build` on `w₀` (`Reached`, `Reached.step`).  And whatever happens
meanwhile at locations that it is sheltered from, it does the same
(`Reached.undisturbed`).
-/
import GuardCost.Proofs.StaleOutputs
import GuardCost.Proofs.VariantOrder

namespace GuardCost

open GuardCost.Action Relation

/-- How far the build of a program has come. -/
inductive Progress where
  | waiting
  /-- It has made some of its front. -/
  | front (sources : List String) (made : List Artifact) (todo : List Stage)
  /-- Some variants are built. -/
  | variants (sources : List String) (made : List Artifact) (results : Stage → Option Outcome)
  | ended (b : Build)

namespace Pipeline

variable (pl : Pipeline) (p : Program) (tools : Tools)

/-- What the build of a program can do next. -/
inductive BuildsProgram : Acts Progress
  | unprepared (w : World) {e : BuildError} (h : (deed (pl.prepare p) w).result = .error e) :
    BuildsProgram (.waiting, w) (.ended (pl.brokenOff p [] e), (deed (pl.prepare p) w).world)
  | prepared (w : World) {sources : List String}
    (h : (deed (pl.prepare p) w).result = .ok sources) :
    BuildsProgram (.waiting, w) (.front sources [] pl.frontStages, (deed (pl.prepare p) w).world)
  | failed (w : World) {sources : List String} {made : List Artifact} {stage : Stage}
    {todo : List Stage} {e : BuildError}
    (h : (deed ((pl.step p sources stage).run tools p.name) w).result = .error e) :
    BuildsProgram (.front sources made (stage :: todo), w)
      (.ended (pl.brokenOff p made e), (deed ((pl.step p sources stage).run tools p.name) w).world)
  | went (w : World) {sources : List String} {made : List Artifact} {stage : Stage}
    {todo : List Stage}
    (h : (deed ((pl.step p sources stage).run tools p.name) w).result = .ok ()) :
    BuildsProgram (.front sources made (stage :: todo), w)
      (.front sources (made ++ [pl.artifact p stage]) todo,
        (deed ((pl.step p sources stage).run tools p.name) w).world)
  | parted (w : World) {sources : List String} {made : List Artifact} :
    BuildsProgram (.front sources made [], w) (.variants sources made fun _ => none, w)
  | built (w : World) {sources : List String} {made : List Artifact}
    {results : Stage → Option Outcome} {stage : Stage} {after : Option Outcome × World}
    (h : pl.BuildsVariant p tools sources stage (results stage, w) after) :
    BuildsProgram (.variants sources made results, w)
      (.variants sources made (Function.update results stage after.1), after.2)
  | joined (w : World) {sources : List String} {made : List Artifact}
    {results : Stage → Option Outcome} (h : ∀ stage ∈ pl.variantStages, results stage ≠ none) :
    BuildsProgram (.variants sources made results, w)
      (.ended (pl.completed p made (pl.gathered p sources pl.variantStages results)), w)

/-- As long as the build has not ended, there is something to do. -/
theorem exists_buildsProgram {progress : Progress} (h : ∀ b, progress ≠ .ended b) (w : World) :
    ∃ after, pl.BuildsProgram p tools (progress, w) after := by
  cases progress with
  | waiting =>
    cases hprep : (deed (pl.prepare p) w).result with
    | error e => exact ⟨_, .unprepared w hprep⟩
    | ok sources => exact ⟨_, .prepared w hprep⟩
  | front sources made todo =>
    cases todo with
    | nil => exact ⟨_, .parted w⟩
    | cons stage todo =>
      cases hstep : (deed ((pl.step p sources stage).run tools p.name) w).result with
      | error e => exact ⟨_, .failed w hstep⟩
      | ok u => exact ⟨_, .went w hstep⟩
  | variants sources made results =>
    by_cases hdone : ∀ stage ∈ pl.variantStages, results stage ≠ none
    · exact ⟨_, .joined w hdone⟩
    · push Not at hdone
      obtain ⟨stage, hmem, hnone⟩ := hdone
      have hact : pl.BuildsVariant p tools sources stage (none, w) _ := .built w hmem
      rw [← hnone] at hact
      exact ⟨_, .built w hact⟩
  | ended b => exact absurd rfl (h b)

/-- How much of a build is left. -/
def left : Progress → Nat
  | .waiting => pl.frontStages.length + pl.variantStages.length + 3
  | .front _ _ todo => todo.length + pl.variantStages.length + 2
  | .variants _ _ results =>
    (pl.variantStages.filter fun stage => (results stage).isNone).length + 1
  | .ended _ => 0

variable {pl p tools} in
/-- Whatever is done, less is left. -/
theorem left_lt {before after : Progress × World} (h : pl.BuildsProgram p tools before after) :
    pl.left after.1 < pl.left before.1 := by
  cases h with
  | unprepared w hprep => simp [left]
  | prepared w hprep => simp [left]
  | failed w hstep => simp [left]
  | went w hstep =>
    simp only [left, List.length_cons]
    omega
  | parted w => simp [left]
  | @built w sources made results stage after hbuilt =>
    obtain ⟨hmem, hnone, rfl⟩ := hbuilt.eq
    -- what is left after a variant is what was left but that variant
    have hfilter : ∀ outcome : Outcome, (pl.variantStages.filter fun stage' =>
        (Function.update results stage (some outcome) stage').isNone) =
        (pl.variantStages.filter fun stage' => (results stage').isNone).filter (· ≠ stage) := by
      intro outcome
      rw [List.filter_filter]
      refine List.filter_congr fun stage' _ => ?_
      by_cases hstage : stage' = stage
      · subst hstage
        simp
      · simp [hstage]
    simp only [left]
    rw [hfilter]
    refine Nat.succ_lt_succ (List.length_filter_lt_length_iff_exists.2 ⟨stage, ?_, by simp⟩)
    exact List.mem_filter.2 ⟨hmem, by simp [hnone]⟩
  | joined w hdone => simp [left]

/-! ### A program alone -/

/-- A machine on which some stages of a program have run. -/
structure Ready (sources : List String) (X Z : Set Location) (B : Location) (done : List Stage)
    (g : World) : Prop where
  site : pl.Site p sources X B g
  own : ∀ stage x, stage ≠ .sources → pl.place p B stage = .ok x → x ∈ Z
  plain : ∀ stage ∈ done, ∃ x, pl.place p B stage = .ok x ∧ g.files.HasNoLink x

/-- What is left to do after a part of the front. -/
def resumed (sources : List String) (made : List Artifact) (todo : List Stage) (g : World) :
    Deed Build :=
  (deed (runFront tools p.name (pl.steps p sources todo)) g).andThen fun front =>
    deed (pl.buildVariants p tools sources (made ++ front.1, front.2))

/-- Where the build of a program that is alone can be, when it started from
`w₀`: on the way to the outcome of `build`. -/
inductive Reached (X Z : Set Location) (w₀ : World) : Progress × World → Prop
  | waiting : Reached X Z w₀ (.waiting, w₀)
  | front {sources : List String} {made : List Artifact} {todo done : List Stage} {B : Location}
    {g : World} (ready : pl.Ready p sources X Z B done g) (order : InOrder done todo)
    (all : ∀ stage ∈ pl.frontStages, stage ∈ done ∨ stage ∈ todo)
    (result : (deed (pl.build tools p) w₀).result = (pl.resumed p tools sources made todo g).result)
    (world : (deed (pl.build tools p) w₀).world = (pl.resumed p tools sources made todo g).world) :
    Reached X Z w₀ (.front sources made todo, g)
  | variants {sources : List String} {made : List Artifact} {results : Stage → Option Outcome}
    {B : Location} {u g : World} (ready : pl.Ready p sources X Z B pl.frontStages u)
    (result : (deed (pl.build tools p) w₀).result = pl.completed p made
      (deed (runEach tools p.name (pl.steps p sources pl.variantStages)) u).result)
    (world : (deed (pl.build tools p) w₀).world =
      (deed (runEach tools p.name (pl.steps p sources pl.variantStages)) u).world)
    (run : Floor.Run (pl.BuildsVariant p tools sources) ⟨u, fun _ => none⟩ ⟨g, results⟩) :
    Reached X Z w₀ (.variants sources made results, g)
  | ended {b : Build} {g : World} (result : (deed (pl.build tools p) w₀).result = b)
    (world : World.Alike ∅ (deed (pl.build tools p) w₀).world g) : Reached X Z w₀ (.ended b, g)

/-- A build without sources or output directory. -/
theorem build_of_unprepared {w : World} {e : BuildError}
    (h : (deed (pl.prepare p) w).result = .error e) :
    (deed (pl.build tools p) w).result = pl.brokenOff p [] e ∧
      (deed (pl.build tools p) w).world = (deed (pl.prepare p) w).world := by
  rw [deed_build, Deed.andThen, h, deed_buildStages_error]
  exact ⟨rfl, rfl⟩

/-- A prepared build has all its stages left. -/
theorem build_of_prepared {w : World} {sources : List String}
    (h : (deed (pl.prepare p) w).result = .ok sources) :
    let rest := pl.resumed p tools sources [] pl.frontStages (deed (pl.prepare p) w).world
    (deed (pl.build tools p) w).result = rest.result ∧
      (deed (pl.build tools p) w).world = rest.world := by
  intro rest
  rw [deed_build, Deed.andThen, h, deed_buildStages_ok]
  exact ⟨rfl, rfl⟩

/-- A front that breaks off. -/
theorem resumed_error {sources : List String} {made : List Artifact} {stage : Stage}
    {todo : List Stage} {g : World} {e : BuildError}
    (h : (deed ((pl.step p sources stage).run tools p.name) g).result = .error e) :
    (pl.resumed p tools sources made (stage :: todo) g).result = pl.brokenOff p made e ∧
      (pl.resumed p tools sources made (stage :: todo) g).world =
        (deed ((pl.step p sources stage).run tools p.name) g).world := by
  have hsteps : pl.steps p sources (stage :: todo) =
      pl.step p sources stage :: pl.steps p sources todo := rfl
  rw [resumed, hsteps, deed_runFront_error tools p.name h, Deed.andThen, List.append_nil]
  exact ⟨rfl, rfl⟩

/-- A front that goes on. -/
theorem resumed_ok {sources : List String} {made : List Artifact} {stage : Stage}
    {todo : List Stage} {g : World}
    (h : (deed ((pl.step p sources stage).run tools p.name) g).result = .ok ()) :
    let rest := pl.resumed p tools sources (made ++ [pl.artifact p stage]) todo
      (deed ((pl.step p sources stage).run tools p.name) g).world
    (pl.resumed p tools sources made (stage :: todo) g).result = rest.result ∧
      (pl.resumed p tools sources made (stage :: todo) g).world = rest.world := by
  intro rest
  have hsteps : pl.steps p sources (stage :: todo) =
      pl.step p sources stage :: pl.steps p sources todo := rfl
  have hmade : ∀ front : List Artifact, made ++ [pl.artifact p stage] ++ front =
      made ++ (pl.step p sources stage).artifact p.name :: front :=
    fun front => List.append_assoc _ _ _
  simp only [rest, resumed, hsteps, deed_runFront_ok tools p.name h, Deed.andThen, hmade]
  exact ⟨trivial, trivial⟩

/-- A front that is complete. -/
theorem resumed_nil (sources : List String) (made : List Artifact) (g : World) :
    let d := deed (runEach tools p.name (pl.steps p sources pl.variantStages)) g
    (pl.resumed p tools sources made [] g).result = pl.completed p made d.result ∧
      (pl.resumed p tools sources made [] g).world = d.world := by
  intro d
  have hsteps : pl.steps p sources [] = [] := rfl
  rw [resumed, hsteps, deed_runFront_nil, Deed.idle_andThen, List.append_nil,
    deed_buildVariants_none]
  exact ⟨rfl, rfl⟩

variable {pl p tools} {sources : List String} {X Y Z : Set Location} {B : Location}
  {done : List Stage} {g w w₀ : World} {stage : Stage}

namespace Ready

/-- A program that is prepared is ready for its first stage. -/
theorem of_prepared (hshelter : pl.Sheltered p X w₀) (hX : pl.places p w₀ ⊆ X)
    (h : (deed (pl.prepare p) w₀).result = .ok sources) :
    ∃ B, pl.Ready p sources X (pl.places p w₀) B [] (deed (pl.prepare p) w₀).world := by
  obtain ⟨R, hdir, hmake⟩ := prepare_ok h
  obtain ⟨B, site⟩ := hshelter.site hX h
  exact ⟨B, site, fun stage x hst hx => ⟨R, _, B, stage, hdir, hmake, site.bin, hst, hx⟩,
    fun _ h => absurd h List.not_mem_nil⟩

theorem alike (h : pl.Ready p sources X Z B done g) (halike : World.Alike Y g w) (hYX : Y ⊆ X)
    (hplain : ∀ stage ∈ done, ∀ x, pl.place p B stage = .ok x → g.files.HasNoLink x →
      w.files.HasNoLink x) : pl.Ready p sources X Z B done w where
  site := h.site.alike (halike.mono hYX)
  own := h.own
  plain stage hmem := by
    obtain ⟨x, hx, hl⟩ := h.plain stage hmem
    exact ⟨x, hx, hplain stage hmem x hx hl⟩

theorem chained (h : pl.Ready p sources X Z B done g)
    (hchained : ∀ stage', stage.chained? = some stage' → stage' ∈ done) :
    pl.Chained p B stage g :=
  fun stage' hstage' => h.plain stage' (hchained stage' hstage')

/-- A program that is ready stays so, whether its next stage fails or not. -/
theorem step (h : pl.Ready p sources X Z B done g) (hp : p.fault? = none)
    (ht : pl.ToolsConfined p tools) (hst : stage ≠ .sources) :
    let d := deed ((pl.step p sources stage).run tools p.name) g
    pl.Ready p sources X Z B done d.world ∧
      (d.result = .ok () → pl.Ready p sources X Z B (stage :: done) d.world) := by
  intro d
  have hplace : {x | pl.place p B stage = .ok x} ⊆ X := fun x hx => h.site.places stage x hst hx
  have hready := h.alike (h.site.step_frame hp hst ht) hplace
    fun _ _ x _ hl => h.site.step_hasNoLink hp hst ht hl
  refine ⟨hready, fun hok => ⟨hready.site, hready.own, fun stage' hmem => ?_⟩⟩
  rcases List.mem_cons.1 hmem with rfl | hmem
  · exact h.site.step_ok hp hst ht hok
  · exact hready.plain stage' hmem

/-- A stage of a program that is ready does the same whatever happens elsewhere. -/
theorem undisturbed (h : pl.Ready p sources X Z B done g) (hp : p.fault? = none)
    (ht : pl.ToolsConfined p tools) (hst : stage ≠ .sources)
    (hchained : ∀ stage', stage.chained? = some stage' → stage' ∈ done)
    (halike : World.Alike Y g w) (hYX : Y ⊆ X) (hZ : ∀ x ∈ Z, x ∉ Y) :
    let d := deed ((pl.step p sources stage).run tools p.name) g
    let d' := deed ((pl.step p sources stage).run tools p.name) w
    d'.result = d.result ∧ World.Alike Y d.world d'.world ∧ World.Alike Z w d'.world := by
  intro d d'
  obtain ⟨hresult, hafter, hkeep⟩ := h.site.step_undisturbed hp hst ht halike hYX
    (h.chained hchained) fun stage' x hstage' hx => by
      refine hZ x (h.own stage' x ?_ hx)
      rcases hstage' with rfl | hstage'
      · exact hst
      · exact (Stage.chained?_ne hstage').1
  exact ⟨hresult, hafter, hkeep.mono fun x hx => h.own stage x hst hx⟩

/-- The variants leave the front as it is. -/
theorem run (h : pl.Ready p sources X Z B pl.frontStages g) (hp : p.fault? = none)
    (ht : pl.ToolsConfined p tools) {results : Stage → Option Outcome}
    (hrun : Floor.Run (pl.BuildsVariant p tools sources) ⟨g, fun _ => none⟩ ⟨w, results⟩) :
    pl.Ready p sources X Z B pl.frontStages w := by
  have hchained : ∀ stage ∈ pl.variantStages, pl.Chained p B stage g := fun stage hmem =>
    h.chained fun stage' hstage' => pl.front_of_chained hmem hstage'
  obtain ⟨-, hframe⟩ := Floor.solo_of_run (separate_variants hp ht h.site hchained) hrun
  refine h.alike hframe ?_ fun stage hmem x hx hl target => ?_
  · rintro x ⟨stage, hmem, hx⟩
    exact h.site.places stage x (pl.ne_sources_of_mem_variants hmem) hx
  · have hnode : w.files.node? x = g.files.node? x := by
      refine hframe.node x ?_
      rintro ⟨stage', hmem', hx'⟩
      exact pl.front_ne_variant hmem hmem' (place_inj (pl.ne_sources_of_mem_front hmem)
        (pl.ne_sources_of_mem_variants hmem') hx hx')
    rw [hnode]
    exact hl target

end Ready

/-! ### What a program touches -/

/-- Where the output directory of a program is made, if it is missing. -/
def missingBin (pl : Pipeline) (p : Program) (w : World) : Set Location :=
  {x | ∃ R, w.files.seen w.current (pl.dir p) = .ok (R, .directory 0) ∧ x = binPlace R ∧
    w.files.node? x = none}

/-- Where the build of a program can change something. -/
def area (pl : Pipeline) (p : Program) (w : World) : Set Location :=
  pl.places p w ∪ pl.missingBin p w

/-- Preparing a sheltered program makes its output directory at most. -/
theorem Sheltered.prepare_frame (h : pl.Sheltered p Y w₀) (halike : World.Alike Y w₀ w) :
    World.Alike (pl.missingBin p w₀) w (deed (pl.prepare p) w).world := by
  cases hprep : (deed (pl.prepare p) w).result with
  | error e =>
    rw [prepare_error hprep]
    exact .refl _ _
  | ok sources =>
    obtain ⟨R, hdir, hmake⟩ := prepare_ok hprep
    rcases withDirectory_bin hdir hmake with ⟨hsame, -⟩ | ⟨hloc, hfree, hmade, -⟩
    · rw [hsame]
      exact .refl _ _
    · have hdir₀ := (halike.seen h.dir).symm.trans hdir
      refine hmade.mono (Set.singleton_subset_iff.2 ⟨R, hdir₀, rfl, ?_⟩)
      rw [← hfree]
      refine (halike.node _ ?_).symm
      exact (h.alike halike).bin _ (FileSystem.mem_looked_of_walk (FileSystem.walk_of_locate hloc))

namespace Reached

/-- **A program alone is on the way to the outcome of its build.** -/
theorem step (hp : p.fault? = none) (ht : pl.ToolsConfined p tools)
    (hnd : pl.variantStages.Nodup) (hshelter : pl.Sheltered p X w₀) (hX : pl.places p w₀ ⊆ X)
    {before after : Progress × World} (h : pl.Reached p tools X (pl.places p w₀) w₀ before)
    (hact : pl.BuildsProgram p tools before after) :
    pl.Reached p tools X (pl.places p w₀) w₀ after := by
  cases hact with
  | unprepared w hprep =>
    cases h
    obtain ⟨hresult, hworld⟩ := pl.build_of_unprepared p tools hprep
    refine .ended hresult ?_
    rw [hworld]
    exact .refl _ _
  | prepared w hprep =>
    cases h
    obtain ⟨B, ready⟩ := Ready.of_prepared hshelter hX hprep
    obtain ⟨hresult, hworld⟩ := pl.build_of_prepared p tools hprep
    exact .front ready pl.inOrder_frontStages (fun _ h => .inr h) hresult hworld
  | failed w hstep =>
    cases h with
    | front ready order all result world =>
      obtain ⟨hresult, hworld⟩ := pl.resumed_error p tools hstep
      refine .ended (result.trans hresult) ?_
      rw [world, hworld]
      exact .refl _ _
  | went w hstep =>
    cases h with
    | front ready order all result world =>
      obtain ⟨hst, -, horder⟩ := order
      obtain ⟨hresult, hworld⟩ := pl.resumed_ok p tools hstep
      refine .front ((ready.step hp ht hst).2 hstep) horder (fun stage hmem => ?_)
        (result.trans hresult) (world.trans hworld)
      rcases all stage hmem with hdone | htodo
      · exact .inl (List.mem_cons_of_mem _ hdone)
      · rcases List.mem_cons.1 htodo with rfl | htodo
        · exact .inl List.mem_cons_self
        · exact .inr htodo
  | parted w =>
    cases h with
    | front ready order all result world =>
      obtain ⟨hresult, hworld⟩ := pl.resumed_nil p tools _ _ w
      -- nothing is left to do of the front, so all of it is done
      refine .variants ⟨ready.site, ready.own, fun stage hmem => ?_⟩ (result.trans hresult)
        (world.trans hworld) .refl
      exact ready.plain stage ((all stage hmem).resolve_right List.not_mem_nil)
  | built w hbuilt =>
    cases h with
    | variants ready result world run =>
      exact .variants ready result world (run.tail (.act ⟨w, _⟩ _ _ hbuilt))
  | joined w hdone =>
    cases h with
    | variants ready result world run =>
      obtain ⟨hresult, halike⟩ := gathered_of_run hp ht hnd ready.site
        (fun stage hmem => ready.chained fun stage' h => pl.front_of_chained hmem h) run hdone
      refine .ended (result.trans (congrArg _ hresult)) ?_
      rw [world]
      exact halike

theorem of_solo (hp : p.fault? = none) (ht : pl.ToolsConfined p tools)
    (hnd : pl.variantStages.Nodup) (hshelter : pl.Sheltered p X w₀) (hX : pl.places p w₀ ⊆ X)
    {after : Progress × World} (h : ReflTransGen (pl.BuildsProgram p tools) (.waiting, w₀) after) :
    pl.Reached p tools X (pl.places p w₀) w₀ after := by
  induction h with
  | refl => exact .waiting
  | tail _ hact ih => exact ih.step hp ht hnd hshelter hX hact

/-- **A program does the same whatever happens where it is sheltered.** -/
theorem undisturbed (hp : p.fault? = none) (ht : pl.ToolsConfined p tools)
    (hshelter : pl.Sheltered p (pl.places p w₀ ∪ Y) w₀) (hY : ∀ x ∈ pl.area p w₀, x ∉ Y)
    {progress : Progress} {after : Progress × World}
    (h : pl.Reached p tools (pl.places p w₀ ∪ Y) (pl.places p w₀) w₀ (progress, g))
    (halike : World.Alike Y g w) (hact : pl.BuildsProgram p tools (progress, w) after) :
    World.Alike (pl.area p w₀) w after.2 ∧
      ∃ g', pl.BuildsProgram p tools (progress, g) (after.1, g') ∧ World.Alike Y g' after.2 := by
  have hYX : Y ⊆ pl.places p w₀ ∪ Y := Set.subset_union_right
  have hplaces : pl.places p w₀ ⊆ pl.area p w₀ := Set.subset_union_left
  have hbin : pl.missingBin p w₀ ⊆ pl.area p w₀ := Set.subset_union_right
  have hZ : ∀ x ∈ pl.places p w₀, x ∉ Y := fun x hx => hY x (hplaces hx)
  cases hact with
  | unprepared w hprep =>
    cases h
    have hs := hshelter.mono hYX
    obtain ⟨hresult, hafter⟩ := hs.prepare_agrees halike
    exact ⟨(hs.prepare_frame halike).mono hbin, _, .unprepared _ (hresult.symm.trans hprep), hafter⟩
  | prepared w hprep =>
    cases h
    have hs := hshelter.mono hYX
    obtain ⟨hresult, hafter⟩ := hs.prepare_agrees halike
    exact ⟨(hs.prepare_frame halike).mono hbin, _, .prepared _ (hresult.symm.trans hprep), hafter⟩
  | failed w hstep =>
    cases h with
    | front ready order all result world =>
      obtain ⟨hst, hchained, -⟩ := order
      obtain ⟨hresult, hafter, hkeep⟩ := ready.undisturbed hp ht hst hchained halike hYX hZ
      exact ⟨hkeep.mono hplaces, _, .failed g (hresult.symm.trans hstep), hafter⟩
  | went w hstep =>
    cases h with
    | front ready order all result world =>
      obtain ⟨hst, hchained, -⟩ := order
      obtain ⟨hresult, hafter, hkeep⟩ := ready.undisturbed hp ht hst hchained halike hYX hZ
      exact ⟨hkeep.mono hplaces, _, .went g (hresult.symm.trans hstep), hafter⟩
  | parted w => exact ⟨.refl _ _, g, .parted g, halike⟩
  | @built w sources made results stage after hbuilt =>
    cases h with
    | variants ready result world run =>
      obtain ⟨hmem, hnone, rfl⟩ := hbuilt.eq
      have hst := pl.ne_sources_of_mem_variants hmem
      obtain ⟨hresult, hafter, hkeep⟩ := (ready.run hp ht run).undisturbed hp ht hst
        (fun stage' hstage' => pl.front_of_chained hmem hstage') halike hYX hZ
      let d := deed ((pl.step p sources stage).run tools p.name) g
      have hact : pl.BuildsVariant p tools sources stage (results stage, g)
          (some d.result, d.world) := by
        rw [hnone]
        exact .built g hmem
      refine ⟨hkeep.mono hplaces, d.world, ?_, hafter⟩
      dsimp only
      rw [hresult]
      exact .built g hact
  | joined w hdone => exact ⟨.refl _ _, g, .joined g hdone, halike⟩

end Reached

/-! ### One step after the other -/

/-- A run of the variants is part of the build. -/
theorem solo_variants {made : List Artifact} {f f' : Floor Stage (Option Outcome)}
    (h : Floor.Run (pl.BuildsVariant p tools sources) f f') :
    ReflTransGen (pl.BuildsProgram p tools) (.variants sources made f.states, f.world)
      (.variants sources made f'.states, f'.world) := by
  induction h with
  | refl => exact .refl
  | tail _ hmove ih =>
    obtain ⟨stage, after, hact⟩ := hmove
    exact ih.tail (.built _ hact)

/-- The rest of a front and the variants, one after the other. -/
theorem solo_resumed (hnd : pl.variantStages.Nodup) (made : List Artifact) (todo : List Stage)
    (g : World) : ReflTransGen (pl.BuildsProgram p tools) (.front sources made todo, g)
      (.ended (pl.resumed p tools sources made todo g).result,
        (pl.resumed p tools sources made todo g).world) := by
  induction todo generalizing made g with
  | nil =>
    obtain ⟨hresult, hworld⟩ := pl.resumed_nil p tools sources made g
    obtain ⟨results, hrun, hdone, hgathered⟩ :=
      @exists_run_of_runEach pl p tools sources hnd g
    rw [hresult, hworld, hgathered]
    exact .head (.parted g) ((solo_variants hrun).tail (.joined _ hdone))
  | cons stage todo ih =>
    cases hstep : (deed ((pl.step p sources stage).run tools p.name) g).result with
    | error e =>
      rw [(pl.resumed_error p tools hstep).1, (pl.resumed_error p tools hstep).2]
      exact .single (.failed g hstep)
    | ok u =>
      rw [(pl.resumed_ok p tools hstep).1, (pl.resumed_ok p tools hstep).2]
      exact .head (.went g hstep) (ih _ _)

/-- To do one thing after the other is one of the orders. -/
theorem solo_build (hnd : pl.variantStages.Nodup) (w : World) :
    ReflTransGen (pl.BuildsProgram p tools) (.waiting, w)
      (.ended (deed (pl.build tools p) w).result, (deed (pl.build tools p) w).world) := by
  cases hprep : (deed (pl.prepare p) w).result with
  | error e =>
    obtain ⟨hresult, hworld⟩ := pl.build_of_unprepared p tools hprep
    rw [hresult, hworld]
    exact .single (.unprepared w hprep)
  | ok sources =>
    obtain ⟨hresult, hworld⟩ := pl.build_of_prepared p tools hprep
    rw [hresult, hworld]
    exact .head (.prepared w hprep) (solo_resumed hnd [] pl.frontStages _)

end Pipeline

end GuardCost
