/-
GuardCost/Proofs/ToolChanges.lean

How far a change of the tools goes.  A build depends on the tools at its own
commands only: all of them are run in the directory of the program
(`deed_build_congr`), and each is told to write another output, so that the
command of a variant is the command of no other stage (`command_ne`).  If the
tools change on the command of one variant, the build of its program changes in
the entry of that variant only (`deed_build_variant_changed`).
-/
import GuardCost.Proofs.StaleOutputs
import GuardCost.Proofs.VariantOrder

namespace GuardCost

open GuardCost.Action

variable {tools tools' : Tools} {name : String}

/-! ### Tools that agree on some commands -/

theorem Step.deed_run_congr (name : String) {s : Step} (h : tools' s.command = tools s.command)
    (w : World) : deed (s.run tools' name) w = deed (s.run tools name) w := by
  rw [Step.deed_run, Step.deed_run, h]

theorem deed_runFront_congr {steps : List Step}
    (h : ∀ s ∈ steps, tools' s.command = tools s.command) (w : World) :
    deed (runFront tools' name steps) w = deed (runFront tools name steps) w := by
  induction steps generalizing w with
  | nil => rfl
  | cons s rest ih =>
    have hs := Step.deed_run_congr name (h s List.mem_cons_self) w
    have hrest := ih fun s' hs' => h s' (List.mem_cons_of_mem _ hs')
    cases hr : (deed (s.run tools name) w).result with
    | error e =>
      rw [deed_runFront_error tools' name (hs ▸ hr), deed_runFront_error tools name hr, hs]
    | ok u =>
      rw [deed_runFront_ok tools' name (hs ▸ hr), deed_runFront_ok tools name hr, hs]
      simp only [hrest]

theorem deed_runEach_congr {steps : List Step}
    (h : ∀ s ∈ steps, tools' s.command = tools s.command) (w : World) :
    deed (runEach tools' name steps) w = deed (runEach tools name steps) w := by
  induction steps generalizing w with
  | nil => rfl
  | cons s rest ih =>
    rw [deed_runEach_cons, deed_runEach_cons]
    simp only [Step.deed_run_congr name (h s List.mem_cons_self) w,
      ih fun s' hs' => h s' (List.mem_cons_of_mem _ hs')]

namespace Pipeline

variable {pl : Pipeline} {p : Program} {w : World}

/-- A build depends on what the tools do in the directory of its program. -/
theorem deed_build_congr (h : ∀ c, c.directory? = some (pl.dir p) → tools' c = tools c)
    (w : World) : deed (pl.build tools' p) w = deed (pl.build tools p) w := by
  have hsteps : ∀ sources stages, ∀ s ∈ pl.steps p sources stages,
      tools' s.command = tools s.command := by
    intro sources stages s hs
    obtain ⟨stage, -, rfl⟩ := List.mem_map.1 hs
    exact h _ rfl
  rw [deed_build, deed_build]
  refine congrArg _ ?_
  funext prepared u
  cases prepared with
  | error e => rw [deed_buildStages_error, deed_buildStages_error]
  | ok sources =>
    rw [deed_buildStages_ok, deed_buildStages_ok, deed_runFront_congr (hsteps _ _)]
    refine congrArg _ ?_
    funext front u
    obtain ⟨made, - | e⟩ := front
    · rw [deed_buildVariants_none, deed_buildVariants_none, deed_runEach_congr (hsteps _ _)]
    · rfl

/-- Different stages have different outputs. -/
theorem outputPath_inj (hp : p.fault? = none) {stage stage' : Stage} (hst : stage ≠ .sources)
    (hst' : stage' ≠ .sources) (h : pl.outputPath p stage = pl.outputPath p stage') :
    stage = stage' := by
  have hnames := congrArg Path.names h
  rw [names_outputPath pl hp hst, names_outputPath pl hp hst'] at hnames
  exact Program.outputFile_inj hst hst' (List.cons.inj (List.append_cancel_left hnames)).1

/-- Different stages have different commands. -/
theorem command_ne (hp : p.fault? = none) {stage stage' : Stage} (hst : stage ≠ .sources)
    (hst' : stage' ≠ .sources) (hne : stage ≠ stage') (sources sources' : List String) :
    (pl.step p sources stage).command ≠ (pl.step p sources' stage').command := by
  intro h
  have hpath : pl.outputPath p stage = pl.outputPath p stage' :=
    (pl.output_step p sources hst).symm.trans
      ((congrArg Command.output h).trans (pl.output_step p sources' hst'))
  exact hne (outputPath_inj hp hst hst' hpath)

/-! ### One variant -/

/-- Builds of one program that are the same but for what they say of a stage. -/
structure SameBut (stage : Stage) (b b' : Build) : Prop where
  program : b'.program = b.program
  dir : b'.dir = b.dir
  artifacts : b'.artifacts.filter (·.stage ≠ stage) = b.artifacts.filter (·.stage ≠ stage)
  failures : b'.failures.filter (·.failedStage ≠ stage) = b.failures.filter (·.failedStage ≠ stage)

theorem SameBut.refl (stage : Stage) (b : Build) : SameBut stage b b := ⟨rfl, rfl, rfl, rfl⟩

/-- Variants whose results are the same but for one. -/
theorem gathered_sameBut (pl : Pipeline) (p : Program) (sources : List String)
    {stages : List Stage} {stage : Stage} {results results' : Stage → Option Outcome}
    (h : ∀ stage' ∈ stages, stage' ≠ stage → results' stage' = results stage')
    (herror : ∀ e, results stage = some (.error e) ∨ results' stage = some (.error e) →
      e.failedStage = stage) :
    let r := pl.gathered p sources stages results
    let r' := pl.gathered p sources stages results'
    r'.1.filter (·.stage ≠ stage) = r.1.filter (·.stage ≠ stage) ∧
      r'.2.filter (·.failedStage ≠ stage) = r.2.filter (·.failedStage ≠ stage) := by
  intro r r'
  have hmade : ∀ result : Option Outcome, (result.elim []
      ((pl.step p sources stage).made p.name)).filter (·.stage ≠ stage) = [] := by
    rintro (- | (e | ⟨⟩)) <;> simp [Step.made, Step.artifact, step]
  have hfailed : ∀ result : Option Outcome,
      (∀ e, result = some (.error e) → e.failedStage = stage) →
      (result.elim [] failed).filter (·.failedStage ≠ stage) = [] := by
    rintro (- | (e | ⟨⟩)) h
    · rfl
    · simpa [failed] using h e rfl
    · rfl
  simp only [r, r', gathered, List.filter_flatMap]
  refine ⟨List.flatMap_congr fun stage' hmem => ?_, List.flatMap_congr fun stage' hmem => ?_⟩
  · by_cases hstage : stage' = stage
    · subst hstage
      rw [hmade, hmade]
    · rw [h stage' hmem hstage]
  · by_cases hstage : stage' = stage
    · subst hstage
      rw [hfailed _ fun e he => herror e (.inr he), hfailed _ fun e he => herror e (.inl he)]
    · rw [h stage' hmem hstage]

/-- The variants of a program, when tools differ on the command of one. -/
theorem completed_sameBut {sources : List String} {X : Set Location} {B : Location}
    (hp : p.fault? = none) (hnd : pl.variantStages.Nodup) (ht : pl.ToolsConfined p tools)
    (ht' : pl.ToolsConfined p tools') (site : pl.Site p sources X B w)
    (hchained : ∀ stage ∈ pl.variantStages, pl.Chained p B stage w) {stage : Stage}
    (h : ∀ stage' ∈ pl.variantStages, stage' ≠ stage →
      tools' (pl.step p sources stage').command = tools (pl.step p sources stage').command)
    (made : List Artifact) :
    let built := fun tools => deed (runEach tools p.name (pl.steps p sources pl.variantStages)) w
    SameBut stage (pl.completed p made (built tools).result)
      (pl.completed p made (built tools').result) := by
  intro built
  -- what a variant comes to is read off the machine that the front left
  have hbuilt := runEach_of_site hp ht hnd site hchained
  have hbuilt' := runEach_of_site hp ht' hnd site hchained
  have hsame : ∀ stage' ∈ pl.variantStages, stage' ≠ stage →
      some (deed ((pl.step p sources stage').run tools' p.name) w).result =
        some (deed ((pl.step p sources stage').run tools p.name) w).result := by
    intro stage' hmem hne
    rw [Step.deed_run_congr p.name (h stage' hmem hne)]
  obtain ⟨hartifacts, hfailures⟩ := gathered_sameBut pl p sources hsame (by
    rintro e (he | he)
    · exact (Step.names_of_error (Option.some.inj he)).2
    · exact (Step.names_of_error (Option.some.inj he)).2)
  rw [show (built tools).result = _ from hbuilt, show (built tools').result = _ from hbuilt']
  refine ⟨rfl, rfl, ?_, hfailures⟩
  simp only [completed, List.filter_append, hartifacts]

/-- **The tools on the command of a variant decide its entry only.** -/
theorem deed_build_variant_changed (hp : p.fault? = none) (hnd : pl.variantStages.Nodup)
    (ht : pl.ToolsConfined p tools) (ht' : pl.ToolsConfined p tools')
    (hshelter : pl.Sheltered p (pl.places p w) w) {v : Variant}
    (h : ∀ c, c ≠ (pl.step p [] (.variant v)).command → tools' c = tools c) :
    SameBut (.variant v) (deed (pl.build tools p) w).result
      (deed (pl.build tools' p) w).result := by
  have hcommand : ∀ sources stage, stage ≠ .sources → stage ≠ .variant v →
      tools' (pl.step p sources stage).command = tools (pl.step p sources stage).command :=
    fun sources stage hst hne => h _ (command_ne hp hst Stage.noConfusion hne _ _)
  rw [deed_build, deed_build]
  simp only [Deed.andThen]
  cases hprep : (deed (pl.prepare p) w).result with
  | error e =>
    rw [deed_buildStages_error, deed_buildStages_error]
    exact .refl _ _
  | ok sources =>
    rw [deed_buildStages_ok, deed_buildStages_ok]
    -- the front has no variants, so it is the same with both tools
    have hfront : ∀ u, deed (runFront tools' p.name (pl.steps p sources pl.frontStages)) u =
        deed (runFront tools p.name (pl.steps p sources pl.frontStages)) u := by
      refine deed_runFront_congr fun s hs => ?_
      obtain ⟨stage, hmem, rfl⟩ := List.mem_map.1 hs
      exact hcommand sources stage (pl.ne_sources_of_mem_front hmem)
        (pl.not_variant_of_mem_front (List.mem_cons_of_mem _ hmem) v)
    simp only [Deed.andThen, hfront]
    obtain ⟨B, hlock⟩ :=
      lockstep_of_prepared hshelter (World.Alike.refl _ w) (fun _ _ => Iff.rfl) hprep
    obtain ⟨-, done, hlock, -, -, hall⟩ := hlock.front hp ht pl.inOrder_frontStages
    cases hr : (deed (runFront tools p.name (pl.steps p sources pl.frontStages))
        (deed (pl.prepare p) w).world).result with
    | mk made failure? =>
      cases failure? with
      | some e => exact .refl _ _
      | none =>
        have hchained : ∀ stage ∈ pl.variantStages, pl.Chained p B stage _ :=
          fun stage hmem stage' hstage' =>
            (hlock.plain stage' (hall (by rw [hr]) stage' (pl.front_of_chained hmem hstage'))).2
        rw [deed_buildVariants_none, deed_buildVariants_none]
        exact completed_sameBut hp hnd ht ht' hlock.site hchained
          (fun stage hmem => hcommand sources stage (pl.ne_sources_of_mem_variants hmem)) made

end Pipeline

end GuardCost
