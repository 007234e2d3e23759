/-
GuardCost/Proofs/BuildShape.lean

The two shapes of a build.  Whatever the files hold and the tools do, the
build of a program either was broken off at one of the stages

    sources, [native,] wasm, bytecode checked, bytecode unchecked

with the artifacts of the stages before it and one failure, and then nothing
of a later stage was started; or its front is complete, and every planned
variant stands either among the artifacts or among the failures.

The two run lemmas (`runFront_shape`, `runEach_shape`) are inductions on the
list of steps; each step contributes only that its error names it and that it
starts its command at most once.
-/
import GuardCost.Proofs.BuildDeeds
import Mathlib.Data.List.Nodup
import Mathlib.Logic.Basic

namespace GuardCost

open GuardCost.Action

/-! ### Runs of steps -/

/-- A front makes the artifacts of the steps before the first failure, and
starts no command after it. -/
theorem runFront_shape (tools : Tools) (name : String) (steps : List Step) (w : World) :
    ((deed (runFront tools name steps) w).result = (steps.map (·.artifact name), none) ∧
        (deed (runFront tools name steps) w).started = steps.map (·.command)) ∨
      ∃ before s after e, steps = before ++ s :: after ∧
        (deed (runFront tools name steps) w).result = (before.map (·.artifact name), some e) ∧
        e.program = name ∧ e.failedStage = s.stage ∧
        ((deed (runFront tools name steps) w).started = before.map (·.command) ∨
          (deed (runFront tools name steps) w).started = (before ++ [s]).map (·.command)) := by
  induction steps generalizing w with
  | nil => exact .inl ⟨rfl, rfl⟩
  | cons s rest ih =>
    cases hs : (deed (s.run tools name) w).result with
    | error e =>
      obtain ⟨hp, hst⟩ := Step.names_of_error hs
      refine .inr ⟨[], s, rest, e, rfl, ?_, hp, hst, ?_⟩
      · rw [deed_runFront_error tools name hs]
        rfl
      · rw [deed_runFront_error tools name hs]
        exact s.started_of_run tools name w
    | ok u =>
      rw [deed_runFront_ok tools name hs]
      rcases ih (deed (s.run tools name) w).world with
        ⟨hr, hst⟩ | ⟨before, t, after, e, hsplit, hr, hp, he, hst⟩
      · refine .inl ⟨?_, ?_⟩
        · simp [hr]
        · simp [hst]
      · refine .inr ⟨s :: before, t, after, e, by rw [hsplit, List.cons_append], ?_, hp, he, ?_⟩
        · simp [hr]
        · rcases hst with hst | hst
          · exact .inl (by simp [hst])
          · exact .inr (by simp [hst])

/-- Steps that all run split into those that succeed and those that fail. -/
theorem runEach_shape (tools : Tools) (name : String) {steps : List Step}
    (hnd : (steps.map (·.stage)).Nodup) (w : World) :
    ∃ failing : Stage → Bool,
      (deed (runEach tools name steps) w).result.1
          = (steps.filter fun s => !failing s.stage).map (·.artifact name) ∧
        (deed (runEach tools name steps) w).result.2.map (fun e => (e.program, e.failedStage))
          = (steps.filter fun s => failing s.stage).map fun s => (name, s.stage) := by
  induction steps generalizing w with
  | nil => exact ⟨fun _ => false, rfl, rfl⟩
  | cons s rest ih =>
    obtain ⟨hs, hrest⟩ := List.nodup_cons.1 hnd
    obtain ⟨failing, hmade, hfailed⟩ := ih hrest (deed (s.run tools name) w).world
    -- the outcome of `s` is added to what is known of the stages after it
    have hkeep : ∀ (v : Bool) (t : Step), t ∈ rest →
        Function.update failing s.stage v t.stage = failing t.stage := by
      intro v t ht
      refine Function.update_of_ne ?_ v failing
      intro h
      exact hs (List.mem_map.2 ⟨t, ht, h⟩)
    have hfilter : ∀ (v : Bool),
        (rest.filter fun t => !Function.update failing s.stage v t.stage)
          = rest.filter (fun t => !failing t.stage) ∧
        (rest.filter fun t => Function.update failing s.stage v t.stage)
          = rest.filter fun t => failing t.stage := by
      intro v
      exact ⟨List.filter_congr fun t ht => by rw [hkeep v t ht],
        List.filter_congr fun t ht => by rw [hkeep v t ht]⟩
    rw [deed_runEach_cons]
    cases ho : (deed (s.run tools name) w).result with
    | ok u =>
      refine ⟨Function.update failing s.stage false, ?_, ?_⟩
      · simp [Step.made, ho, hmade, (hfilter false).1]
      · simp [failed, ho, hfailed, (hfilter false).2]
    | error e =>
      obtain ⟨hp, hst⟩ := Step.names_of_error ho
      refine ⟨Function.update failing s.stage true, ?_, ?_⟩
      · simp [Step.made, ho, hmade, (hfilter true).1]
      · simp [failed, ho, hfailed, (hfilter true).2, hp, hst]

/-! ### Plans -/

namespace Plan

theorem nodup_applicable (h : Host) : (applicable h).Nodup :=
  List.Nodup.filter _ (by decide)

theorem nodup_variants_ofHost (h : Host) : (ofHost h).variants.Nodup := by
  unfold ofHost
  split
  · exact nodup_applicable h
  · exact List.nodup_nil

/-- A compile-only plan has no variants. -/
theorem variants_ofHost_of_compileOnly {h : Host} (hc : (ofHost h).isCompileOnly = true) :
    (ofHost h).variants = [] := by
  unfold ofHost at hc ⊢
  split
  · next hr => simp [hr, isCompileOnly] at hc
  · rfl

end Plan

namespace Pipeline

variable (pl : Pipeline) (p : Program)

/-- With the plan of a machine, the stages of the variants are the planned
ones in either mode. -/
theorem variantStages_eq {h : Host} (hplan : pl.plan = .ofHost h) :
    pl.variantStages = pl.plan.variants.map .variant := by
  unfold variantStages
  split
  · next hc =>
    rw [hplan] at hc ⊢
    rw [Plan.variants_ofHost_of_compileOnly hc]
    rfl
  · rfl

theorem nodup_variantStages {h : Host} (hplan : pl.plan = .ofHost h) :
    pl.variantStages.Nodup := by
  rw [variantStages_eq pl hplan, hplan]
  exact (Plan.nodup_variants_ofHost h).map fun v v' hv => Stage.variant.inj hv

theorem nodup_frontStages : (Stage.sources :: pl.frontStages).Nodup := by
  unfold frontStages
  split <;> decide

theorem not_variant_of_mem_front {stage : Stage} (h : stage ∈ Stage.sources :: pl.frontStages)
    (v : Variant) : stage ≠ .variant v := by
  rintro rfl
  unfold frontStages at h
  split at h <;> simp at h

theorem ne_sources_of_mem_front {stage : Stage} (h : stage ∈ pl.frontStages) :
    stage ≠ .sources := by
  rintro rfl
  exact (List.nodup_cons.1 pl.nodup_frontStages).1 h

theorem exists_variant {stage : Stage} (h : stage ∈ pl.variantStages) :
    ∃ v, stage = .variant v := by
  unfold variantStages at h
  split at h
  · cases h
  · obtain ⟨v, -, rfl⟩ := List.mem_map.1 h
    exact ⟨v, rfl⟩

theorem ne_sources_of_mem_variants {stage : Stage} (h : stage ∈ pl.variantStages) :
    stage ≠ .sources := by
  obtain ⟨v, rfl⟩ := pl.exists_variant h
  exact Stage.noConfusion

theorem front_ne_variant {stage stage' : Stage} (h : stage ∈ pl.frontStages)
    (h' : stage' ∈ pl.variantStages) : stage ≠ stage' := by
  obtain ⟨v, rfl⟩ := pl.exists_variant h'
  exact pl.not_variant_of_mem_front (List.mem_cons_of_mem _ h) v

/-! ### The shapes -/

/-- What a stage of a program makes when it succeeds. -/
def artifact (stage : Stage) : Artifact := ⟨p.name, stage, pl.outputPath p stage⟩

/-- The commands of stages of a program. -/
def commands (sources : List String) (stages : List Stage) : List Command :=
  stages.map fun stage => (pl.step p sources stage).command

theorem map_artifact_steps (sources : List String) (stages : List Stage) :
    (pl.steps p sources stages).map (·.artifact p.name) = stages.map (pl.artifact p) := by
  rw [steps, List.map_map]
  rfl

theorem map_command_steps (sources : List String) (stages : List Stage) :
    (pl.steps p sources stages).map (·.command) = pl.commands p sources stages := by
  rw [steps, List.map_map]
  rfl

theorem map_stage_steps (sources : List String) (stages : List Stage) :
    (pl.steps p sources stages).map (·.stage) = stages := by
  rw [steps, List.map_map]
  exact List.map_id _

/-- A build that was broken off at a stage: there are the artifacts of the
stages before it and one failure, and of the commands those of the stages
before it were started, at most its own after them, and no other. -/
def BrokenOffAt (b : Build) (launched : List Command) (stage : Stage) : Prop :=
  ∃ before after sources e, Stage.sources :: pl.frontStages = before ++ stage :: after ∧
    b.artifacts = before.tail.map (pl.artifact p) ∧
    b.failures = [e] ∧ e.program = p.name ∧ e.failedStage = stage ∧
    (launched = pl.commands p sources before.tail ∨
      launched = pl.commands p sources (before ++ [stage]).tail)

/-- A build whose front is complete: the artifacts of the front come first,
and every planned variant is either among the artifacts or among the failures,
both in the order of the plan. -/
def FrontComplete (b : Build) : Prop :=
  ∃ failing : Variant → Bool,
    b.artifacts = (pl.frontStages
        ++ (pl.plan.variants.filter fun v => !failing v).map Stage.variant).map (pl.artifact p) ∧
      b.failures.map (fun e => (e.program, e.failedStage))
        = (pl.plan.variants.filter failing).map fun v => (p.name, Stage.variant v)

/-! ### Every build has one of the shapes -/

theorem started_prepare (w : World) : (deed (pl.prepare p) w).started = [] := by
  rw [deed_prepare]
  split
  · rfl
  · split <;> rfl

/-- A failing preparation names the program and the first stage. -/
theorem names_of_prepare_error {w : World} {e : BuildError}
    (h : (deed (pl.prepare p) w).result = .error e) :
    e.program = p.name ∧ e.failedStage = .sources := by
  rw [deed_prepare] at h
  split at h
  · next e' he =>
    cases h
    unfold Program.findSources at he
    split at he
    · cases he
      exact ⟨rfl, rfl⟩
    · split at he
      · cases he
        exact ⟨rfl, rfl⟩
      · cases he
  · split at h
    · cases h
      exact ⟨rfl, rfl⟩
    · cases h

theorem program_build (tools : Tools) (w : World) :
    (deed (pl.build tools p) w).result.program = p.name := by
  rw [deed_build, Deed.andThen]
  cases (deed (pl.prepare p) w).result with
  | error e => rw [deed_buildStages_error]; rfl
  | ok sources =>
    rw [deed_buildStages_ok, Deed.andThen]
    obtain ⟨made, - | e⟩ := (deed (runFront tools p.name (pl.steps p sources pl.frontStages))
      (deed (pl.prepare p) w).world).result
    · rw [deed_buildVariants_none]; rfl
    · rfl

/-- A suite is built program by program, in order. -/
theorem programs_buildAll (tools : Tools) (programs : List Program) (w : World) :
    (deed (pl.buildAll tools programs) w).result.map (·.program) = programs.map (·.name) := by
  induction programs generalizing w with
  | nil => rfl
  | cons q rest ih =>
    rw [deed_buildAll_cons]
    exact congrArg₂ List.cons (pl.program_build q tools w) (ih _)

theorem brokenOffAt_of_unprepared (tools : Tools) {w : World} {e : BuildError}
    (h : (deed (pl.prepare p) w).result = .error e) :
    pl.BrokenOffAt p (deed (pl.build tools p) w).result (deed (pl.build tools p) w).started
      .sources := by
  obtain ⟨hp, hs⟩ := pl.names_of_prepare_error p h
  rw [deed_build, Deed.andThen, h, deed_buildStages_error, started_prepare]
  exact ⟨[], pl.frontStages, [], e, rfl, rfl, rfl, hp, hs, .inl rfl⟩

theorem shape_of_prepared (tools : Tools) {h : Host} (hplan : pl.plan = .ofHost h) {w : World}
    {sources : List String} (hprep : (deed (pl.prepare p) w).result = .ok sources) :
    (∃ stage, pl.BrokenOffAt p (deed (pl.build tools p) w).result
        (deed (pl.build tools p) w).started stage) ∨
      pl.FrontComplete p (deed (pl.build tools p) w).result := by
  rw [deed_build, Deed.andThen, hprep, started_prepare, deed_buildStages_ok]
  simp only [Deed.andThen, List.nil_append]
  generalize (deed (pl.prepare p) w).world = w₁
  rcases runFront_shape tools p.name (pl.steps p sources pl.frontStages) w₁ with
    ⟨hr, hst⟩ | ⟨before, s, after, e, hsplit, hr, hp, he, hst⟩
  · -- the front is complete, and the variants are built
    rw [hr, deed_buildVariants_none]
    generalize (deed (runFront tools p.name (pl.steps p sources pl.frontStages)) w₁).world = w₂
    have hnd : ((pl.steps p sources pl.variantStages).map (·.stage)).Nodup := by
      rw [map_stage_steps]
      exact pl.nodup_variantStages hplan
    obtain ⟨failing, hmade, hfailed⟩ := runEach_shape tools p.name hnd w₂
    refine .inr ⟨fun v => failing (.variant v), ?_, ?_⟩
    · simp only [completed, hmade, map_artifact_steps, List.map_append]
      rw [pl.variantStages_eq hplan]
      simp [steps, List.filter_map, Function.comp_def, step, Step.artifact, artifact]
    · simp only [completed, hfailed]
      rw [pl.variantStages_eq hplan]
      simp [steps, List.filter_map, Function.comp_def, step]
  · -- the front was broken off at the stage of `s`
    rw [hr]
    have hstages : pl.frontStages = before.map (·.stage) ++ s.stage :: after.map (·.stage) := by
      rw [← pl.map_stage_steps p sources pl.frontStages, hsplit]
      simp
    have hstep : ∀ t ∈ before ++ [s], t = pl.step p sources t.stage := by
      intro t ht
      have : t ∈ pl.steps p sources pl.frontStages := by
        rw [hsplit]
        simp only [List.mem_append, List.mem_cons, List.not_mem_nil, or_false] at ht ⊢
        tauto
      obtain ⟨stage, -, rfl⟩ := List.mem_map.1 this
      rfl
    have hcommands : ∀ ts : List Step, (∀ t ∈ ts, t ∈ before ++ [s]) →
        ts.map (·.command) = pl.commands p sources (ts.map (·.stage)) := by
      intro ts hts
      rw [commands, List.map_map]
      exact List.map_congr_left fun t ht => congrArg Step.command (hstep t (hts t ht))
    refine .inl ⟨s.stage, .sources :: before.map (·.stage), after.map (·.stage), sources, e, ?_, ?_,
      rfl, hp, he, ?_⟩
    · rw [hstages, List.cons_append]
    · show before.map (·.artifact p.name) = _
      rw [List.tail_cons, List.map_map]
      refine List.map_congr_left fun t ht => ?_
      rw [hstep t (List.mem_append_left _ ht)]
      rfl
    · show _ ++ [] = _ ∨ _ ++ [] = _
      rw [List.append_nil, List.tail_cons, List.cons_append, List.tail_cons]
      rcases hst with hst | hst
      · exact .inl (hst.trans (hcommands _ fun t ht => List.mem_append_left _ ht))
      · refine .inr (hst.trans ((hcommands _ fun t ht => ht).trans ?_))
        rw [List.map_append, List.map_cons, List.map_nil]

end Pipeline

/-! ### Stages do not repeat -/

/-- The stages that a build accounts for: those of its artifacts and those of
its failures. -/
def Build.stages (b : Build) : List Stage := b.artifacts.map (·.stage) ++ b.failedStages

namespace Pipeline

variable {pl : Pipeline} {p : Program} {b : Build}

theorem map_stage_artifact (pl : Pipeline) (p : Program) (stages : List Stage) :
    (stages.map (pl.artifact p)).map (·.stage) = stages := by
  rw [List.map_map]
  exact List.map_id _

theorem BrokenOffAt.stages_eq {launched : List Command} {stage : Stage}
    (h : pl.BrokenOffAt p b launched stage) :
    ∃ before after, Stage.sources :: pl.frontStages = before ++ stage :: after ∧
      b.stages = before.tail ++ [stage] := by
  obtain ⟨before, after, sources, e, hsplit, ha, hf, -, hs, -⟩ := h
  refine ⟨before, after, hsplit, ?_⟩
  rw [Build.stages, Build.failedStages, ha, hf, map_stage_artifact, List.map_cons, hs,
    List.map_nil]

theorem FrontComplete.failedStages_eq (h : pl.FrontComplete p b) :
    ∃ failing : Variant → Bool,
      b.artifacts.map (·.stage) = pl.frontStages
          ++ (pl.plan.variants.filter fun v => !failing v).map Stage.variant ∧
        b.failedStages = (pl.plan.variants.filter failing).map Stage.variant := by
  obtain ⟨failing, ha, hf⟩ := h
  refine ⟨failing, ?_, ?_⟩
  · rw [ha, map_stage_artifact]
  · have := congrArg (List.map Prod.snd) hf
    rwa [List.map_map, List.map_map] at this

/-- No build has both shapes: it is a front stage that breaks a build off. -/
theorem BrokenOffAt.not_frontComplete {launched : List Command} {stage : Stage}
    (h : pl.BrokenOffAt p b launched stage) : ¬ pl.FrontComplete p b := by
  intro hc
  obtain ⟨before, after, sources, e, hsplit, -, hf, -, hs, -⟩ := h
  obtain ⟨failing, -, hfailed⟩ := hc.failedStages_eq
  have hmem : stage ∈ b.failedStages := by
    rw [Build.failedStages, hf, List.map_cons, hs]
    exact List.mem_cons_self
  rw [hfailed] at hmem
  obtain ⟨v, -, hv⟩ := List.mem_map.1 hmem
  exact pl.not_variant_of_mem_front (by rw [hsplit]; simp) v hv.symm

theorem BrokenOffAt.nodup_stages {launched : List Command} {stage : Stage}
    (h : pl.BrokenOffAt p b launched stage) : b.stages.Nodup := by
  obtain ⟨before, after, hsplit, hb⟩ := h.stages_eq
  have hnd : (before ++ stage :: after).Nodup := hsplit ▸ pl.nodup_frontStages
  have hsub : (before.tail ++ [stage]).Sublist (before ++ stage :: after) :=
    (List.tail_sublist before).append (List.cons_sublist_cons.2 (List.nil_sublist after))
  rw [hb]
  exact hnd.sublist hsub

theorem FrontComplete.nodup_stages {h : Host} (hplan : pl.plan = .ofHost h)
    (hc : pl.FrontComplete p b) : b.stages.Nodup := by
  obtain ⟨failing, ha, hf⟩ := hc.failedStages_eq
  have hvs : pl.plan.variants.Nodup := hplan ▸ Plan.nodup_variants_ofHost h
  have hinj : Function.Injective Stage.variant := fun v v' hv => Stage.variant.inj hv
  rw [Build.stages, ha, hf, List.append_assoc, ← List.map_append]
  refine List.nodup_append.2 ⟨(List.nodup_cons.1 pl.nodup_frontStages).2, ?_, ?_⟩
  · refine List.Nodup.map hinj ?_
    refine List.nodup_append.2 ⟨hvs.filter _, hvs.filter _, ?_⟩
    rintro v hv v' hv' rfl
    simp_all
  · rintro stage hfront stage' hvariant rfl
    obtain ⟨v, -, hv⟩ := List.mem_map.1 hvariant
    exact pl.not_variant_of_mem_front (List.mem_cons_of_mem _ hfront) v hv.symm

/-- In compile-only mode a build accounts for nothing but the wasm module and
the bytecodes, and the sources that they are made from. -/
theorem stages_of_compileOnly {h : Host} (hplan : pl.plan = .ofHost h)
    (honly : pl.plan.isCompileOnly = true)
    (hshape : (∃ launched stage, pl.BrokenOffAt p b launched stage) ∨ pl.FrontComplete p b) :
    ∀ stage ∈ b.stages, stage ≠ .native ∧ ∀ v, stage ≠ .variant v := by
  have hfront : ∀ stage ∈ Stage.sources :: pl.frontStages, stage ≠ .native := by
    unfold frontStages
    rw [if_pos honly]
    decide
  have hall : ∀ stage ∈ b.stages, stage ∈ Stage.sources :: pl.frontStages := by
    intro stage hmem
    rcases hshape with ⟨launched, st, hb⟩ | hc
    · obtain ⟨before, after, hsplit, hstages⟩ := hb.stages_eq
      rw [hstages] at hmem
      rw [hsplit]
      rcases List.mem_append.1 hmem with hmem | hmem
      · exact List.mem_append_left _ (List.mem_of_mem_tail hmem)
      · exact List.mem_append_right _ (List.mem_singleton.1 hmem ▸ List.mem_cons_self)
    · obtain ⟨failing, ha, hf⟩ := hc.failedStages_eq
      have hnone : pl.plan.variants = [] := by
        rw [hplan] at honly ⊢
        exact Plan.variants_ofHost_of_compileOnly honly
      rw [Build.stages, ha, hf, hnone] at hmem
      exact List.mem_cons_of_mem _ (by simpa using hmem)
  exact fun stage hmem => ⟨hfront stage (hall stage hmem),
    pl.not_variant_of_mem_front (hall stage hmem)⟩

end Pipeline

/-- If no stage repeats, looking a stage up finds the one artifact of it. -/
theorem Build.artifact?_eq_some_iff {b : Build} (hnd : b.stages.Nodup) {stage : Stage}
    {a : Artifact} : b.artifact? stage = some a ↔ a ∈ b.artifacts ∧ a.stage = stage := by
  constructor
  · intro h
    exact ⟨List.mem_of_find?_eq_some h, by simpa using List.find?_some h⟩
  · rintro ⟨hmem, rfl⟩
    have hinj := List.inj_on_of_nodup_map (List.nodup_append.1 hnd).1
    cases hfind : b.artifact? a.stage with
    | none => exact absurd (List.find?_eq_none.1 hfind a hmem) (by simp)
    | some a' =>
      have hmem' := List.mem_of_find?_eq_some hfind
      have hstage : a'.stage = a.stage := by simpa using List.find?_some hfind
      rw [hinj hmem' hmem hstage]

end GuardCost
