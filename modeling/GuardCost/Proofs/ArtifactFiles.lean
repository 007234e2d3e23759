/-
GuardCost/Proofs/ArtifactFiles.lean

What stands at the path of an artifact when it is recorded.  A step clears its
output, starts its tool, and is successful if the tool ends with exit code zero;
whether the tool has written anything is not looked at.  So an artifact comes with
a moment of the build (`Recorded`):

    before     cleared        the tool ends well       after
  w ──────▸ v ────────▸ c ──────────────────────▸ w₁ ──────▸ w'

At `c` its path names no file.  So it names one at `w₁` exactly if the tool has
made it, which is left to the tool: with tools that write what they are asked to
whenever they end well (`Pipeline.ToolsThorough`) every artifact is a file, and
with tools that do nothing at all no artifact is.
-/
import GuardCost.Proofs.BuildWork
import GuardCost.Proofs.ClearedPaths
import GuardCost.Proofs.StaleOutputs

namespace GuardCost

open GuardCost.Action

/-- A process that ended with exit code zero. -/
def Ending.IsSuccess (ending : Ending) : Prop :=
  ∃ stdout stderr elapsed, ending = .ended (.exited 0) stdout stderr elapsed

/-! ### Successful steps -/

namespace Step

variable {tools : Tools} {name : String} {s : Step} {w : World}

theorem verdict_eq_ok_iff (s : Step) (name : String) (ending : Ending) :
    s.verdict name ending = .ok () ↔ ending.IsSuccess := by
  cases ending with
  | notStarted cause => simp [verdict, Command.judge, Ending.IsSuccess]
  | stopped => simp [verdict, Command.judge, Ending.IsSuccess]
  | ended status stdout stderr elapsed =>
    have hstatus : status = .exited 0 ↔ status.isSuccess = true := by
      obtain ⟨raw⟩ := status
      simp [ExitStatus.exited, ExitStatus.isSuccess]
    simp only [verdict, Command.judge, Ending.IsSuccess, Ending.ended.injEq]
    cases hsuccess : status.isSuccess <;> simp [hstatus, hsuccess]

/-- A step succeeds if its output can be cleared and its tool ends well then. -/
theorem run_eq_ok_iff : (deed (s.run tools name) w).result = .ok () ↔
    ∃ c, w.cleared s.output = .ok c ∧ (tools s.command c).1.IsSuccess := by
  rw [deed_run]
  cases hclear : w.cleared s.output with
  | error cause => simp [Deed.idle]
  | ok c => simp [verdict_eq_ok_iff]

end Step

/-! ### Moments of a build -/

/-- The moment of some work at which an artifact is recorded: a tool has just ended
well, and before it was started its output was cleared. -/
inductive Recorded (tools : Tools) (steps : Set Step) (dirs : Set Path) (name : String)
    (w : World) (launched : List Command) (w' : World) (a : Artifact) : Prop
  | intro {s : Step} {before after : List Command} {v c : World} :
      s ∈ steps → a = s.artifact name → launched = before ++ s.command :: after →
      Work tools steps dirs w before v → v.cleared s.output = .ok c →
      (tools s.command c).1.IsSuccess → Work tools steps dirs (tools s.command c).2 after w' →
      Recorded tools steps dirs name w launched w' a

namespace Recorded

variable {tools : Tools} {steps : Set Step} {dirs : Set Path} {name : String}
  {w v w' : World} {launched launched' : List Command} {a : Artifact}

theorem after_work (h : Work tools steps dirs w launched v)
    (hr : Recorded tools steps dirs name v launched' w' a) :
    Recorded tools steps dirs name w (launched ++ launched') w' a := by
  obtain ⟨hs, ha, rfl, hbefore, hclear, hsuccess, hafter⟩ := hr
  exact ⟨hs, ha, (List.append_assoc _ _ _).symm, h.andThen hbefore, hclear, hsuccess, hafter⟩

theorem before_work (hr : Recorded tools steps dirs name w launched v a)
    (h : Work tools steps dirs v launched' w') :
    Recorded tools steps dirs name w (launched ++ launched') w' a := by
  obtain ⟨hs, ha, rfl, hbefore, hclear, hsuccess, hafter⟩ := hr
  exact ⟨hs, ha, List.append_assoc _ _ _, hbefore, hclear, hsuccess, hafter.andThen h⟩

end Recorded

section
variable {tools : Tools} {steps : Set Step} {dirs : Set Path} {name : String} {w : World}
  {a : Artifact}

/-- A step that succeeds is the moment of its artifact. -/
theorem recorded_run {s : Step} (hs : s ∈ steps)
    (h : (deed (s.run tools name) w).result = .ok ()) :
    Recorded tools steps dirs name w (deed (s.run tools name) w).started
      (deed (s.run tools name) w).world (s.artifact name) := by
  obtain ⟨c, hclear, hsuccess⟩ := Step.run_eq_ok_iff.1 h
  rw [Step.deed_run, hclear]
  exact ⟨hs, rfl, rfl, .idle w, hclear, hsuccess, .idle _⟩

/-- Each artifact of a front has its moment in it. -/
theorem recorded_runFront {front : List Step} (hfront : ∀ s ∈ front, s ∈ steps)
    (ha : a ∈ (deed (runFront tools name front) w).result.1) :
    Recorded tools steps dirs name w (deed (runFront tools name front) w).started
      (deed (runFront tools name front) w).world a := by
  induction front generalizing w with
  | nil => exact absurd ha List.not_mem_nil
  | cons s rest ih =>
    have hs := hfront s List.mem_cons_self
    have hrest : ∀ t ∈ rest, t ∈ steps := fun t ht => hfront t (List.mem_cons_of_mem _ ht)
    cases hr : (deed (s.run tools name) w).result with
    | error e =>
      rw [deed_runFront_error tools name hr] at ha
      exact absurd ha List.not_mem_nil
    | ok u =>
      have hhead : (deed (s.run tools name) w).IsWork tools steps dirs w := s.work_run name hs w
      rw [Deed.IsWork, Step.started_of_ok hr] at hhead
      rw [deed_runFront_ok tools name hr] at ha ⊢
      rcases List.mem_cons.1 ha with rfl | ha
      -- the first step is the moment of its own artifact; the other moments come after it
      · have hrecorded : Recorded tools steps dirs name w _ _ _ := recorded_run hs hr
        rw [Step.started_of_ok hr] at hrecorded
        exact hrecorded.before_work (work_runFront name hrest _)
      · exact .after_work hhead (ih hrest ha)

/-- So has each artifact of the variants. -/
theorem recorded_runEach {variants : List Step} (hall : ∀ s ∈ variants, s ∈ steps)
    (ha : a ∈ (deed (runEach tools name variants) w).result.1) :
    Recorded tools steps dirs name w (deed (runEach tools name variants) w).started
      (deed (runEach tools name variants) w).world a := by
  induction variants generalizing w with
  | nil => exact absurd ha List.not_mem_nil
  | cons s rest ih =>
    have hs := hall s List.mem_cons_self
    have hrest : ∀ t ∈ rest, t ∈ steps := fun t ht => hall t (List.mem_cons_of_mem _ ht)
    rw [deed_runEach_cons] at ha ⊢
    rcases List.mem_append.1 ha with ha | ha
    · cases hr : (deed (s.run tools name) w).result with
      | error e =>
        rw [hr] at ha
        exact absurd ha List.not_mem_nil
      | ok u =>
        rw [hr] at ha
        rw [List.mem_singleton.1 ha]
        exact (recorded_run hs hr).before_work (work_runEach name hrest _)
    · exact .after_work (s.work_run name hs w) (ih hrest ha)

end

namespace Pipeline

variable {pl : Pipeline} {p : Program} {tools : Tools} {dirs : Set Path} {w : World} {a : Artifact}

theorem recorded_buildVariants (dirs : Set Path) {sources : List String}
    {front : List Artifact × Option BuildError}
    (ha : a ∈ (deed (pl.buildVariants p tools sources front) w).result.artifacts) :
    a ∈ front.1 ∨
      Recorded tools (pl.stepsOf p) dirs p.name w
        (deed (pl.buildVariants p tools sources front) w).started
        (deed (pl.buildVariants p tools sources front) w).world a := by
  obtain ⟨made, - | e⟩ := front
  · rw [deed_buildVariants_none] at ha ⊢
    rcases List.mem_append.1 ha with ha | ha
    · exact .inl ha
    · exact .inr (recorded_runEach (mem_stepsOf (List.subset_append_right _ _)) ha)
  · exact .inl ha

theorem recorded_buildStages {prepared : Except BuildError (List String)}
    (ha : a ∈ (deed (pl.buildStages p tools prepared) w).result.artifacts) :
    Recorded tools (pl.stepsOf p) dirs p.name w (deed (pl.buildStages p tools prepared) w).started
      (deed (pl.buildStages p tools prepared) w).world a := by
  cases prepared with
  | error e =>
    rw [deed_buildStages_error] at ha
    exact absurd ha List.not_mem_nil
  | ok sources =>
    have hsteps : ∀ s ∈ pl.steps p sources pl.frontStages, s ∈ pl.stepsOf p :=
      mem_stepsOf (List.subset_append_left _ _)
    rw [deed_buildStages_ok] at ha ⊢
    rcases recorded_buildVariants dirs ha with ha | hr
    · exact (recorded_runFront hsteps ha).before_work (work_buildVariants tools _ _ _)
    · exact .after_work (work_runFront p.name hsteps _) hr

/-- Each artifact of a build has its moment in it. -/
theorem recorded_build (hdir : pl.bin p ∈ dirs)
    (ha : a ∈ (deed (pl.build tools p) w).result.artifacts) :
    Recorded tools (pl.stepsOf p) dirs p.name w (deed (pl.build tools p) w).started
      (deed (pl.build tools p) w).world a := by
  rw [deed_build] at ha ⊢
  exact .after_work (work_prepare tools hdir w) (recorded_buildStages ha)

/-- Tools that write the output of a step of a program whenever they end well. -/
def ToolsThorough (pl : Pipeline) (p : Program) (tools : Tools) : Prop :=
  ∀ s ∈ pl.stepsOf p, ∀ w, (tools s.command w).1.IsSuccess →
    (tools s.command w).2.files.isFile w.current s.output = true

theorem stage_of_mem_stepsOf {s : Step} (h : s ∈ pl.stepsOf p) :
    ∃ sources stage, stage ≠ .sources ∧ s = pl.step p sources stage := by
  obtain ⟨sources, stage, hstage, rfl⟩ := h
  refine ⟨sources, stage, ?_, rfl⟩
  rcases List.mem_append.1 hstage with hstage | hstage
  · exact pl.ne_sources_of_mem_front hstage
  · exact pl.ne_sources_of_mem_variants hstage

/-- **An artifact is what a tool that ended well was to write.**  Each artifact of a
build has a moment in it at which it is recorded.  The tool of its stage, which was
given its path to write to, has just ended with exit code zero, and where it was
started the path named no file.  So the artifact names one then if tools write what
they are to write whenever they end well, and it names none if this tool has changed
nothing.  It is recorded in either case: a step succeeds if its output can be
cleared and its tool ends well. -/
theorem artifact_of_success (pl : Pipeline) (p : Program) (tools : Tools) (s : Session) :
    let r := (pl.build tools p).run s
    ∃ launched, r.2.started = s.started ++ launched ∧
      (∀ a ∈ r.1.artifacts, ∃ sources before after v c,
        let command := (pl.step p sources a.stage).command
        let w₁ := (tools command c).2
        a = pl.artifact p a.stage ∧ command.output = a.path ∧
        launched = before ++ command :: after ∧
        Work tools (pl.stepsOf p) {pl.bin p} s.world before v ∧
        v.cleared a.path = .ok c ∧ c.files.isFile c.current a.path = false ∧
        (tools command c).1.IsSuccess ∧
        Work tools (pl.stepsOf p) {pl.bin p} w₁ after r.2.world ∧
        (pl.ToolsThorough p tools → w₁.files.isFile c.current a.path = true) ∧
        (w₁.files = c.files → w₁.files.isFile c.current a.path = false)) ∧
      ∀ step w, (deed (Step.run tools p.name step) w).result = .ok () ↔
        ∃ c, w.cleared step.output = .ok c ∧ (tools step.command c).1.IsSuccess := by
  intro r
  have hg := pl.grounded_build p tools
  refine ⟨_, hg.started s, fun a ha => ?_, fun step w => Step.run_eq_ok_iff⟩
  have ha : a ∈ (deed (pl.build tools p) s.world).result.artifacts := hg.result s ▸ ha
  have hrecorded : Recorded tools (pl.stepsOf p) {pl.bin p} p.name s.world _ _ a :=
    recorded_build (Set.mem_singleton _) ha
  obtain ⟨hs, rfl, hlaunched, hbefore, hclear, hsuccess, hafter⟩ := hrecorded
  obtain ⟨sources, stage, hstage, rfl⟩ := stage_of_mem_stepsOf hs
  have habsent := World.isFile_of_cleared hclear
  refine ⟨sources, _, _, _, _, rfl, pl.output_step p sources hstage, hlaunched, hbefore, hclear,
    habsent, hsuccess, ?_, fun hthorough => hthorough _ hs _ hsuccess, fun hsame => ?_⟩
  · rw [hg.world s]
    exact hafter
  · rw [hsame]
    exact habsent

end Pipeline

/-! ### Steps that leave the machine as it was -/

/-- A step that ends well and leaves the machine as it was. -/
def Step.IsSteady (tools : Tools) (name : String) (w : World) (s : Step) : Prop :=
  deed (s.run tools name) w = ⟨.ok (), w, [s.command]⟩

section
variable {tools : Tools} {name : String} {steps : List Step} {w : World}

theorem runFront_steady (h : ∀ s ∈ steps, s.IsSteady tools name w) :
    deed (runFront tools name steps) w =
      ⟨(steps.map (·.artifact name), none), w, steps.map (·.command)⟩ := by
  induction steps with
  | nil => rfl
  | cons s rest ih =>
    have hrun : deed (s.run tools name) w = _ := h s List.mem_cons_self
    rw [deed_runFront_ok tools name (congrArg Deed.result hrun), hrun,
      ih fun t ht => h t (List.mem_cons_of_mem _ ht)]
    rfl

theorem runEach_steady (h : ∀ s ∈ steps, s.IsSteady tools name w) :
    deed (runEach tools name steps) w =
      ⟨(steps.map (·.artifact name), []), w, steps.map (·.command)⟩ := by
  induction steps with
  | nil => rfl
  | cons s rest ih =>
    have hrun : deed (s.run tools name) w = _ := h s List.mem_cons_self
    rw [deed_runEach_cons, hrun]
    dsimp only
    rw [ih fun t ht => h t (List.mem_cons_of_mem _ ht)]
    rfl

end

/-- If all its steps leave the machine as it was, a build makes every artifact. -/
theorem Pipeline.build_steady {tools : Tools} {pl : Pipeline} {p : Program}
    {sources : List String} {w : World}
    (hprep : deed (pl.prepare p) w = .idle (.ok sources) w)
    (hsteady : ∀ stage ∈ pl.frontStages ++ pl.variantStages,
      (pl.step p sources stage).IsSteady tools p.name w) :
    deed (pl.build tools p) w =
      ⟨⟨p.name, pl.dir p, (pl.frontStages ++ pl.variantStages).map (pl.artifact p), []⟩, w,
        pl.commands p sources (pl.frontStages ++ pl.variantStages)⟩ := by
  have hsteps : ∀ stages ⊆ pl.frontStages ++ pl.variantStages,
      ∀ s ∈ pl.steps p sources stages, s.IsSteady tools p.name w := by
    intro stages hstages s hs
    obtain ⟨stage, hstage, rfl⟩ := List.mem_map.1 hs
    exact hsteady stage (hstages hstage)
  rw [deed_build, hprep, Deed.idle_andThen, deed_buildStages_ok,
    runFront_steady (hsteps _ (List.subset_append_left _ _)), Deed.andThen]
  dsimp only
  rw [deed_buildVariants_none, runEach_steady (hsteps _ (List.subset_append_right _ _))]
  simp [completed, map_artifact_steps, map_command_steps, commands]

/-- A program whose output directory stands is prepared without a change. -/
theorem Pipeline.prepare_standing {pl : Pipeline} {p : Program} {sources : List String} {w : World}
    (hsources : p.findSources w (pl.dir p) = .ok sources)
    (hexists : w.files.createDirectory w.current w.now (pl.bin p) = .error .exists_)
    (hdir : w.files.isDirectory w.current (pl.bin p) = true) :
    deed (pl.prepare p) w = .idle (.ok sources) w := by
  have hbin : w.withDirectory (pl.bin p) = .ok w := by
    rw [World.withDirectory, hexists]
    exact if_pos hdir
  rw [deed_prepare, hsources]
  dsimp only
  rw [hbin]

/-- Nothing is built of a program whose directory cannot be listed. -/
theorem Pipeline.build_unlisted {tools : Tools} {pl : Pipeline} {p : Program} {w : World}
    (h : ∀ names, w.files.list w.current (pl.dir p) ≠ .ok names) :
    ∃ b, deed (pl.build tools p) w = .idle b w := by
  cases hlist : w.files.list w.current (pl.dir p) with
  | ok names => exact absurd hlist (h names)
  | error cause =>
    have hsources : p.findSources w (pl.dir p) = .error (.io p.name .sources (pl.dir p) cause) := by
      rw [Program.findSources, hlist]
    rw [deed_build, deed_prepare, hsources]
    dsimp only
    rw [Deed.idle_andThen, deed_buildStages_error]
    exact ⟨_, rfl⟩

/-- Tools that end well and write nothing. -/
def Tools.idle : Tools := fun _ w => (.ended (.exited 0) [] [] ⟨1⟩, w)

theorem Step.isSteady_idle {name : String} {s : Step} {w : World}
    (h : w.cleared s.output = .ok w) : s.IsSteady .idle name w := by
  rw [IsSteady, deed_run, h]
  rfl

/-- Tools that end well and put the machine back as it is here. -/
def Tools.restoring (w : World) : Tools := fun _ _ => (.ended (.exited 0) [] [] ⟨1⟩, w)

theorem Step.isSteady_restoring {name : String} {s : Step} {w c : World}
    (h : w.cleared s.output = .ok c) : s.IsSteady (.restoring w) name w := by
  rw [IsSteady, deed_run, h]
  rfl

namespace Sample

theorem prepare_unbuilt :
    deed (pipeline.prepare { name := "a" }) world = .idle (.ok ["m.c"]) world :=
  Pipeline.prepare_standing (by cbv) (by cbv) (by cbv)

/-- Nothing stands at the outputs of a program that was never built. -/
theorem cleared_unbuilt : ∀ stage ∈ pipeline.frontStages ++ pipeline.variantStages,
    world.cleared (pipeline.outputPath { name := "a" } stage) = .ok world := by
  have hnone : (pipeline.frontStages ++ pipeline.variantStages).all (fun stage =>
      decide (world.files.removeFile world.current world.now
        (pipeline.outputPath { name := "a" } stage) = .error .notFound)) = true := by
    cbv
  intro stage hstage
  have hremove := of_decide_eq_true (List.all_eq_true.1 hnone stage hstage)
  rw [World.cleared, hremove]
  rfl

/-- A build without a failure whose tools have left the machine as it was, with no
file at the path of any of its artifacts. -/
theorem artifacts_without_files :
    let r := (pipeline.build .idle { name := "a" }).run (.ofWorld world)
    r.1.failures = [] ∧ r.2.world = world ∧
      pipeline.artifact { name := "a" } .native ∈ r.1.artifacts ∧
      ∀ a ∈ r.1.artifacts, r.2.world.files.isFile r.2.world.current a.path = false := by
  intro r
  have hg := pipeline.grounded_build { name := "a" } .idle
  have hdeed : deed (pipeline.build .idle { name := "a" }) (Session.ofWorld world).world = _ :=
    Pipeline.build_steady prepare_unbuilt fun stage hstage =>
      Step.isSteady_idle (cleared_unbuilt stage hstage)
  have hresult : r.1 = _ := (hg.result (.ofWorld world)).trans (congrArg Deed.result hdeed)
  have hworld : r.2.world = world :=
    (hg.world (.ofWorld world)).trans (congrArg Deed.world hdeed)
  rw [hresult, hworld]
  refine ⟨rfl, rfl, List.mem_map_of_mem (by decide), fun a ha => ?_⟩
  obtain ⟨stage, hstage, rfl⟩ := List.mem_map.1 ha
  exact World.isFile_of_cleared (cleared_unbuilt stage hstage)

end Sample

end GuardCost
