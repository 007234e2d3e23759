/-
GuardCost/Proofs/Commands.lean

What the commands that build come to.  A build and a run are prepared first; then
the workers are started and build the suite, and the command goes on with the builds:

    prepare  >>  start the workers  >>  build the suite  >>  summarize, or measure

A preparation that fails is refused (`refuse`).  Workers that cannot be started
build nothing, and the command ends with one (`run_buildThen_of_refused`); otherwise
the builds are those of `Pipeline.buildAll` (`run_buildThen_of_started`).  Around its
request a command line does nothing to the machine (`Invocation.run_perform`,
`perform_of_buildThen`).
-/
import GuardCost.Cli.Run
import GuardCost.Proofs.BuildDeeds
import GuardCost.Proofs.Chains

namespace GuardCost.Cli

open GuardCost.Action

/-! ### Preparations -/

section
variable {w : World} {suite : SuiteOptions} {host : HostOptions} {options : ToolOptions}

theorem prepare_eq (w : World) (suite : SuiteOptions) (host : HostOptions)
    (options : ToolOptions) :
    prepare w suite host options =
      suite.registry w >>= fun r =>
      options.layout.absolute w.currentPath >>= fun l =>
      l.validate w >>= fun _ =>
      ToolChoice.ofFlags options.release options.debug options.tool? >>= fun choice =>
      choice.resolve w l.root options.toolName >>= fun tool =>
      (options.toolchain l tool host.host.target?).absolute w.currentPath >>= fun t =>
      (⟨l, t, .ofHost host.host, options.jobs⟩ : Pipeline).validate w >>= fun _ =>
      .ok ⟨r, host.host, ⟨l, t, .ofHost host.host, options.jobs⟩⟩ := rfl

/-- A prepared setup has the plan of its host. -/
theorem plan_of_prepare {setup : Setup} (h : prepare w suite host options = .ok setup) :
    setup.pipeline.plan = .ofHost setup.host := by
  rw [prepare_eq] at h
  obtain ⟨registry, -, h⟩ := bind_eq_ok_iff.1 h
  obtain ⟨layout, -, h⟩ := bind_eq_ok_iff.1 h
  obtain ⟨-, -, h⟩ := bind_eq_ok_iff.1 h
  obtain ⟨choice, -, h⟩ := bind_eq_ok_iff.1 h
  obtain ⟨tool, -, h⟩ := bind_eq_ok_iff.1 h
  obtain ⟨toolchain, -, h⟩ := bind_eq_ok_iff.1 h
  obtain ⟨-, -, h⟩ := bind_eq_ok_iff.1 h
  cases h
  rfl

/-- What a preparation that succeeds has looked up and checked. -/
theorem prepare_of_checks {registry : Registry} {layout : Layout} {choice : ToolChoice}
    {tool : Path} {toolchain : Toolchain}
    (hregistry : suite.registry w = .ok registry)
    (hlayout : options.layout.absolute w.currentPath = .ok layout)
    (hdirectories : layout.validate w = .ok ())
    (hchoice : ToolChoice.ofFlags options.release options.debug options.tool? = .ok choice)
    (htool : choice.resolve w layout.root options.toolName = .ok tool)
    (htoolchain : (options.toolchain layout tool host.host.target?).absolute w.currentPath =
      .ok toolchain)
    (hpipeline : Pipeline.validate ⟨layout, toolchain, .ofHost host.host, options.jobs⟩ w =
      .ok ()) :
    prepare w suite host options =
      .ok ⟨registry, host.host, ⟨layout, toolchain, .ofHost host.host, options.jobs⟩⟩ := by
  rw [prepare_eq]
  simp only [hregistry, hlayout, hchoice, bind, Except.bind, hdirectories, htool, htoolchain,
    hpipeline]

end

/-! ### Building a setup -/

section
variable (tools : Tools) (workers : Workers) (setup : Setup)

theorem grounded_buildSetup : Grounded (buildSetup tools workers setup) :=
  (quiet_notify _).grounded.bind fun _ =>
    setup.pipeline.grounded_buildByWorkers tools workers _ fun _ => quiet_notify _

/-- To the machine, building a setup is building its suite, if the workers can be
started. -/
theorem deed_buildSetup (w : World) : deed (buildSetup tools workers setup) w =
    match workers.refusal? (setup.pipeline.workerCount workers) with
    | some cause => .idle (.error (.workers cause)) w
    | none =>
      let d := deed (setup.pipeline.buildAll tools setup.registry.programs) w
      ⟨.ok d.result, d.world, d.started⟩ := by
  have hquiet : ∀ b, Quiet (notify (buildNotice b)) := fun _ => quiet_notify _
  refine (deed_quiet_bind (quiet_notify _)
    (setup.pipeline.grounded_buildByWorkers tools workers _ hquiet) w).trans ?_
  exact setup.pipeline.deed_buildByWorkers tools workers _ hquiet w

end

/-! ### What a command does with a setup -/

/-- Say that a command cannot be prepared, and end it. -/
def refuse (e : ConfigError) : Action Nat := do
  noteEvent .error e.message []
  say .failure e.message
  return 1

/-- Go on with a setup, if the preparation gave one. -/
def ifPrepared (go : Setup → Action Nat) : Except ConfigError Setup → Action Nat
  | .error e => refuse e
  | .ok setup => go setup

/-- Go on with what was built, if the workers could be started. -/
def ifBuilt (go : List Build → Action Nat) : Except Error (List Build) → Action Nat
  | .error e => do
    say .failure e.message
    return 1
  | .ok builds => go builds

/-- Build a setup and go on with the builds. -/
def buildThen (tools : Tools) (workers : Workers) (go : Setup → List Build → Action Nat)
    (setup : Setup) : Action Nat :=
  buildSetup tools workers setup >>= ifBuilt (go setup)

/-- What a build does with what was built. -/
def summarize (setup : Setup) (builds : List Build) : Action Nat := do
  notify (buildSummary builds)
  if setup.pipeline.plan.isCompileOnly then
    say .note "Compile-only mode: stopped after bytecode"
  return 0

/-- What a run does with what was built. -/
def benchBuilt (tools : Tools) (options : BenchOptions) (setup : Setup) (builds : List Build) :
    Action Nat := do
  if setup.pipeline.plan.isCompileOnly then
    noteEvent .information "compile-only mode: nothing is benchmarked" []
    say .note "Compile-only mode: stopped after bytecode, nothing benchmarked"
    return 0
  else benchSetup tools setup builds options

section
variable {tools : Tools} {workers : Workers} {suite : SuiteOptions} {host : HostOptions}
  {options : ToolOptions} {s : Session}

theorem run_buildSuite : (buildSuite tools workers suite host options).run s =
    (ifPrepared (buildThen tools workers summarize)
      (prepare s.world suite host options)).run s := rfl

theorem run_runSuite (bench : BenchOptions) :
    (runSuite tools workers suite host options bench).run s =
      (ifPrepared (buildThen tools workers (benchBuilt tools bench))
        (prepare s.world suite host options)).run s := rfl

theorem run_buildSuite_of_prepare {setup : Setup}
    (hprep : prepare s.world suite host options = .ok setup) :
    (buildSuite tools workers suite host options).run s =
      (buildThen tools workers summarize setup).run s := by
  rw [run_buildSuite, hprep]
  rfl

theorem run_runSuite_of_prepare {setup : Setup} (bench : BenchOptions)
    (hprep : prepare s.world suite host options = .ok setup) :
    (runSuite tools workers suite host options bench).run s =
      (buildThen tools workers (benchBuilt tools bench) setup).run s := by
  rw [run_runSuite, hprep]
  rfl

variable {setup : Setup} (go : Setup → List Build → Action Nat)

/-- Where the workers cannot be started, a command ends with one and has done
nothing. -/
theorem run_buildThen_of_refused {cause : SystemError}
    (hrefused : workers.refusal? (setup.pipeline.workerCount workers) = some cause) (s : Session) :
    let out := (buildThen tools workers go setup).run s
    out.1 = 1 ∧ out.2.world = s.world ∧ out.2.started = s.started := by
  have hg := grounded_buildSetup tools workers setup
  have hd := deed_buildSetup tools workers setup s.world
  rw [hrefused] at hd
  have hresult : ((buildSetup tools workers setup).run s).1 = .error (.workers cause) := by
    rw [hg.result, hd]
    rfl
  -- what is left to do is to say why, which is quiet
  rw [buildThen, run_bind, hresult]
  obtain ⟨hworld, hstarted⟩ :=
    quiet_notify { mark := .failure, text := (Error.workers cause).message }
      ((buildSetup tools workers setup).run s).2
  refine ⟨rfl, hworld.trans ?_, hstarted.trans ?_⟩
  · rw [hg.world, hd]
    rfl
  · rw [hg.started, hd]
    exact List.append_nil _

variable (tools) in
/-- Workers that can be started build the suite, and the command goes on with the
builds. -/
theorem run_buildThen_of_started
    (hstart : workers.refusal? (setup.pipeline.workerCount workers) = none) (s : Session) :
    let d := deed (setup.pipeline.buildAll tools setup.registry.programs) s.world
    ∃ built : Session, (buildSetup tools workers setup).run s = (.ok d.result, built) ∧
      built.world = d.world ∧ built.started = s.started ++ d.started ∧
      (buildThen tools workers go setup).run s = (go setup d.result).run built := by
  intro d
  have hg := grounded_buildSetup tools workers setup
  have hd : deed (buildSetup tools workers setup) s.world = ⟨.ok d.result, d.world, d.started⟩ := by
    rw [deed_buildSetup, hstart]
  have hresult : ((buildSetup tools workers setup).run s).1 = .ok d.result := by rw [hg.result, hd]
  refine ⟨((buildSetup tools workers setup).run s).2, Prod.ext hresult rfl, ?_, ?_, ?_⟩
  · rw [hg.world, hd]
  · rw [hg.started, hd]
  · rw [buildThen, run_bind, hresult]
    rfl

end

/-! ### Whole command lines -/

theorem quiet_installMetrics : Quiet installMetrics := fun _ => ⟨rfl, rfl⟩

theorem quiet_printMetrics : Quiet printMetrics := by
  rintro ⟨world, started, metrics, console⟩
  cases metrics with
  | none => exact ⟨rfl, rfl⟩
  | some store => exact ⟨rfl, rfl⟩

/-- What a command line does before its request. -/
def Invocation.before (i : Invocation) (s : Session) : Session :=
  { (if i.metrics then (installMetrics.run s).2 else s) with console.threshold := i.threshold }

/-- What a command line does after its request. -/
def Invocation.after (i : Invocation) (code : Nat) : Action Unit :=
  if i.metrics && code != brokenOff then printMetrics else pure ()

theorem Invocation.run_perform_eq (tools : Tools) (workers : Workers) (i : Invocation)
    (s : Session) :
    (i.perform tools workers).run s =
      let out := (i.request.perform tools workers).run (i.before s)
      (out.1, ((i.after out.1).run out.2).2) := by
  have hafter : ∀ code, (if (i.metrics && code != brokenOff) = true then do
      printMetrics
      pure code
    else pure code : Action Nat) = i.after code >>= fun _ => pure code := by
    intro code
    rw [after]
    split <;> rfl
  unfold perform
  simp only [hafter]
  cases hm : i.metrics with
  | false =>
    simp only [before, hm, Bool.false_eq_true, if_false]
    rfl
  | true =>
    simp only [before, hm, if_true]
    rfl

theorem Invocation.quiet_after (i : Invocation) (code : Nat) : Quiet (i.after code) := by
  rw [after]
  split
  · exact quiet_printMetrics
  · exact fun _ => ⟨rfl, rfl⟩

theorem Invocation.world_before (i : Invocation) (s : Session) : (i.before s).world = s.world := by
  rw [before]
  split
  · exact (quiet_installMetrics s).1
  · rfl

theorem Invocation.started_before (i : Invocation) (s : Session) :
    (i.before s).started = s.started := by
  rw [before]
  split
  · exact (quiet_installMetrics s).2
  · rfl

/-- Around the request, a command line does nothing to the machine. -/
theorem Invocation.run_perform (tools : Tools) (workers : Workers) (i : Invocation)
    (s : Session) :
    ∃ s₁ : Session, s₁.world = s.world ∧ s₁.started = s.started ∧
      let out := (i.perform tools workers).run s
      let done := (i.request.perform tools workers).run s₁
      out.1 = done.1 ∧ out.2.world = done.2.world ∧ out.2.started = done.2.started := by
  refine ⟨i.before s, i.world_before s, i.started_before s, ?_, ?_, ?_⟩ <;>
    rw [i.run_perform_eq]
  · exact (i.quiet_after _ _).1
  · exact (i.quiet_after _ _).2

theorem run_perform_of_parse {words : List Bytes} {i : Invocation} (tools : Tools)
    (workers : Workers) (hparse : Invocation.parse words = .ok i) (s : Session) :
    (perform tools workers words).run s = (i.perform tools workers).run s := by
  rw [perform, hparse]

/-- A command line that builds a setup and goes on with it does nothing else to the
machine, and nothing at all if the workers cannot be started. -/
theorem perform_of_buildThen {words : List Bytes} {i : Invocation} (tools : Tools)
    (workers : Workers) (hparse : Invocation.parse words = .ok i) {setup : Setup}
    {go : Setup → List Build → Action Nat} {s : Session}
    (hgo : ∀ s₁ : Session, s₁.world = s.world →
      (i.request.perform tools workers).run s₁ = (buildThen tools workers go setup).run s₁) :
    let out := (perform tools workers words).run s
    match workers.refusal? (setup.pipeline.workerCount workers) with
    | some _ => out.1 = 1 ∧ out.2.world = s.world ∧ out.2.started = s.started
    | none => ∃ s₁ : Session, s₁.world = s.world ∧ s₁.started = s.started ∧
        let done := (buildThen tools workers go setup).run s₁
        out.1 = done.1 ∧ out.2.world = done.2.world ∧ out.2.started = done.2.started := by
  intro out
  -- `s₁` is the session in which the request begins: the console may differ
  obtain ⟨s₁, hworld₁, hstarted₁, hcode, hworld, hstarted⟩ := i.run_perform tools workers s
  rw [← run_perform_of_parse tools workers hparse, hgo s₁ hworld₁] at hcode hworld hstarted
  cases hworkers : workers.refusal? (setup.pipeline.workerCount workers) with
  | some cause =>
    obtain ⟨hcode', hworld', hstarted'⟩ := run_buildThen_of_refused go hworkers s₁
    exact ⟨hcode.trans hcode', (hworld.trans hworld').trans hworld₁,
      (hstarted.trans hstarted').trans hstarted₁⟩
  | none => exact ⟨s₁, hworld₁, hstarted₁, hcode, hworld, hstarted⟩

end GuardCost.Cli
