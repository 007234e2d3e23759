/-
GuardCost/Proofs/CompileOnly.lean

Command lines whose target cannot run on the machine.  The mode of the plan is
looked at in five places: where the plan is made, in the front stages, in the
stages of the variants, after a build, and after the builds of a run.  Together
they leave of a run no more than

    say the host  >>  build the suite  >>  say that nothing more is done

where the suite is built from the three stages `lowStages`.  So the machine is
left as the builds leave it, and these are work (`Pipeline.work_buildAll`) that
starts the wasm compiler and the lowering tool only (`program_of_mem_lowStages`).
Where the workers cannot be started, not even that is done.
-/
import GuardCost.Proofs.BuildWork
import GuardCost.Proofs.RatioCells
import GuardCost.Proofs.StaleOutputs
import Mathlib

namespace GuardCost

open GuardCost.Action

/-! ### Stages of a compile-only plan -/

/-- The stages before anything is made that runs on a machine. -/
def lowStages : List Stage := [.wasm, .bytecode .checked, .bytecode .unchecked]

theorem Plan.isCompileOnly_ofHost (h : Host) :
    (Plan.ofHost h).isCompileOnly = !h.isRunnable := by
  rw [Plan.ofHost]
  cases h.isRunnable <;> rfl

namespace Pipeline

variable {pl : Pipeline} {p : Program}

theorem frontStages_of_compileOnly (h : pl.plan.isCompileOnly = true) :
    pl.frontStages = lowStages := by
  rw [frontStages, if_pos h]
  rfl

theorem variantStages_of_compileOnly (h : pl.plan.isCompileOnly = true) :
    pl.variantStages = [] := by
  rw [variantStages, if_pos h]

/-- Each of the three stages is one of two tools. -/
theorem program_of_mem_lowStages (sources : List String) {stage : Stage}
    (h : stage ∈ lowStages) :
    (pl.step p sources stage).command.program = pl.toolchain.wasmCc.bytes ∨
      (pl.step p sources stage).command.program = pl.toolchain.loweringTool.bytes := by
  simp only [lowStages, List.mem_cons, List.not_mem_nil, or_false] at h
  rcases h with rfl | rfl | rfl
  · exact .inl rfl
  · exact .inr rfl
  · exact .inr rfl

theorem shape_of_build (tools : Tools) {h : Host} (hplan : pl.plan = .ofHost h) (w : World) :
    (∃ stage, pl.BrokenOffAt p (deed (pl.build tools p) w).result
        (deed (pl.build tools p) w).started stage) ∨
      pl.FrontComplete p (deed (pl.build tools p) w).result := by
  cases hprep : (deed (pl.prepare p) w).result with
  | error e => exact .inl ⟨.sources, pl.brokenOffAt_of_unprepared p tools hprep⟩
  | ok sources => exact pl.shape_of_prepared p tools hplan hprep

/-- A compile-only build has artifacts of some of the three stages, of none
without those before it. -/
theorem prefix_of_compileOnly (tools : Tools) {h : Host} (hplan : pl.plan = .ofHost h)
    (honly : pl.plan.isCompileOnly = true) (w : World) :
    (deed (pl.build tools p) w).result.artifacts.map (·.stage) <+: lowStages := by
  rcases shape_of_build tools hplan w with ⟨stage, hbroken⟩ | hcomplete
  · obtain ⟨before, after, sources, e, hsplit, hartifacts, -⟩ := hbroken
    rw [hartifacts, map_stage_artifact]
    rw [frontStages_of_compileOnly honly] at hsplit
    cases before with
    | nil => exact List.nil_prefix
    | cons first rest =>
      obtain ⟨-, hrest⟩ := List.cons.inj hsplit
      exact ⟨stage :: after, hrest.symm⟩
  · obtain ⟨failing, hstages, -⟩ := hcomplete.failedStages_eq
    have hnone : pl.plan.variants = [] := by
      rw [hplan] at honly ⊢
      exact Plan.variants_ofHost_of_compileOnly honly
    rw [hstages, hnone, frontStages_of_compileOnly honly]
    exact List.prefix_rfl

/-- A suite is built from the three stages throughout. -/
theorem prefixes_of_compileOnly (tools : Tools) {h : Host} (hplan : pl.plan = .ofHost h)
    (honly : pl.plan.isCompileOnly = true) (programs : List Program) (w : World) :
    ∀ b ∈ (deed (pl.buildAll tools programs) w).result,
      b.artifacts.map (·.stage) <+: lowStages := by
  induction programs generalizing w with
  | nil => exact fun b hb => absurd hb List.not_mem_nil
  | cons q rest ih =>
    rw [deed_buildAll_cons]
    intro b hb
    rcases List.mem_cons.1 hb with rfl | hb
    · exact prefix_of_compileOnly tools hplan honly w
    · exact ih _ b hb

/-- What is started in a compile-only build of a suite are commands of the three
stages. -/
theorem started_of_compileOnly (tools : Tools) (honly : pl.plan.isCompileOnly = true)
    (programs : List Program) (w : World) :
    ∀ c ∈ (deed (pl.buildAll tools programs) w).started, ∃ q ∈ programs, ∃ sources,
      ∃ stage ∈ lowStages, c = (pl.step q sources stage).command := by
  intro c hc
  obtain ⟨s, ⟨q, hq, sources, stage, hstage, rfl⟩, rfl⟩ :=
    Work.command (work_buildAll tools w) c hc
  rw [frontStages_of_compileOnly honly, variantStages_of_compileOnly honly,
    List.append_nil] at hstage
  exact ⟨q, hq, sources, stage, hstage, rfl⟩

end Pipeline

/-! ### Commands of the command line -/

namespace Cli

section
variable {tools : Tools} {setup : Setup}

/-- With a compile-only plan, a command only says something about the builds. -/
theorem summarize_of_compileOnly (honly : setup.pipeline.plan.isCompileOnly = true)
    (builds : List Build) :
    ∃ talk, Quiet talk ∧ summarize setup builds = talk >>= fun _ => pure 0 := by
  refine ⟨notify (buildSummary builds) >>= fun _ =>
    say .note "Compile-only mode: stopped after bytecode",
    (quiet_notify _).bind (quiet_notify _), ?_⟩
  simp only [summarize, honly, if_true]
  rfl

theorem benchBuilt_of_compileOnly (bench : BenchOptions)
    (honly : setup.pipeline.plan.isCompileOnly = true) (builds : List Build) :
    ∃ talk, Quiet talk ∧ benchBuilt tools bench setup builds = talk >>= fun _ => pure 0 := by
  refine ⟨noteEvent .information "compile-only mode: nothing is benchmarked" [] >>= fun _ =>
    say .note "Compile-only mode: stopped after bytecode, nothing benchmarked",
    (quiet_noteEvent _ _ _).bind (quiet_notify _), ?_⟩
  simp only [benchBuilt, honly, if_true]
  rfl

variable {workers : Workers} {suite : SuiteOptions} {host : HostOptions} {options : ToolOptions}
  {r : Request}

/-- What is asked for is a build or a run of a suite. -/
def Request.Builds (r : Request) (suite : SuiteOptions) (host : HostOptions)
    (options : ToolOptions) : Prop :=
  r = .build suite host options ∨ ∃ bench, r = .run suite host options bench

variable (tools workers) in
/-- A build or a run that is prepared builds its setup and goes on with the builds. -/
theorem Request.Builds.run_perform (hr : r.Builds suite host options) :
    ∃ go : Setup → List Build → Action Nat,
      (∀ s : Session, prepare s.world suite host options = .ok setup →
        (r.perform tools workers).run s = (buildThen tools workers go setup).run s) ∧
      (setup.pipeline.plan.isCompileOnly = true →
        ∀ builds, ∃ talk, Quiet talk ∧ go setup builds = talk >>= fun _ => pure 0) := by
  rcases hr with rfl | ⟨bench, rfl⟩
  · exact ⟨summarize, fun s hprep => run_buildSuite_of_prepare hprep, summarize_of_compileOnly⟩
  · exact ⟨benchBuilt tools bench, fun s hprep => run_runSuite_of_prepare bench hprep,
      benchBuilt_of_compileOnly bench⟩

end

namespace Sample
open GuardCost.Sample

/-- The machine of the sample with a program of the standard suite, a system
root and a lowering tool. -/
def equipped : World where
  files := .ofEntries (entries ++
    [(location ["b", "custom_memcmp"], .directory 0),
      (location ["b", "custom_memcmp", "m.c"], text), (location ["w"], .directory 0),
      (location ["w", "sysroot"], .directory 0), (location ["lower"], text)])
  current := []
  now := 0

/-- A build for a microcontroller. -/
def words : List Bytes :=
  ["build", "--target", "thumbv7em-none-unknown-eabi", "--root", "/", "--bench-root", "/b",
    "--runtime-dir", "/r", "--wasm-toolchain", "/w", "--tool", "/lower",
    "--wasm-cc", "wasm-clang"].map Bytes.ofString

def host : HostOptions := ⟨some ⟨"thumbv7em-none-unknown-eabi", "thumbv7em"⟩, none, none⟩

/-- The host as it is found. -/
def hostHere : HostOptions := ⟨none, none, none⟩

def toolOptions : ToolOptions where
  root := .ofString "/"
  benchRoot? := some (.ofString "/b")
  runtimeDir? := some (.ofString "/r")
  wasmToolchain? := some (.ofString "/w")
  release := false
  debug := false
  tool? := some (.ofString "/lower")
  toolName := "silverfish"
  cc := "clang"
  cxx := "clang++"
  wasmCc? := some (.ofString "wasm-clang")
  noDebugSymbols := false
  jobs := 0
  timeout? := none

def layout : Layout := ⟨.ofString "/", .ofString "/b", .ofString "/r", .ofString "/w"⟩

def toolchain (target? : Option Triple) : Toolchain :=
  ⟨"clang", "clang++", .ofString "wasm-clang", .ofString "/w/sysroot", .ofString "/lower",
    target?, true, none⟩

/-- The standard suite, for a host. -/
def setup (host : HostOptions) : Setup :=
  ⟨.standard, host.host, ⟨layout, toolchain host.target?, .ofHost host.host, 0⟩⟩

theorem parse_words :
    Invocation.parse words = .ok ⟨false, false, false, .build ⟨none, []⟩ host toolOptions⟩ := by
  decide +kernel

/-- On the machine of the sample, whether the suite can be prepared is up to the
pipeline. -/
theorem prepare_equipped {host : HostOptions}
    (htoolchain : (toolOptions.toolchain layout (.ofString "/lower") host.target?).absolute
      equipped.currentPath = .ok (toolchain host.target?))
    (hpipeline : (setup host).pipeline.validate equipped = .ok ()) :
    prepare equipped ⟨none, []⟩ host toolOptions = .ok (setup host) := by
  have hlayout : toolOptions.layout.absolute equipped.currentPath = .ok layout := by decide
  have hdirectories : layout.validate equipped = .ok () := by cbv
  have htool : (ToolChoice.explicit (.ofString "/lower")).resolve equipped (.ofString "/")
      "silverfish" = .ok (.ofString "/lower") := by
    cbv
  exact prepare_of_checks rfl hlayout hdirectories rfl htool htoolchain hpipeline

theorem prepare_microcontroller :
    prepare equipped ⟨none, []⟩ host toolOptions = .ok (setup host) := by
  have hpipeline : Pipeline.validate ⟨layout, toolchain host.target?, ⟨.compileOnly, []⟩, 0⟩
      equipped = .ok () := by
    cbv
  have hplan : Plan.ofHost host.host = ⟨.compileOnly, []⟩ := by decide
  rw [← hplan] at hpipeline
  exact prepare_equipped (by decide) hpipeline

end Sample

end Cli

end GuardCost
