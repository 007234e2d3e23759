/-
GuardCost/Proofs/SettledChoices.lean

What a command line has settled before anything is prepared.  The three options that
choose the lowering tool exclude each other at their level, and a number of runs is
read only between 1 and 4294967295.  So of an accepted command line, in whatever order
and spelling,

    release + debug + tool ≤ 1        1 ≤ runs ≤ 4294967295

and two errors of the parts behind it are never met: a preparation does not end in
`conflictingProfiles`, which needs two of the three options
(`flags_of_conflictingProfiles`), and a measurement does not end in `noSamples`, which
needs a policy without repetitions (`Measured.ne_noSamples`).
-/
import GuardCost.Proofs.BenchTrials
import GuardCost.Proofs.GivenOptions
import GuardCost.Proofs.Reductions
import GuardCost.Proofs.RunOutcome

namespace GuardCost

open GuardCost.Action

/-! ### Samples -/

section
variable (tools : Tools) (p : Program) {policy : Policy}

theorem Accepted.ne_noSamples {r : Reduction} {times : List Float}
    {result : Except MeasureError Float} (h : Accepted r times result) (hne : times ≠ []) :
    result ≠ .error .noSamples := by
  cases h with
  | none hnil => exact absurd hnil hne
  | usable => nofun
  | unusable => nofun

/-- A measurement that is repeated at least once has samples, or an error of its own. -/
theorem Measured.ne_noSamples {path : Path} {c : Command} {w : World}
    {d : Deed (Except MeasureError Float)} (h : Measured tools policy path c w d)
    (hruns : policy.repetitions ≠ 0) : d.result ≠ .error .noSamples := by
  cases h with
  | missing => nofun
  | failed => nofun
  | complete hfile hlength hgood hresult =>
    refine hresult.ne_noSamples fun hnil => hruns ?_
    rw [← hlength, List.map_eq_nil_iff.1 hnil, List.length_nil]

theorem benchEach_ne_noSamples (hruns : policy.repetitions ≠ 0) (dir : Path) (observe : Observer)
    (seen : Attempts) (targets : List (Column × Path)) (s : Session) :
    ∀ attempt ∈ ((benchEach tools p dir policy observe seen targets).run s).1,
      attempt.2 ≠ .error .noSamples := by
  induction targets generalizing seen s with
  | nil => exact fun attempt h => absurd h List.not_mem_nil
  | cons target rest ih =>
    obtain ⟨c, path⟩ := target
    have hmeasure : ((measure tools path p.arguments dir policy).run s).1 ≠ .error .noSamples := by
      rw [(grounded_measure tools dir policy path p.arguments).result]
      exact (measured_measure tools p dir policy path s.world).ne_noSamples tools hruns
    rw [benchEach_cons, run_bind, benchNext, run_bind, run_bind]
    generalize ((measure tools path p.arguments dir policy).run s).1 = result at hmeasure
    split
    · intro attempt h
      obtain rfl := List.mem_singleton.1 h
      exact hmeasure
    · rw [run_bind]
      intro attempt h
      rcases List.mem_cons.1 h with rfl | h
      · exact hmeasure
      · exact ih _ _ attempt h

/-- Whoever watches, and whatever is done about what is seen. -/
theorem benchProgram_ne_noSamples (hruns : policy.repetitions ≠ 0) (b : Build)
    (variants : List Variant) (observe : Observer) (s : Session) :
    ∀ attempt ∈ ((benchProgram tools p b variants policy observe).run s).1,
      attempt.2 ≠ .error .noSamples := by
  obtain ⟨outer, inner, hresult, -⟩ := run_within "bench" p.name
    (benchEach tools p b.dir policy observe [] (benchTargets b variants)) s
  rw [benchProgram, hresult]
  exact benchEach_ne_noSamples tools p hruns b.dir observe [] _ _

end

namespace Cli

/-! ### The choice of the lowering tool -/

/-- Only two options that choose the lowering tool can be in conflict. -/
theorem flags_of_conflictingProfiles {w : World} {suite : SuiteOptions} {host : HostOptions}
    {options : ToolOptions} (h : prepare w suite host options = .error .conflictingProfiles) :
    options.release = true ∧ options.debug = true := by
  generalize he : ConfigError.conflictingProfiles = e at h
  cases prepare_eq_error_iff.1 h with
  | profiles hr hl hneeds hrelease hdebug => exact ⟨hrelease, hdebug⟩
  | suite hfault =>
    cases hfault with
    | unknownName => cases he
    | file hpath hload =>
      cases hload with
      | offender _ _ _ _ hoffends => cases hoffends <;> cases he
      | _ => cases he
  | path hr hunplaced | toolPath hr hl hneeds hchoice htool hunplaced =>
    obtain ⟨before, p, after, cause, -, -, -, rfl⟩ := hunplaced
    cases he
  | loweringTool hr hl hneeds hchoice hlacks => cases hlacks <;> cases he
  | @directory r l before after n | @input r l choice tool t before after n =>
    cases n <;> cases he

/-! ### The options of a level -/

theorem runs?_bounds {s : String} {n : Nat} (h : runs? s = some n) : 1 ≤ n ∧ n ≤ mostRuns := by
  obtain ⟨hnatural, hone⟩ := Option.filter_eq_some_iff.1 h
  obtain ⟨-, hmost⟩ := Option.filter_eq_some_iff.1 hnatural
  exact ⟨of_decide_eq_true hone, Nat.le_of_lt_succ (of_decide_eq_true hmost)⟩

/-- What the values of a level say about its options: a tool is there if one was
given, and a number of runs that was given is in its range. -/
structure Given.Settled (g : Given) (os : List Opt) : Prop where
  tool : g.tool?.isSome = decide (Opt.tool ∈ os)
  runs : ∀ n, g.runs? = some n → 1 ≤ n ∧ n ≤ mostRuns

theorem Given.Settled.place {g h : Given} {os : List Opt} {o : Opt} {word : Bytes}
    (hg : g.Settled os) (hplace : g.place o word = .ok h) : h.Settled (os ++ [o]) := by
  have hother : h.tool? = g.tool? → h.runs? = g.runs? → o ≠ .tool → h.Settled (os ++ [o]) := by
    intro htool hruns ho
    refine ⟨?_, fun n hn => hg.runs n (hruns ▸ hn)⟩
    rw [htool, hg.tool]
    simp [ho.symm]
  cases o
  case tool =>
    obtain ⟨path, -, hvalue⟩ := bind_eq_ok_iff.1 hplace
    cases hvalue
    exact ⟨by simp, hg.runs⟩
  case runs =>
    obtain ⟨n, hread, hvalue⟩ := bind_eq_ok_iff.1 hplace
    cases hvalue
    obtain ⟨s, -, hread⟩ := bind_eq_ok_iff.1 hread
    refine ⟨by simpa using hg.tool, fun n' hn' => ?_⟩
    cases hn'
    split at hread
    · next hruns =>
      cases hread
      exact runs?_bounds hruns
    · cases hread
  -- no other option has its place there
  all_goals
    first
    | cases hplace
      exact hother rfl rfl nofun
    | obtain ⟨value, -, hvalue⟩ := bind_eq_ok_iff.1 hplace
      cases hvalue
      exact hother rfl rfl nofun

theorem Placed.settled {uses : List Use} {g : Given} (h : Placed uses g) :
    g.Settled (optionsOf uses) := by
  induction uses using List.reverseRecOn generalizing g with
  | nil =>
    cases h.placeAll
    exact ⟨rfl, nofun⟩
  | append_singleton uses use ih =>
    obtain ⟨-, g₁, hfront, hplace⟩ := placed_concat_iff.1 h
    have hsettled := (ih hfront).place hplace
    simpa [optionsOf] using hsettled

/-- How many of the options that choose the lowering tool were given. -/
def ToolOptions.choices (o : ToolOptions) : Nat :=
  o.release.toNat + o.debug.toNat + o.tool?.isSome.toNat

/-- Of options that go together, at most one chooses the lowering tool. -/
theorem Given.Settled.choices_le_one {g : Given} {os : List Opt} (hg : g.Settled os)
    (h : Opt.Together os) : (g.withOptions os).toolOptions.choices ≤ 1 := by
  show (decide (Opt.release ∈ os)).toNat + (decide (Opt.debug ∈ os)).toNat +
    g.tool?.isSome.toNat ≤ 1
  rw [hg.tool]
  have hpairs := (Opt.together_iff.1 h).2
  have hprofiles := hpairs (.release, .debug) (by decide)
  have hrelease := hpairs (.tool, .release) (by decide)
  have hdebug := hpairs (.tool, .debug) (by decide)
  by_cases h₁ : Opt.release ∈ os <;> by_cases h₂ : Opt.debug ∈ os <;>
    by_cases h₃ : Opt.tool ∈ os <;> simp_all

theorem Given.Settled.runs_bounds {g : Given} {os : List Opt} (hg : g.Settled os) :
    1 ≤ (g.withOptions os).benchOptions.runs ∧
      (g.withOptions os).benchOptions.runs ≤ mostRuns := by
  show 1 ≤ g.runs?.getD 10 ∧ g.runs?.getD 10 ≤ mostRuns
  cases h : g.runs? with
  | none => decide
  | some n => exact hg.runs n h

/-- Options of which at most one chooses the lowering tool combine to a choice. -/
theorem ToolOptions.exists_choice {o : ToolOptions} (h : o.choices ≤ 1) :
    ∃ choice, ToolChoice.ofFlags o.release o.debug o.tool? = .ok choice := by
  cases hflags : ToolChoice.ofFlags o.release o.debug o.tool? with
  | ok choice => exact ⟨choice, rfl⟩
  | error e =>
    obtain ⟨hrelease, hdebug, -⟩ := ToolChoice.ofFlags_eq_error_iff.1 hflags
    rw [choices, hrelease, hdebug, Bool.toNat_true] at h
    omega

theorem ToolOptions.prepare_ne_conflictingProfiles {o : ToolOptions} (h : o.choices ≤ 1)
    (w : World) (suite : SuiteOptions) (host : HostOptions) :
    prepare w suite host o ≠ .error .conflictingProfiles := by
  intro hprepare
  obtain ⟨hrelease, hdebug⟩ := flags_of_conflictingProfiles hprepare
  rw [choices, hrelease, hdebug, Bool.toNat_true] at h
  omega

/-! ### Command lines -/

/-- The options of a request on directories and tools. -/
def Request.tools? : Request → Option ToolOptions
  | .run _ _ tools _ => some tools
  | .build _ _ tools => some tools
  | .list _ _ => none

/-- The options of a request on measuring. -/
def Request.bench? : Request → Option BenchOptions
  | .run _ _ _ bench => some bench
  | _ => none

/-- **An accepted command line has settled its choices.**  Take any words that are
accepted, in whatever order and spelling.  For a build or a run, at most one option
chooses the lowering tool, so the options combine to a choice, and on no machine does
the preparation end in conflicting profiles.  For a run, the number of runs is between
1 and 4294967295, so whatever program is measured on whatever machine, no attempt ends
without samples. -/
theorem accepted_lines_are_settled {words : List Bytes} {i : Invocation}
    (hparse : Invocation.parse words = .ok i) :
    (∀ o, i.request.tools? = some o →
      o.release.toNat + o.debug.toNat + o.tool?.isSome.toNat ≤ 1 ∧
        (∃ choice, ToolChoice.ofFlags o.release o.debug o.tool? = .ok choice) ∧
        ∀ w suite host, prepare w suite host o ≠ .error .conflictingProfiles) ∧
      ∀ o, i.request.bench? = some o →
        1 ≤ o.runs ∧ o.runs ≤ 4294967295 ∧
          ∀ tools p b variants limit? observe s,
            ∀ attempt ∈ ((benchProgram tools p b variants (o.policy limit?) observe).run s).1,
              attempt.2 ≠ .error .noSamples := by
  obtain ⟨top, c, inner, hline⟩ := exists_spellsLine hparse
  obtain ⟨⟨-, htogether⟩, g, k, -, hplaced, rfl⟩ := hline.parse_eq_ok_iff_together.1 hparse
  have hsettled := hplaced.settled
  constructor
  · intro o ho
    have hone : o.choices ≤ 1 := by
      have hoptions : some (k.withOptions (optionsOf inner)).toolOptions = some o := by
        cases c <;> first | exact ho | cases ho
      exact Option.some.inj hoptions ▸ hsettled.choices_le_one htogether
    exact ⟨hone, o.exists_choice hone, o.prepare_ne_conflictingProfiles hone⟩
  · intro o ho
    have hruns : 1 ≤ o.runs ∧ o.runs ≤ mostRuns := by
      have hoptions : some (k.withOptions (optionsOf inner)).benchOptions = some o := by
        cases c <;> first | exact ho | cases ho
      exact Option.some.inj hoptions ▸ hsettled.runs_bounds
    have hne : ∀ limit?, (o.policy limit?).repetitions ≠ 0 := fun limit? =>
      Nat.one_le_iff_ne_zero.1 hruns.1
    exact ⟨hruns.1, hruns.2, fun tools p b variants limit? observe s =>
      benchProgram_ne_noSamples tools p (hne limit?) b variants observe s⟩

namespace Sample
open GuardCost.Sample

/-- The choices of a run with its tool and three runs, on the machine of the sample. -/
theorem run_with_tool_settled :
    toolOptions.tool?.isSome = true ∧ reported.runs = 3 ∧
      toolOptions.release.toNat + toolOptions.debug.toNat + toolOptions.tool?.isSome.toNat ≤ 1 ∧
      (∀ suite host, prepare equipped suite host toolOptions ≠ .error .conflictingProfiles) ∧
      ∀ p b variants observe, ∀ attempt ∈
        ((benchProgram tools p b variants (reported.policy none) observe).run
          (.ofWorld equipped)).1, attempt.2 ≠ .error .noSamples := by
  obtain ⟨htools, hbench⟩ := accepted_lines_are_settled parse_runWords
  obtain ⟨hone, -, hprepare⟩ := htools toolOptions rfl
  obtain ⟨-, -, hattempts⟩ := hbench reported rfl
  exact ⟨rfl, rfl, hone, hprepare equipped,
    fun p b variants observe => hattempts tools p b variants none observe (.ofWorld equipped)⟩

end Sample

end Cli

end GuardCost
