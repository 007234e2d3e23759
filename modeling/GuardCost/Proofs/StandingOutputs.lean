/-
GuardCost/Proofs/StandingOutputs.lean

What a suite has built stands to the end of its build, and its sources do.  The
stages that the build of a program can still run *remain* (`Pipeline.remaining`).
An action of the build changes nothing but the output directory of its program and
the outputs of stages that remain (`Settled.act`), and it makes no stage remain that
did not.  So in whatever order the actions are taken

    f ⟶* f'  →  f.world and f'.world are alike but for the output directories
                 and the outputs of the stages that remain in f    (Settled.run)

Meanwhile the root of the suite stays where it is: no way to it leads by the
directory of a program (`Pipeline.Settled`).
-/
import GuardCost.Proofs.DistinctOutputs

namespace GuardCost

open GuardCost.Action

namespace Pipeline

variable (pl : Pipeline) {r : Registry} {programs : List Program} {p : Program} {tools : Tools}
  {w w' : World} {R x : Location} {progress : Progress} {after : Progress × World}

/-! ### What remains -/

/-- The stages that the build of a program can still run. -/
def remaining : Progress → List Stage
  | .waiting => pl.frontStages ++ pl.variantStages
  | .front _ _ todo => todo ++ pl.variantStages
  | .variants _ _ results => pl.variantStages.filter fun stage => (results stage).isNone
  | .ended _ => []

variable {pl}

/-- No stage remains that did not before. -/
theorem remaining_subset (h : pl.BuildsProgram p tools (progress, w) after) :
    pl.remaining after.1 ⊆ pl.remaining progress := by
  cases h with
  | unprepared w hprep => exact List.nil_subset _
  | prepared w hprep => exact List.Subset.refl _
  | failed w hstep => exact List.nil_subset _
  | went w hstep => exact List.subset_cons_self _ _
  | parted w =>
    intro stage hstage
    exact (List.mem_filter.1 hstage).1
  | @built w sources made results stage after hbuilt =>
    obtain ⟨-, -, rfl⟩ := hbuilt.eq
    intro stage' hstage'
    obtain ⟨hmem, hnone⟩ := List.mem_filter.1 hstage'
    refine List.mem_filter.2 ⟨hmem, ?_⟩
    by_cases hstage : stage' = stage
    · subst hstage
      simp at hnone
    · rwa [Function.update_of_ne hstage] at hnone
  | joined w hdone => exact List.nil_subset _

/-- What an action of a build does to the machine: nothing, or it prepares the
program, or it runs a stage that remains. -/
theorem world_of_act (h : pl.BuildsProgram p tools (progress, w) after) :
    after.2 = w ∨ after.2 = (deed (pl.prepare p) w).world ∨
      ∃ sources, ∃ stage ∈ pl.remaining progress,
        after.2 = (deed ((pl.step p sources stage).run tools p.name) w).world := by
  cases h with
  | unprepared w hprep => exact .inr (.inl rfl)
  | prepared w hprep => exact .inr (.inl rfl)
  | @failed w sources made stage todo e hstep =>
    exact .inr (.inr ⟨sources, stage, List.mem_cons_self, rfl⟩)
  | @went w sources made stage todo hstep =>
    exact .inr (.inr ⟨sources, stage, List.mem_cons_self, rfl⟩)
  | parted w => exact .inl rfl
  | @built w sources made results stage after hbuilt =>
    obtain ⟨hmem, hnone, rfl⟩ := hbuilt.eq
    refine .inr (.inr ⟨sources, stage, List.mem_filter.2 ⟨hmem, ?_⟩, rfl⟩)
    rw [hnone]
    rfl
  | joined w hdone => exact .inl rfl

/-- Nothing that remains at the start is without an output. -/
theorem ne_sources_of_mem_remaining {stage : Stage} (h : stage ∈ pl.remaining .waiting) :
    stage ≠ .sources := by
  rcases List.mem_append.1 h with h | h
  · exact pl.ne_sources_of_mem_front h
  · exact pl.ne_sources_of_mem_variants h

/-! ### Settled suites -/

/-- All that is in the directories of some programs, given the root of their suite. -/
def below (programs : List Program) (R : Location) : Set Location :=
  {x | ∃ p ∈ programs, R ++ [Bytes.ofString p.name] <+: x}

/-- A machine on which the root of a suite stays where it is, whatever is done in the
directories of its programs.  These and their output directories are no links. -/
structure Settled (pl : Pipeline) (programs : List Program) (R : Location) (w : World) :
    Prop where
  root : pl.RootAt w R
  apart : w.Apart (below programs R) pl.layout.benchRoot
  plain : ∀ p ∈ programs, w.files.HasNoLink (R ++ [Bytes.ofString p.name]) ∧
    w.files.HasNoLink (binPlace (R ++ [Bytes.ofString p.name]))

/-- The places that the build of a program can change while some stages remain. -/
def changeable (R : Location) (p : Program) (stages : List Stage) : Set Location :=
  {x | x = binPlace (R ++ [Bytes.ofString p.name]) ∨ ∃ stage ∈ stages, x = outputPlace R (p, stage)}

theorem changeable_mono {stages stages' : List Stage} (h : stages ⊆ stages') :
    changeable R p stages ⊆ changeable R p stages' := by
  rintro x (rfl | ⟨stage, hstage, rfl⟩)
  · exact .inl rfl
  · exact .inr ⟨stage, h hstage, rfl⟩

theorem changeable_subset_below (hp : p ∈ programs) (stages : List Stage) :
    changeable R p stages ⊆ below programs R := by
  rintro x (rfl | ⟨stage, hstage, rfl⟩)
  · exact ⟨p, hp, List.prefix_append _ _⟩
  · refine ⟨p, hp, ?_⟩
    rw [outputPlace, binPlace, List.append_assoc]
    exact List.prefix_append _ _

namespace Settled

theorem unlinked (h : pl.Settled programs R w) : pl.Unlinked programs w := by
  intro p hp R' hR'
  obtain rfl := hR'.eq h.root
  exact h.plain p hp

/-- A suite stays settled under changes to its programs that make no link of a
directory. -/
theorem of_alike (h : pl.Settled programs R w) (halike : World.Alike (below programs R) w w')
    (hlinks : ∀ x, (∀ o, x ≠ outputPlace R o) → w.files.HasNoLink x → w'.files.HasNoLink x) :
    pl.Settled programs R w' where
  root := (halike.walk h.apart true).1.trans h.root
  apart := halike.apart h.apart
  plain p hp := by
    obtain ⟨hdir, hbin⟩ := h.plain p hp
    refine ⟨hlinks _ (fun o heq => ?_) hdir,
      hlinks _ (fun o heq => outputPlace_ne_binPlace R o p heq.symm) hbin⟩
    exact absurd (congrArg List.length heq) (by simp [length_outputPlace])

/-! ### Actions -/

section

variable (hr : r.Sound) (hw : pl.Settled r.programs R w)
include hr hw

/-- A step changes its own output, at most. -/
theorem step {sources : List String} {stage : Stage} (ho : (p, stage) ∈ r.outputs)
    (ht : (pl.step p sources stage).command.Framed tools) :
    let w' := (deed ((pl.step p sources stage).run tools p.name) w).world
    World.Alike (changeable R p [stage]) w w' ∧ pl.Settled r.programs R w' := by
  intro w'
  obtain ⟨hp, hst⟩ := Registry.mem_outputs.1 ho
  have halike : World.Alike (changeable R p [stage]) w w' := by
    refine ⟨Step.current_run p.name ht, fun x hx => ?_⟩
    exact node?_step hr hw.unlinked ho sources ht hw.root
      (fun heq => hx (.inr ⟨stage, List.mem_cons_self, heq⟩)) fun heq => hx (.inl heq)
  refine ⟨halike, hw.of_alike (halike.mono (changeable_subset_below hp _)) fun x hx hl => ?_⟩
  refine Step.hasNoLink_run p.name ht (pl.output_step p sources hst) (fun hloc => ?_) hl
  obtain ⟨R', hR', rfl⟩ := eq_of_locate_output hr hw.unlinked ho hloc
  obtain rfl := hR'.eq hw.root
  exact hx (p, stage) rfl

variable (hp : p ∈ r.programs)
include hp

/-- To prepare a program is to make its output directory, at most. -/
theorem prepare : World.Alike (changeable R p []) w (deed (pl.prepare p) w).world ∧
    pl.Settled r.programs R (deed (pl.prepare p) w).world := by
  have halike : World.Alike (changeable R p []) w (deed (pl.prepare p) w).world := by
    cases hprep : (deed (pl.prepare p) w).result with
    | error e =>
      rw [prepare_error hprep]
      exact .refl _ _
    | ok sources =>
      obtain ⟨D, hdir, hmake⟩ := prepare_ok hprep
      obtain ⟨R', hR', rfl⟩ := seen_dir_below (hr.fault?_eq_none hp)
        (fun R' hR' => (hw.unlinked p hp R' hR').1) hdir
      obtain rfl := hR'.eq hw.root
      rcases withDirectory_bin hdir hmake with ⟨hsame, -⟩ | ⟨-, -, halike, -⟩
      · rw [hsame]
        exact .refl _ _
      · exact halike.mono fun x hx => .inl hx
  exact ⟨halike, hw.of_alike (halike.mono (changeable_subset_below hp []))
    fun x _ hl => (prepare_keeps w).2 x hl⟩

/-- **An action changes outputs of stages that remain, at most.** -/
theorem act (ht : ∀ o ∈ r.outputs, ∀ sources, (pl.step o.1 sources o.2).command.Framed tools)
    (hst : ∀ stage ∈ pl.remaining progress, (p, stage) ∈ r.outputs)
    (h : pl.BuildsProgram p tools (progress, w) after) :
    World.Alike (changeable R p (pl.remaining progress)) w after.2 ∧
      pl.Settled r.programs R after.2 := by
  rcases world_of_act h with hsame | hprep | ⟨sources, stage, hmem, hstep⟩
  · rw [hsame]
    exact ⟨.refl _ _, hw⟩
  · rw [hprep]
    obtain ⟨halike, hsettled⟩ := prepare hr hw hp
    exact ⟨halike.mono (changeable_mono (List.nil_subset _)), hsettled⟩
  · rw [hstep]
    have ho := hst stage hmem
    obtain ⟨halike, hsettled⟩ := step hr hw ho (ht _ ho sources)
    refine ⟨halike.mono (changeable_mono ?_), hsettled⟩
    exact List.cons_subset.2 ⟨hmem, List.nil_subset _⟩

end

/-! ### Runs -/

section

variable (hr : r.Sound)
  (ht : ∀ o ∈ r.outputs, ∀ sources, (pl.step o.1 sources o.2).command.Framed tools)
  {f f' : Floor (Member r.programs) Progress} (hw : pl.Settled r.programs R f.world)
  (hst : ∀ p : Member r.programs, ∀ stage ∈ pl.remaining (f.states p), (p.1, stage) ∈ r.outputs)
  (h : Floor.Run (pl.suite r.programs tools) f f')
include hr ht hw hst h

/-- **In any order, outputs of stages that remain are changed, at most.** -/
theorem run :
    World.Alike {x | ∃ p : Member r.programs, x ∈ changeable R p.1 (pl.remaining (f.states p))}
        f.world f'.world ∧
      pl.Settled r.programs R f'.world ∧
      ∀ p, pl.remaining (f'.states p) ⊆ pl.remaining (f.states p) := by
  induction h with
  | refl => exact ⟨.refl _ _, hw, fun p => List.Subset.refl _⟩
  | @tail g _ _ hmove ih =>
    obtain ⟨hframe, hsettled, hless⟩ := ih
    obtain ⟨p, after, hact⟩ := hmove
    obtain ⟨halike, hsettled'⟩ := act hr hsettled p.2 ht
      (fun stage hstage => hst p stage (hless p hstage)) hact
    refine ⟨hframe.trans (halike.mono fun x hx => ⟨p, changeable_mono (hless p) hx⟩), hsettled',
      fun q => ?_⟩
    by_cases hq : q = p
    · subst hq
      rw [Floor.states_advance_self]
      exact List.Subset.trans (remaining_subset hact) (hless q)
    · rw [Floor.states_advance_ne g hq]
      exact hless q

/-- **What a stage has made stands to the end.** -/
theorem keeps_made (p : Member r.programs) {stage : Stage} (hstage : stage ≠ .sources)
    (hdone : stage ∉ pl.remaining (f.states p)) :
    f.world.Keeps f'.world (pl.outputPath p.1 stage) := by
  have ho : (p.1, stage) ∈ r.outputs := Registry.mem_outputs.2 ⟨p.2, hstage⟩
  intro x hx
  obtain ⟨R', hR', rfl⟩ := eq_of_locate_output hr hw.unlinked ho hx
  obtain rfl := hR'.eq hw.root
  refine (run hr ht hw hst h).1.node _ ?_
  rintro ⟨q, hbin | ⟨stage', hstage', heq⟩⟩
  · exact outputPlace_ne_binPlace R' _ q.1 hbin
  · have hsame := outputPlace_inj hr ho (hst q stage' hstage') heq
    obtain rfl : p = q := Subtype.ext (congrArg Prod.fst hsame)
    obtain rfl : stage = stage' := congrArg Prod.snd hsame
    exact hdone hstage'

/-- **No source is ever changed.** -/
theorem keeps_found (hnamed : f.world.files.WellNamed) {q : Program} (hq : q ∈ r.programs)
    {s : String} (hs : q.Finds f.world (pl.dir q) s) :
    f.world.Keeps f'.world ((pl.dir q).child s) := by
  intro x hx
  obtain ⟨R', hR', rfl⟩ := eq_of_locate_source hr hw.unlinked hq (hs.isSegment hnamed) hx
  obtain rfl := hR'.eq hw.root
  refine (run hr ht hw hst h).1.node _ ?_
  rintro ⟨p, hbin | ⟨stage, -, heq⟩⟩
  · exact sourcePlace_ne_binPlace hs R' p.1 hbin
  · exact sourcePlace_ne_outputPlace R' q s _ heq

end

end Settled

/-- **No output stands where another output or a source does.**  Of all stages that
write and all programs of a registry, no two outputs have the same path, even read
step by step.  Each is a child of the output directory of its own program and of
no directory of a program, and is what its step clears and what the command of the
step is told to write.  So no source that is found in a directory of a program is an
output.

Let the directories of the programs and their output directories be no links, and let
each tool write no file but the one it is told to.  Then a step, whether it succeeds
or not, leaves all that stands at the other outputs and at the sources.  And if the
root of the suite stays where it is, then in every order of the actions of a build,
what stands at the output of a stage that is not run any more stands there to the
end, and what stood at the sources at first still does. -/
theorem outputs_stand_apart (pl : Pipeline) {programs : List Program} {r : Registry}
    (hreg : Registry.ofPrograms programs = .ok r) :
    (r.outputs.map fun o => (pl.outputPath o.1 o.2).components).Nodup ∧
    (∀ o ∈ r.outputs, (pl.outputPath o.1 o.2).IsChildOf (pl.bin o.1) ∧
      (∀ q ∈ r.programs, ¬(pl.outputPath o.1 o.2).IsChildOf (pl.dir q)) ∧
      ∀ sources, (pl.step o.1 sources o.2).output = pl.outputPath o.1 o.2 ∧
        (pl.step o.1 sources o.2).command.output = pl.outputPath o.1 o.2) ∧
    ∀ w, w.files.WellNamed →
      (∀ q ∈ r.programs, ∀ s, q.Finds w (pl.dir q) s →
        ((pl.dir q).child s).IsChildOf (pl.dir q) ∧ ∀ o ∈ r.outputs,
          ((pl.dir q).child s).components ≠ (pl.outputPath o.1 o.2).components) ∧
      (pl.Unlinked r.programs w → ∀ tools, ∀ o ∈ r.outputs, ∀ sources,
        (pl.step o.1 sources o.2).command.Framed tools →
        let w' := (deed ((pl.step o.1 sources o.2).run tools o.1.name) w).world
        (∀ o' ∈ r.outputs, o' ≠ o → w.Keeps w' (pl.outputPath o'.1 o'.2)) ∧
        ∀ q ∈ r.programs, ∀ s, q.Finds w (pl.dir q) s → w.Keeps w' ((pl.dir q).child s)) ∧
      ∀ R, pl.Settled r.programs R w → ∀ tools,
        (∀ o ∈ r.outputs, ∀ sources, (pl.step o.1 sources o.2).command.Framed tools) →
        ∀ f f', Floor.Run (pl.suite r.programs tools) (suiteStart r.programs w) f →
          Floor.Run (pl.suite r.programs tools) f f' →
          (∀ p : Member r.programs, ∀ stage, stage ≠ .sources →
            stage ∉ pl.remaining (f.states p) → f.world.Keeps f'.world (pl.outputPath p.1 stage)) ∧
          ∀ q ∈ r.programs, ∀ s, q.Finds w (pl.dir q) s →
            w.Keeps f.world ((pl.dir q).child s) := by
  have hr : r.Sound := Registry.sound_of_ofPrograms hreg
  refine ⟨pl.nodup_outputs hr, fun o ho => ?_, fun w hnamed => ⟨fun q hq s hs => ?_, ?_, ?_⟩⟩
  · exact ⟨pl.isChildOf_bin hr ho, fun q hq => pl.not_isChildOf_dir hr ho hq,
      fun sources => ⟨rfl, pl.output_step o.1 sources (Registry.mem_outputs.1 ho).2⟩⟩
  · have hchild := Path.isChildOf_join (pl.dir q) (hs.isSegment hnamed)
    refine ⟨hchild, fun o ho heq => pl.not_isChildOf_dir hr ho hq ?_⟩
    obtain ⟨name, hname⟩ := hchild
    exact ⟨name, heq.symm.trans hname⟩
  · intro hw tools o ho sources ht
    exact ⟨fun o' ho' hne => keeps_output hr hw ho sources ht ho' hne,
      fun q hq s hs => keeps_source hr hw ho sources ht hnamed hq hs⟩
  · intro R hw tools ht f f' hf hf'
    have hstart : ∀ p : Member r.programs,
        ∀ stage ∈ pl.remaining ((suiteStart r.programs w).states p), (p.1, stage) ∈ r.outputs :=
      fun p stage hstage => Registry.mem_outputs.2 ⟨p.2, ne_sources_of_mem_remaining hstage⟩
    obtain ⟨-, hsettled, hless⟩ := hw.run hr ht hstart hf
    have hst := fun p stage hstage => hstart p stage (hless p hstage)
    exact ⟨fun p stage hstage hdone => hsettled.keeps_made hr ht hst hf' p hstage hdone,
      fun q hq s hs => hw.keeps_found hr ht hstart hf hnamed hq hs⟩

end Pipeline

/-! ### Outputs of one name -/

namespace Sample

theorem settled_world : pipeline.Settled programs (location ["b"]) world := by
  have hway : ∀ loc ∈ pipeline.layout.benchRoot.way world.current, loc.length ≤ 1 := by
    decide
  refine ⟨by cbv, World.apart_of_linkless hasNoLink_world fun loc hloc => ?_,
    fun p hp => ⟨hasNoLink_world _, hasNoLink_world _⟩⟩
  rintro ⟨p, -, hprefix⟩
  have hlength := hprefix.length_le
  have hshort := hway loc hloc
  simp only [location, List.map_cons, List.map_nil, List.cons_append, List.nil_append,
    List.length_cons, List.length_nil] at hlength
  omega

/-- The machine on which the sources of `a` have been compiled. -/
def worldCompiled : World :=
  (deed ((pipeline.step { name := "a" } ["m.c"] .native).run tools "a") world).world

theorem framed_tools : ∀ o ∈ Registry.outputs ⟨programs⟩, ∀ sources,
    (pipeline.step o.1 sources o.2).command.Framed tools := by
  intro o ho sources
  obtain ⟨hp, hst⟩ := Registry.mem_outputs.1 ho
  obtain ⟨reply, hconfined⟩ := toolsConfined hp sources o.2 hst
  exact hconfined.framed

/-- A variant of `a` and the native executable of `a_bc` are files of one name with
paths of their own.  When the sources of `a` are compiled, its native executable is
written, and what stands at that variant and the source of `a_bc` are kept.  In no
order of building both programs is that source changed. -/
theorem one_name_two_outputs :
    Registry.ofPrograms programs = .ok ⟨programs⟩ ∧
      Program.outputFile { name := "a" } (.variant .boundsChecked) =
        Program.outputFile { name := "a_bc" } .native ∧
      (pipeline.outputPath { name := "a" } (.variant .boundsChecked)).components ≠
        (pipeline.outputPath { name := "a_bc" } .native).components ∧
      worldCompiled.files.node? (location ["b", "a", "bin", "a"]) =
        some (.file (Bytes.ofString "int x;") Rights.program 0) ∧
      worldCompiled.files.node? (location ["b", "a", "bin", "a_bc"]) = none ∧
      worldCompiled.files.node? (location ["b", "a_bc", "m.c"]) = some text ∧
      ∀ f, Floor.Run (pipeline.suite programs tools) (Pipeline.suiteStart programs world) f →
        f.world.files.node? (location ["b", "a_bc", "m.c"]) = some text := by
  have hreg : Registry.ofPrograms programs = .ok ⟨programs⟩ := by rfl
  obtain ⟨hnodup, -, hmachine⟩ := Pipeline.outputs_stand_apart pipeline hreg
  have hwell : world.files.WellNamed := by
    unfold FileSystem.WellNamed
    decide
  obtain ⟨-, hstep, hrun⟩ := hmachine world hwell
  obtain ⟨houtputs, hsources⟩ := hstep settled_world.unlinked tools ({ name := "a" }, .native)
    (by decide) ["m.c"] (framed_tools _ (by decide) ["m.c"])
  -- where the paths lead
  have hvariant : world.files.locate world.current
      (pipeline.outputPath { name := "a" } (.variant .boundsChecked)) false =
        .ok (location ["b", "a", "bin", "a_bc"]) := by cbv
  have hsource : world.files.locate world.current
      ((pipeline.dir { name := "a_bc" }).child "m.c") false =
        .ok (location ["b", "a_bc", "m.c"]) := by cbv
  have hfinds : Program.Finds { name := "a_bc" } world (pipeline.dir { name := "a_bc" }) "m.c" :=
    ⟨["m.c"], by cbv, by decide⟩
  have hwritten : worldCompiled.files.node? (location ["b", "a", "bin", "a"]) =
      some (.file (Bytes.ofString "int x;") Rights.program 0) := by
    have hclear : world.cleared (pipeline.step { name := "a" } ["m.c"] .native).output =
        .ok world := by
      have hnone : world.files.removeFile world.current world.now
          (pipeline.step { name := "a" } ["m.c"] .native).output = .error .notFound := by cbv
      rw [World.cleared, hnone]
      rfl
    rw [worldCompiled, Step.deed_run, hclear]
    cbv
  refine ⟨hreg, by decide, fun hsame => ?_, hwritten, ?_, ?_, fun f hf => ?_⟩
  · have hone := List.inj_on_of_nodup_map hnodup
      (show ({ name := "a" }, .variant .boundsChecked) ∈ Registry.outputs ⟨programs⟩ by decide)
      (show ({ name := "a_bc" }, .native) ∈ Registry.outputs ⟨programs⟩ by decide) hsame
    exact absurd (congrArg Prod.snd hone) (by decide)
  · exact houtputs ({ name := "a" }, .variant .boundsChecked) (by decide) (by decide) _ hvariant
  · exact hsources { name := "a_bc" } (by decide) _ hfinds _ hsource
  · exact (hrun _ settled_world tools framed_tools f f hf .refl).2 { name := "a_bc" } (by decide) _
      hfinds _ hsource

end Sample

end GuardCost
