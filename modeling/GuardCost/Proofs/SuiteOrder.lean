/-
GuardCost/Proofs/SuiteOrder.lean

The programs of a suite in any order.  The builds of the programs are workers on
one floor (`Pipeline.suite`), each taking the steps of `BuildsProgram`; the area
of a program is what its build can change.  Different programs have different
names, and where no links stand in the way, a program's area is below its own
directory (`mem_area`), so the areas are disjoint.

A suite is *isolated* on a machine if there are no such links and each program
is sheltered from the areas of the others (`Pipeline.Isolated`).  Then every
order in which the steps are taken until nothing is left to do

    gives each program the build that it would have alone   (states_of_ends)
    leaves the machine that `buildAll` leaves               (builds_in_any_order)
-/
import GuardCost.Proofs.ProgramOrder
import GuardCost.Proofs.SoundSuites
import GuardCost.Proofs.ToolChanges
import Mathlib

namespace GuardCost

open GuardCost.Action Relation

/-! ### Registries -/

namespace Registry

/-- The programs of a registry are checked, and no two share a name. -/
theorem of_ofPrograms {programs : List Program} {registry : Registry}
    (h : ofPrograms programs = .ok registry) :
    (∀ p ∈ registry.programs, p.fault? = none) ∧ (registry.programs.map (·.name)).Nodup := by
  have hsound := sound_of_ofPrograms h
  exact ⟨fun p hp => Program.fault?_eq_none_iff.2 (hsound.programs p hp), hsound.names⟩

end Registry

namespace Pipeline

variable (pl : Pipeline) (programs : List Program) (tools : Tools)

/-! ### Suites -/

/-- A program of a suite. -/
abbrev Member (programs : List Program) : Type := {p : Program // p ∈ programs}

/-- The builds of the programs of a suite. -/
def suite (p : Member programs) : Acts Progress := pl.BuildsProgram p.1 tools

/-- What the build of a program of a suite can change. -/
def suiteArea (w : World) (p : Member programs) : Set Location := pl.area p.1 w

/-- A suite of which nothing is built. -/
def suiteStart (w : World) : Floor (Member programs) Progress := ⟨w, fun _ => .waiting⟩

/-- Where the walk to the directory of a program comes by last. -/
def RootAt (w : World) (R : Location) : Prop :=
  w.files.walk true FileSystem.linkAllowance (FileSystem.startOf w.current pl.layout.benchRoot)
    pl.layout.benchRoot.names = .ok R

variable {pl} in
theorem RootAt.eq {w : World} {R R' : Location} (h : pl.RootAt w R) (h' : pl.RootAt w R') :
    R = R' :=
  Except.ok.inj (h.symm.trans h')

/-- A machine on which the programs of a suite cannot get at each other. -/
structure Isolated (w : World) : Prop where
  /-- The directory of a program and its output directory are no links. -/
  plain : ∀ p ∈ programs, ∀ R, pl.RootAt w R →
    w.files.HasNoLink (R ++ [Bytes.ofString p.name]) ∧
      w.files.HasNoLink (binPlace (R ++ [Bytes.ofString p.name]))
  sheltered : ∀ p : Member programs,
    pl.Sheltered p.1 (pl.places p.1 w ∪ Floor.others (pl.suiteArea programs w) p) w

/-- The suite is built in some order, to the end. -/
def Ends (w : World) (f : Floor (Member programs) Progress) : Prop :=
  Floor.Run (pl.suite programs tools) (suiteStart programs w) f ∧
    Floor.Idle (pl.suite programs tools) f

variable {pl programs tools} {p : Program} {w : World}

/-! ### Areas -/

theorem startOf_dir (hp : p.fault? = none) (current : Location) :
    FileSystem.startOf current (pl.dir p) = FileSystem.startOf current pl.layout.benchRoot := by
  have habs := Path.isAbsolute_of_isSegment (Program.isSegment_name hp) []
  rw [List.append_nil] at habs
  rw [FileSystem.startOf, FileSystem.startOf, dir, Layout.programDir, Path.child, Path.ofString,
    Path.isAbsolute_join _ habs]

/-- Different programs have different directories. -/
theorem dir_inj {p q : Program} (hp : p.fault? = none) (hq : q.fault? = none)
    (h : pl.dir p = pl.dir q) : p.name = q.name := by
  have hnames := congrArg Path.names h
  rw [names_dir pl hp, names_dir pl hq] at hnames
  exact Bytes.ofString_injective (List.cons.inj (List.append_cancel_left hnames)).1

/-- The walk to the directory of a program ends below the root of the suite. -/
theorem walk_dir_below (hp : p.fault? = none)
    (hplain : ∀ R, pl.RootAt w R → w.files.HasNoLink (R ++ [Bytes.ofString p.name])) {D : Location}
    (h : w.files.walk true FileSystem.linkAllowance (FileSystem.startOf w.current (pl.dir p))
      (pl.dir p).names = .ok D) :
    ∃ R, pl.RootAt w R ∧ D = R ++ [Bytes.ofString p.name] := by
  rw [startOf_dir hp, names_dir pl hp] at h
  obtain ⟨R, hR, hlast⟩ := FileSystem.walk_of_snoc (Program.isSegment_name hp).toIsName h
  exact ⟨R, hR, hlast fun _ => hplain R hR⟩

/-- The directory of a program stands below the root of the suite. -/
theorem seen_dir_below (hp : p.fault? = none)
    (hplain : ∀ R, pl.RootAt w R → w.files.HasNoLink (R ++ [Bytes.ofString p.name])) {D : Location}
    (h : w.files.seen w.current (pl.dir p) = .ok (D, .directory 0)) :
    ∃ R, pl.RootAt w R ∧ D = R ++ [Bytes.ofString p.name] :=
  walk_dir_below hp hplain (FileSystem.of_seen h).2.1

/-- A build changes nothing but what is below the directory of its program. -/
theorem mem_area (hp : p.fault? = none)
    (hplain : ∀ R, pl.RootAt w R → w.files.HasNoLink (R ++ [Bytes.ofString p.name]) ∧
      w.files.HasNoLink (binPlace (R ++ [Bytes.ofString p.name]))) {x : Location}
    (hx : x ∈ pl.area p w) : ∃ R rest, pl.RootAt w R ∧ x = R ++ Bytes.ofString p.name :: rest := by
  rcases hx with ⟨D, v, B, stage, hdir, hmake, hB, -, hx⟩ | ⟨D, hdir, rfl, -⟩
  · obtain ⟨R, hR, rfl⟩ := seen_dir_below hp (fun R hR => (hplain R hR).1) hdir
    obtain rfl : B = binPlace (R ++ [Bytes.ofString p.name]) := by
      rcases withDirectory_bin hdir hmake with ⟨rfl, -⟩ | ⟨hloc, hfree, halike, hmade⟩
      · obtain ⟨-, hwalk, -⟩ := FileSystem.of_seen hdir
        obtain ⟨-, hwalkB, -⟩ := FileSystem.of_seen hB
        rw [startOf_bin, names_bin] at hwalkB
        obtain ⟨D, hD, hlast⟩ := FileSystem.walk_of_snoc isSegment_outputDir.toIsName hwalkB
        obtain rfl := Except.ok.inj (hD.symm.trans hwalk)
        exact hlast fun _ => (hplain R hR).2
      · have hB' := (binAt_made hdir hloc hfree halike hmade).1
        exact congrArg Prod.fst (Except.ok.inj (hB.symm.trans hB'))
    refine ⟨R, [Bytes.ofString Stage.outputDir, p.outputFile stage], hR, ?_⟩
    rw [place_eq_ok hx, binPlace]
    simp
  · obtain ⟨R, hR, rfl⟩ := seen_dir_below hp (fun R hR => (hplain R hR).1) hdir
    exact ⟨R, [Bytes.ofString Stage.outputDir], hR, by simp [binPlace]⟩

theorem mem_area_member (hchecked : ∀ p ∈ programs, p.fault? = none)
    (hw : pl.Isolated programs w) {p : Member programs} {x : Location}
    (hx : x ∈ pl.suiteArea programs w p) :
    ∃ R rest, pl.RootAt w R ∧ x = R ++ Bytes.ofString p.1.name :: rest :=
  mem_area (hchecked p.1 p.2) (hw.plain p.1 p.2) hx

/-- Different programs have disjoint areas. -/
theorem suiteArea_disjoint (hchecked : ∀ p ∈ programs, p.fault? = none)
    (hnd : (programs.map (·.name)).Nodup) (hw : pl.Isolated programs w) (p q : Member programs)
    (x : Location) (hp : x ∈ pl.suiteArea programs w p) (hq : x ∈ pl.suiteArea programs w q) :
    p = q := by
  obtain ⟨R, rest, hR, rfl⟩ := mem_area_member hchecked hw hp
  obtain ⟨R', rest', hR', heq⟩ := mem_area_member hchecked hw hq
  obtain rfl := hR.eq hR'
  have hname := Bytes.ofString_injective (List.cons.inj (List.append_cancel_left heq)).1
  exact Subtype.ext (List.inj_on_of_nodup_map hnd p.2 q.2 hname)

/-! ### Orders -/

section

variable (hchecked : ∀ p ∈ programs, p.fault? = none) (hnd : (programs.map (·.name)).Nodup)
  (hvariants : pl.variantStages.Nodup) (ht : ∀ p ∈ programs, pl.ToolsConfined p tools)
  (hw : pl.Isolated programs w)

include hchecked hvariants ht hw in
/-- A program alone, on a machine on which its suite is isolated. -/
theorem reached_of_solo {p : Member programs} {after : Progress × World}
    (h : ReflTransGen (pl.suite programs tools p) ((suiteStart programs w).worker p) after) :
    pl.Reached p.1 tools (pl.places p.1 w ∪ Floor.others (pl.suiteArea programs w) p)
      (pl.places p.1 w) w after :=
  .of_solo (hchecked p.1 p.2) (ht p.1 p.2) hvariants (hw.sheltered p) Set.subset_union_left h

include hchecked hnd hvariants ht hw in
/-- The programs of an isolated suite do not get in each other's way. -/
theorem separate_suite : Floor.Separate (pl.suite programs tools) (pl.suiteArea programs w)
    (suiteStart programs w) := by
  intro p progress g u after hsolo halike hact
  refine (reached_of_solo hchecked hvariants ht hw hsolo).undisturbed (hchecked p.1 p.2)
    (ht p.1 p.2) (hw.sheltered p) (fun x hx => ?_) halike hact
  rintro ⟨q, hne, hq⟩
  exact hne (suiteArea_disjoint hchecked hnd hw q p x hq hx)

/-- When nothing is left to do, every build has ended. -/
theorem ended_of_idle {f : Floor (Member programs) Progress}
    (h : Floor.Idle (pl.suite programs tools) f) (p : Member programs) :
    ∃ b, f.states p = .ended b := by
  by_contra hnot
  push Not at hnot
  obtain ⟨after, hact⟩ := pl.exists_buildsProgram p.1 tools hnot f.world
  exact h _ (.act f p after hact)

theorem idle_of_ended {f : Floor (Member programs) Progress}
    (h : ∀ p, ∃ b, f.states p = .ended b) : Floor.Idle (pl.suite programs tools) f := by
  rintro f' ⟨p, after, hact⟩
  obtain ⟨b, hb⟩ := h p
  rw [suite, Floor.worker, hb] at hact
  cases hact

/-- How much of the builds of a suite is left. -/
def suiteLeft (pl : Pipeline) (f : Floor (Member programs) Progress) : Nat :=
  (programs.attach.map fun p => pl.left (f.states p)).sum

theorem suiteLeft_lt {f f' : Floor (Member programs) Progress}
    (h : Floor.Move (pl.suite programs tools) f f') : pl.suiteLeft f' < pl.suiteLeft f := by
  obtain ⟨p, after, hact⟩ := h
  have hlt := left_lt hact
  have hself : pl.left ((f.advance p after).states p) < pl.left (f.states p) := by
    rw [Floor.states_advance_self]
    exact hlt
  refine List.sum_lt_sum _ _ (fun q _ => ?_) ⟨p, List.mem_attach _ p, hself⟩
  by_cases hq : q = p
  · rw [hq]
    exact hself.le
  · rw [Floor.states_advance_ne f hq]

/-- No order goes on forever. -/
theorem wellFounded_moves : WellFounded fun f' f : Floor (Member programs) Progress =>
    Floor.Move (pl.suite programs tools) f f' :=
  Subrelation.wf suiteLeft_lt (InvImage.wf pl.suiteLeft Nat.lt_wfRel.wf)

include hchecked hnd hvariants ht hw in
/-- **In whatever order a suite is built, each program has the build that it
would have alone.** -/
theorem states_of_ends {f : Floor (Member programs) Progress} (h : pl.Ends programs tools w f)
    (p : Member programs) : f.states p = .ended (deed (pl.build tools p.1) w).result := by
  obtain ⟨hrun, hidle⟩ := h
  obtain ⟨hsolo, -⟩ := Floor.solo_of_run (separate_suite hchecked hnd hvariants ht hw) hrun
  obtain ⟨g, hg, -⟩ := hsolo p
  obtain ⟨b, hb⟩ := ended_of_idle hidle p
  have hreached := reached_of_solo hchecked hvariants ht hw hg
  rw [hb] at hreached ⊢
  cases hreached with
  | ended result world => rw [result]

include hchecked hnd hvariants ht hw in
/-- All orders leave the same machine. -/
theorem alike_of_ends {f f' : Floor (Member programs) Progress} (h : pl.Ends programs tools w f)
    (h' : pl.Ends programs tools w f') : World.Alike ∅ f.world f'.world := by
  refine (Floor.agree (separate_suite hchecked hnd hvariants ht hw)
    (suiteArea_disjoint hchecked hnd hw) (fun _ progress => ∃ b, progress = .ended b) ?_ h.1 h'.1
    (ended_of_idle h.2) (ended_of_idle h'.2)).2
  rintro p _ g _ g' hsolo hsolo' ⟨b, rfl⟩ ⟨b', rfl⟩
  cases reached_of_solo hchecked hvariants ht hw hsolo with
  | ended result world =>
    cases reached_of_solo hchecked hvariants ht hw hsolo' with
    | ended result' world' =>
      rw [← result, ← result']
      exact ⟨rfl, world.symm.trans world'⟩

/-! ### Other tools -/

section

variable {tools' : Tools} (ht' : ∀ p ∈ programs, pl.ToolsConfined p tools')
  {f f' : Floor (Member programs) Progress} (h : pl.Ends programs tools w f)
  (h' : pl.Ends programs tools' w f') {p : Member programs}

include hchecked hnd hvariants ht hw ht' h h' in
/-- What the tools do in the directory of one program is nothing to the others. -/
theorem states_of_others
    (hsame : ∀ c, c.directory? ≠ some (pl.dir p.1) → tools' c = tools c) {q : Member programs}
    (hq : q ≠ p) : f'.states q = f.states q := by
  have hdir : pl.dir q.1 ≠ pl.dir p.1 := by
    intro hdir
    have hname := dir_inj (hchecked q.1 q.2) (hchecked p.1 p.2) hdir
    exact hq (Subtype.ext (List.inj_on_of_nodup_map hnd q.2 p.2 hname))
  have hbuild : ∀ w, deed (pl.build tools' q.1) w = deed (pl.build tools q.1) w := by
    intro w
    refine deed_build_congr (fun c hc => hsame c ?_) w
    rw [hc]
    exact fun hp => hdir (Option.some.inj hp)
  rw [states_of_ends hchecked hnd hvariants ht hw h q,
    states_of_ends hchecked hnd hvariants ht' hw h' q, hbuild]

include hchecked hnd hvariants ht hw ht' h h' in
/-- What the tools do on the command of one variant is nothing to the other
programs, and to its own program nothing but the entry of that variant. -/
theorem states_of_variant {v : Variant}
    (hsame : ∀ c, c ≠ (pl.step p.1 [] (.variant v)).command → tools' c = tools c) :
    (∀ q, q ≠ p → f'.states q = f.states q) ∧
      ∃ b b', f.states p = .ended b ∧ f'.states p = .ended b' ∧ SameBut (.variant v) b b' := by
  refine ⟨fun q hq => ?_, _, _, states_of_ends hchecked hnd hvariants ht hw h p,
    states_of_ends hchecked hnd hvariants ht' hw h' p, ?_⟩
  · refine states_of_others hchecked hnd hvariants ht hw ht' h h' (fun c hc => hsame c ?_) hq
    -- the command of the variant is run in the directory of its program
    rintro rfl
    exact hc rfl
  · have hshelter : pl.Sheltered p.1 (pl.places p.1 w) w :=
      (hw.sheltered p).mono Set.subset_union_left
    exact deed_build_variant_changed (hchecked p.1 p.2) hvariants (ht p.1 p.2) (ht' p.1 p.2)
      hshelter hsame

end

end

/-! ### One program after the other -/

/-- To build programs one after the other is one of the orders. -/
theorem run_of_buildAll (hvariants : pl.variantStages.Nodup) {ps : List (Member programs)}
    (hnd : ps.Nodup) (f : Floor (Member programs) Progress)
    (hwaiting : ∀ p ∈ ps, f.states p = .waiting) :
    let d := deed (pl.buildAll tools (ps.map Subtype.val)) f.world
    ∃ states, Floor.Run (pl.suite programs tools) f ⟨d.world, states⟩ ∧
      (∀ p, p ∉ ps → states p = f.states p) ∧ ps.map states = d.result.map .ended := by
  induction ps generalizing f with
  | nil => exact ⟨f.states, .refl, fun _ _ => rfl, rfl⟩
  | cons p rest ih =>
    obtain ⟨hp, hrest⟩ := List.nodup_cons.1 hnd
    let d := deed (pl.build tools p.1) f.world
    have hsolo : ReflTransGen (pl.suite programs tools p) (f.worker p)
        (.ended d.result, d.world) := by
      rw [Floor.worker, hwaiting p List.mem_cons_self]
      exact solo_build hvariants f.world
    obtain ⟨states, hrun, hother, hstates⟩ := ih hrest (f.advance p (.ended d.result, d.world))
      fun q hq => by
        have hne : q ≠ p := by
          rintro rfl
          exact hp hq
        rw [Floor.states_advance_ne f hne]
        exact hwaiting q (List.mem_cons_of_mem _ hq)
    have hself : states p = .ended d.result := by
      rw [hother p hp, Floor.states_advance_self]
    rw [List.map_cons, deed_buildAll_cons]
    refine ⟨states, (Floor.run_of_solo hsolo).trans hrun, fun q hq => ?_, ?_⟩
    · rw [List.mem_cons, not_or] at hq
      rw [hother q hq.2, Floor.states_advance_ne f hq.1]
    · rw [List.map_cons, List.map_cons, hself]
      exact congrArg _ hstates

/-- Building a suite one program after the other, to the end. -/
theorem exists_ends (hvariants : pl.variantStages.Nodup)
    (hnd : (programs.map (·.name)).Nodup) (w : World) :
    let d := deed (pl.buildAll tools programs) w
    ∃ states, pl.Ends programs tools w ⟨d.world, states⟩ ∧
      programs.attach.map states = d.result.map .ended := by
  have hattach : programs.attach.Nodup := List.nodup_attach.2 (hnd.of_map _)
  have hprograms : programs.attach.map Subtype.val = programs := List.attach_map_subtype_val _
  obtain ⟨states, hrun, -, hstates⟩ :=
    @run_of_buildAll pl programs tools hvariants _ hattach (suiteStart programs w) fun _ _ => rfl
  rw [hprograms] at hrun hstates
  refine ⟨states, ⟨hrun, idle_of_ended fun p => ?_⟩, hstates⟩
  have hmem : states p ∈ programs.attach.map states := List.mem_map_of_mem (List.mem_attach _ p)
  rw [hstates] at hmem
  obtain ⟨b, -, hb⟩ := List.mem_map.1 hmem
  exact ⟨b, hb.symm⟩

end Pipeline

/-! ### A suite of two programs -/

namespace Sample

theorem isolated_world : pipeline.Isolated programs world := by
  refine ⟨fun p hp R hR => ⟨hasNoLink_world _, hasNoLink_world _⟩, fun p => sheltered p.2 ?_⟩
  have hplaces : ∀ q : Program, q ∈ programs → ∀ x ∈ pipeline.places q world,
      spared p.1 x = false := by
    intro q hq x hx
    obtain ⟨stage, rfl⟩ := eq_of_mem_places hq hx
    simp [spared, location]
  have hbin : ∀ p ∈ programs, ∀ q ∈ programs, q ≠ p →
      spared p (Pipeline.binPlace (location ["b", q.name])) = false := by
    decide
  rintro x (hx | ⟨q, hne, hx | ⟨R, hdir, rfl, -⟩⟩)
  · exact hplaces p.1 p.2 x hx
  · exact hplaces q.1 q.2 x hx
  · obtain rfl := seen_dir q.2 hasNoLink_world rfl hdir
    exact hbin p.1 p.2 q.1 q.2 fun h => hne (Subtype.ext h)

/-- Tools that are not there. -/
def noTools : Tools := .reading (fun _ => []) fun _ _ => ⟨.notStarted .notFound, none⟩

/-- The same tools, but nothing can be started in the directory of `a`. -/
def toolsWithout : Tools := fun c =>
  if c.directory? = some (pipeline.dir { name := "a" }) then noTools c else tools c

theorem toolsWithout_confined {p : Program} (hp : p ∈ programs) :
    pipeline.ToolsConfined p toolsWithout := by
  intro sources stage hst
  by_cases hdir : (pipeline.step p sources stage).command.directory? =
      some (pipeline.dir { name := "a" })
  · obtain ⟨reply, ht⟩ : ∃ reply, Command.Confined noTools (pipeline.step p sources stage).command
        (pipeline.inputs p sources stage) reply :=
      Tools.confined_reading (List.nil_subset _)
    exact ⟨reply, ht.congr (if_pos hdir)⟩
  · obtain ⟨reply, ht⟩ := toolsConfined hp sources stage hst
    exact ⟨reply, ht.congr (if_neg hdir)⟩

end Sample

/-! ### Any order -/

/-- **A suite can be built in any order.**  Let the programs be those of a
registry, the plan that of a machine, the tools confined and the suite isolated.
Then every order of the steps comes to an end, with the builds, and with the
same to be read at every path, as when the programs are built one after the
other.  If the tools change in the directory of one program, all orders give
each other program the build it had; if they change on the command of one
variant, the build of its program changes in the entry of that variant only. -/
theorem Pipeline.builds_in_any_order (pl : Pipeline) (tools : Tools) {programs : List Program}
    {registry : Registry} {host : Host} (s : Session)
    (hreg : Registry.ofPrograms programs = .ok registry) (hplan : pl.plan = .ofHost host)
    (ht : ∀ p ∈ registry.programs, pl.ToolsConfined p tools)
    (hw : pl.Isolated registry.programs s.world) :
    let r := (pl.buildAll tools registry.programs).run s
    (WellFounded fun f' f => Floor.Move (pl.suite registry.programs tools) f f') ∧
    (∀ f, pl.Ends registry.programs tools s.world f →
      registry.programs.attach.map f.states = r.1.map .ended ∧
        ∀ q, f.world.content? q = r.2.world.content? q) ∧
    (∀ tools', (∀ p ∈ registry.programs, pl.ToolsConfined p tools') →
      ∀ f f', pl.Ends registry.programs tools s.world f →
        pl.Ends registry.programs tools' s.world f' → ∀ p : Member registry.programs,
        ((∀ c, c.directory? ≠ some (pl.dir p.1) → tools' c = tools c) →
          ∀ q, q ≠ p → f'.states q = f.states q) ∧
        ∀ v, (∀ c, c ≠ (pl.step p.1 [] (.variant v)).command → tools' c = tools c) →
          (∀ q, q ≠ p → f'.states q = f.states q) ∧
            ∃ b b', f.states p = .ended b ∧ f'.states p = .ended b' ∧ SameBut (.variant v) b b') := by
  intro r
  obtain ⟨hchecked, hnd⟩ := Registry.of_ofPrograms hreg
  have hvariants := pl.nodup_variantStages hplan
  refine ⟨wellFounded_moves, fun f h => ?_, fun tools' ht' f f' h h' p =>
    ⟨fun hsame q hq => states_of_others hchecked hnd hvariants ht hw ht' h h' hsame hq,
      fun v hsame => states_of_variant hchecked hnd hvariants ht hw ht' h h' hsame⟩⟩
  -- the programs one after the other are themselves an order
  obtain ⟨states, hends, hstates⟩ := @exists_ends pl registry.programs tools hvariants hnd s.world
  have hg := pl.grounded_buildAll tools registry.programs
  rw [show r.1 = _ from hg.result s, show r.2.world = _ from hg.world s]
  constructor
  · rw [← hstates]
    refine List.map_congr_left fun p _ => ?_
    rw [states_of_ends hchecked hnd hvariants ht hw h p]
    exact (states_of_ends hchecked hnd hvariants ht hw hends p).symm
  · intro q
    have halike := alike_of_ends hchecked hnd hvariants ht hw hends h
    exact halike.content fun _ _ => Set.notMem_empty _

/-- A suite in which the outputs of the programs have names in common. -/
theorem Sample.suite_in_any_order :
    let r := (Sample.pipeline.buildAll Sample.tools Sample.programs).run (.ofWorld Sample.world)
    ∀ f, Sample.pipeline.Ends Sample.programs Sample.tools Sample.world f →
      (Sample.programs.attach.map f.states = r.1.map .ended ∧
        ∀ q, f.world.content? q = r.2.world.content? q) ∧
      ∀ f', Sample.pipeline.Ends Sample.programs Sample.toolsWithout Sample.world f' →
        ∀ q : Pipeline.Member Sample.programs, q.1.name ≠ "a" → f'.states q = f.states q := by
  have hreg : Registry.ofPrograms Sample.programs = .ok ⟨Sample.programs⟩ := by
    rfl
  have ht : ∀ p ∈ Sample.programs, Sample.pipeline.ToolsConfined p Sample.tools :=
    fun p hp => Sample.toolsConfined hp
  have ht' : ∀ p ∈ Sample.programs, Sample.pipeline.ToolsConfined p Sample.toolsWithout :=
    fun p hp => Sample.toolsWithout_confined hp
  have hplan : Sample.pipeline.plan = .ofHost .detect := rfl
  obtain ⟨-, horder, hchange⟩ := Pipeline.builds_in_any_order Sample.pipeline Sample.tools
    (.ofWorld Sample.world) hreg hplan ht Sample.isolated_world
  intro r f h
  refine ⟨horder f h, fun f' h' q hq => ?_⟩
  refine (hchange _ ht' f f' h h' ⟨{ name := "a" }, List.mem_cons_self⟩).1
    (fun c hc => if_neg hc) q ?_
  rintro rfl
  exact hq rfl

end GuardCost
