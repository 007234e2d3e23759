/-
GuardCost/Proofs/CountedSuites.lean

Suites whose stages are counted.  The builds of a suite have the machine and the
recorder in common (`Commons`).  That a stage has run and that it is counted are
two moves of a build, and other builds may move in between; the variants of a
program run in any order, and each is counted at some time after it has run
(`Pipeline.Advances`).

However the builds take turns, the recorder has counted what each of them has
come past (`Workshop.Counted`):

    what is recorded  =  the outcomes of the courses, in some order
                                                          (Counted.of_run)

and at the end, when nothing is left to do, these are the outcomes of builds.
To build one program after the other is one of the ways (`run_of_buildAll`).
-/
import GuardCost.Proofs.BuildShape
import GuardCost.Proofs.StageCounts
import Mathlib.Data.Set.List
import Mathlib.Logic.Relation

namespace GuardCost

open GuardCost.Action Metrics Relation

/-! ### Courses -/

/-- A stage that has run. -/
structure Settled where
  stage : Stage
  result : Except BuildError Unit
  /-- An error tells the stage. -/
  names : ∀ e, result = .error e → e.failedStage = stage

/-- A stage, and whether it went well. -/
def Settled.outcome (r : Settled) : Stage × Bool := (r.stage, r.result.isOk)

/-- The place of a variant in the build of its program. -/
inductive Slot where
  | todo (stage : Stage)
  /-- It has run and is not counted yet. -/
  | ran (r : Settled)
  | counted (r : Settled)

/-- How far a build has come, and how far it is counted. -/
inductive Course where
  | waiting
  /-- It has made some of its front. -/
  | front (sources : List String) (made : List Artifact) (todo : List Stage)
  /-- A stage of the front went well and is not counted yet. -/
  | passed (sources : List String) (made : List Artifact) (stage : Stage) (todo : List Stage)
  /-- The program failed, which is not counted yet. -/
  | failing (made : List Artifact) (e : BuildError)
  | variants (sources : List String) (made : List Artifact) (slots : List Slot)
  | ended (b : Build)

/-- What the builds of a suite have in common. -/
structure Commons where
  world : World
  metrics : Recorder

namespace Commons

def ofSession (s : Session) : Commons := ⟨s.world, s.metrics⟩

/-- What a deed leaves of the machine. -/
def after {α : Type} (c : Commons) (d : Deed α) : Commons := { c with world := d.world }

/-- Count a stage. -/
def count (c : Commons) (outcome : Stage × Bool) : Commons :=
  { c with metrics := c.metrics.record (countStage outcome).1 (countStage outcome).2 }

end Commons

namespace Pipeline

variable (pl : Pipeline) (p : Program) (tools : Tools)

/-- A stage of a program, run on a machine. -/
def settle (sources : List String) (stage : Stage) (w : World) : Settled where
  stage
  result := (deed ((pl.step p sources stage).run tools p.name) w).result
  names _ h := (Step.names_of_error h).2

/-- What was made and what failed of the variants. -/
def gather (sources : List String) (results : List Settled) : List Artifact × List BuildError :=
  (results.flatMap fun r => (pl.step p sources r.stage).made p.name r.result,
    results.flatMap fun r => failed r.result)

/-- What the build of a program can do next. -/
inductive Advances : Course × Commons → Course × Commons → Prop
  | unprepared (c : Commons) {e : BuildError}
    (h : (deed (pl.prepare p) c.world).result = .error e) :
    Advances (.waiting, c) (.failing [] e, c.after (deed (pl.prepare p) c.world))
  | prepared (c : Commons) {sources : List String}
    (h : (deed (pl.prepare p) c.world).result = .ok sources) :
    Advances (.waiting, c)
      (.front sources [] pl.frontStages, c.after (deed (pl.prepare p) c.world))
  | stopped (c : Commons) {sources : List String} {made : List Artifact} {stage : Stage}
    {todo : List Stage} {e : BuildError}
    (h : (deed ((pl.step p sources stage).run tools p.name) c.world).result = .error e) :
    Advances (.front sources made (stage :: todo), c)
      (.failing made e, c.after (deed ((pl.step p sources stage).run tools p.name) c.world))
  | went (c : Commons) {sources : List String} {made : List Artifact} {stage : Stage}
    {todo : List Stage}
    (h : (deed ((pl.step p sources stage).run tools p.name) c.world).result = .ok ()) :
    Advances (.front sources made (stage :: todo), c)
      (.passed sources made stage todo,
        c.after (deed ((pl.step p sources stage).run tools p.name) c.world))
  | counted (c : Commons) {sources : List String} {made : List Artifact} {stage : Stage}
    {todo : List Stage} :
    Advances (.passed sources made stage todo, c)
      (.front sources (made ++ [pl.artifact p stage]) todo, c.count (stage, true))
  | failed (c : Commons) {made : List Artifact} {e : BuildError} :
    Advances (.failing made e, c) (.ended (pl.brokenOff p made e), c.count (e.failedStage, false))
  | parted (c : Commons) {sources : List String} {made : List Artifact} :
    Advances (.front sources made [], c)
      (.variants sources made (pl.variantStages.map .todo), c)
  | built (c : Commons) {sources : List String} {made : List Artifact} {before after : List Slot}
    {stage : Stage} :
    Advances (.variants sources made (before ++ .todo stage :: after), c)
      (.variants sources made (before ++ .ran (pl.settle p tools sources stage c.world) :: after),
        c.after (deed ((pl.step p sources stage).run tools p.name) c.world))
  | noted (c : Commons) {sources : List String} {made : List Artifact} {before after : List Slot}
    {r : Settled} :
    Advances (.variants sources made (before ++ .ran r :: after), c)
      (.variants sources made (before ++ .counted r :: after), c.count r.outcome)
  | joined (c : Commons) {sources : List String} {made : List Artifact} {results : List Settled} :
    Advances (.variants sources made (results.map .counted), c)
      (.ended (pl.completed p made (pl.gather p sources results)), c)

/-- As long as a build has not ended, there is something to do. -/
theorem exists_advances {course : Course} (h : ∀ b, course ≠ .ended b) (c : Commons) :
    ∃ after, pl.Advances p tools (course, c) after := by
  cases course with
  | waiting =>
    cases hprep : (deed (pl.prepare p) c.world).result with
    | error e => exact ⟨_, .unprepared c hprep⟩
    | ok sources => exact ⟨_, .prepared c hprep⟩
  | front sources made todo =>
    cases todo with
    | nil => exact ⟨_, .parted c⟩
    | cons stage todo =>
      cases hstep : (deed ((pl.step p sources stage).run tools p.name) c.world).result with
      | error e => exact ⟨_, .stopped c hstep⟩
      | ok u => exact ⟨_, .went c hstep⟩
  | passed sources made stage todo => exact ⟨_, .counted c⟩
  | failing made e => exact ⟨_, .failed c⟩
  | variants sources made slots =>
    by_cases hdone : ∀ slot ∈ slots, slot ∈ Set.range Slot.counted
    · obtain ⟨results, rfl⟩ : slots ∈ Set.range (List.map Slot.counted) := by
        rw [Set.range_list_map]
        exact hdone
      exact ⟨_, .joined c⟩
    · push Not at hdone
      obtain ⟨slot, hslot, hnot⟩ := hdone
      obtain ⟨before, after, rfl⟩ := List.append_of_mem hslot
      cases slot with
      | todo stage => exact ⟨_, .built c⟩
      | ran r => exact ⟨_, .noted c⟩
      | counted r => exact absurd ⟨r, rfl⟩ hnot
  | ended b => exact absurd rfl (h b)

end Pipeline

/-! ### Counting along -/

/-- What one of several adds to its own list is added to the list of all. -/
theorem perm_flatMap_middle {α β : Type} {f : α → List β} {x y : α} {news : List β}
    (h : (f y).Perm (f x ++ news)) (before after : List α) :
    ((before ++ y :: after).flatMap f).Perm ((before ++ x :: after).flatMap f ++ news) := by
  simp only [List.flatMap_append, List.flatMap_cons, List.append_assoc]
  refine List.Perm.append_left _ ((h.append_right _).trans ?_)
  rw [List.append_assoc]
  exact List.perm_append_comm.append_left _

/-- What is counted of a variant. -/
def Slot.outcomes : Slot → List (Stage × Bool)
  | todo _ => []
  | ran _ => []
  | counted r => [r.outcome]

/-- What is counted of a build. -/
def Course.outcomes : Course → List (Stage × Bool)
  | waiting => []
  | front _ made _ => made.map fun a => (a.stage, true)
  | passed _ made _ _ => made.map fun a => (a.stage, true)
  | failing made _ => made.map fun a => (a.stage, true)
  | variants _ made slots => made.map (fun a => (a.stage, true)) ++ slots.flatMap Slot.outcomes
  | ended b => b.outcomes

/-- What is still to be done about a variant. -/
def Slot.left : Slot → Nat
  | todo _ => 2
  | ran _ => 1
  | counted _ => 0

namespace Pipeline

variable (pl : Pipeline)

/-- What is still to be done about a build. -/
def workLeft : Course → Nat
  | .waiting => 2 * pl.frontStages.length + 2 * pl.variantStages.length + 3
  | .front _ _ todo => 2 * todo.length + 2 * pl.variantStages.length + 2
  | .passed _ _ _ todo => 2 * todo.length + 2 * pl.variantStages.length + 3
  | .failing _ _ => 1
  | .variants _ _ slots => (slots.map Slot.left).sum + 1
  | .ended _ => 0

variable {pl} {p : Program} {tools : Tools} {sources : List String}

/-- The outcomes that variants have counted are those that their build tells of. -/
theorem perm_outcomes_gather (results : List Settled) :
    ((pl.gather p sources results).1.map (fun a => (a.stage, true)) ++
      (pl.gather p sources results).2.map fun e => (e.failedStage, false)).Perm
        (results.map Settled.outcome) := by
  induction results with
  | nil => exact .refl _
  | cons r rest ih =>
    obtain ⟨stage, e | ⟨⟨⟩⟩, hnames⟩ := r
    · -- a failure stands behind everything that was made
      have hgather : pl.gather p sources (⟨stage, .error e, hnames⟩ :: rest) =
          ((pl.gather p sources rest).1, e :: (pl.gather p sources rest).2) := rfl
      rw [hgather, List.map_cons, List.map_cons, hnames e rfl]
      exact List.perm_middle.trans (ih.cons _)
    · exact ih.cons _

variable {before after : Course × Commons}

/-- **Whatever a build does, it counts what it comes past.** -/
theorem Advances.counts (h : pl.Advances p tools before after) :
    ∃ news : List (Stage × Bool),
      after.2.metrics = before.2.metrics.recordAll (news.map countStage) ∧
        after.1.outcomes.Perm (before.1.outcomes ++ news) := by
  cases h with
  | unprepared c h => exact ⟨[], rfl, .refl _⟩
  | prepared c h => exact ⟨[], rfl, .refl _⟩
  | stopped c h => exact ⟨[], rfl, by simp [Course.outcomes]⟩
  | went c h => exact ⟨[], rfl, by simp [Course.outcomes]⟩
  | @counted c sources made stage todo =>
    exact ⟨[(stage, true)], rfl, by simp [Course.outcomes, artifact]⟩
  | @failed c made e =>
    exact ⟨[(e.failedStage, false)], rfl, by simp [Course.outcomes, Build.outcomes, brokenOff]⟩
  | @parted c sources made =>
    have hnone : (pl.variantStages.map Slot.todo).flatMap Slot.outcomes = [] := by
      simp [List.flatMap_map, Slot.outcomes]
    exact ⟨[], rfl, by simp [Course.outcomes, hnone]⟩
  | built c => exact ⟨[], rfl, by simp [Course.outcomes, Slot.outcomes]⟩
  | @noted c sources made before after r =>
    have hslots := perm_flatMap_middle (f := Slot.outcomes) (x := .ran r) (y := .counted r)
      (.refl [r.outcome]) before after
    refine ⟨[r.outcome], rfl, ?_⟩
    simp only [Course.outcomes, List.append_assoc]
    exact hslots.append_left _
  | @joined c sources made results =>
    have hcounted : (results.map Slot.counted).flatMap Slot.outcomes =
        results.map Settled.outcome := by
      rw [List.flatMap_map, ← List.flatMap_pure_eq_map]
      rfl
    refine ⟨[], rfl, ?_⟩
    simp only [Course.outcomes, Build.outcomes, completed, hcounted, List.map_append,
      List.append_assoc, List.append_nil]
    exact (perm_outcomes_gather results).append_left _

/-- Whatever a build does, less is left. -/
theorem workLeft_lt (h : pl.Advances p tools before after) :
    pl.workLeft after.1 < pl.workLeft before.1 := by
  cases h with
  | unprepared c h => simp [workLeft]
  | prepared c h => simp [workLeft]
  | stopped c h => simp [workLeft]
  | went c h =>
    simp only [workLeft, List.length_cons]
    omega
  | counted c => simp [workLeft]
  | failed c => simp [workLeft]
  | parted c =>
    have hsum : ((pl.variantStages.map Slot.todo).map Slot.left).sum =
        2 * pl.variantStages.length := by
      simp [Function.comp_def, Slot.left, Nat.mul_comm]
    simp only [workLeft, hsum, List.length_nil]
    omega
  | built c => simp [workLeft, Slot.left]
  | noted c => simp [workLeft, Slot.left]
  | joined c => simp [workLeft]

end Pipeline

/-! ### Workshops -/

/-- Programs whose builds are under way. -/
structure Workshop where
  commons : Commons
  builds : List (Program × Course)

namespace Workshop

/-- A workshop in which nothing is built yet. -/
def start (commons : Commons) (programs : List Program) : Workshop :=
  ⟨commons, programs.map fun p => (p, .waiting)⟩

/-- The build of one of the programs advances. -/
inductive Move (pl : Pipeline) (tools : Tools) : Workshop → Workshop → Prop
  | act (before after : List (Program × Course)) (p : Program) {course course' : Course}
    {c c' : Commons} (h : pl.Advances p tools (course, c) (course', c')) :
    Move pl tools ⟨c, before ++ (p, course) :: after⟩ ⟨c', before ++ (p, course') :: after⟩

/-- The builds take turns in any way. -/
abbrev Run (pl : Pipeline) (tools : Tools) : Workshop → Workshop → Prop :=
  ReflTransGen (Move pl tools)

/-- A workshop in which nothing is left to do. -/
def Idle (pl : Pipeline) (tools : Tools) (f : Workshop) : Prop := ∀ f', ¬ Move pl tools f f'

/-- A workshop in which the programs have been built. -/
structure Built (f : Workshop) (programs : List Program) (builds : List Build) : Prop where
  programs : f.builds.map Prod.fst = programs
  builds : f.builds.map Prod.snd = builds.map .ended

/-- Everything that the builds have come past is counted, once. -/
def Counted (f : Workshop) : Prop :=
  ∃ log : List (Stage × Bool),
    f.commons.metrics = (Recorder.install none).2.recordAll (log.map countStage) ∧
      log.Perm (f.builds.flatMap fun b => b.2.outcomes)

variable {pl : Pipeline} {tools : Tools} {f f' : Workshop}

theorem counted_start (world : World) (programs : List Program) :
    Counted (start ⟨world, (Recorder.install none).2⟩ programs) := by
  have hnone : (programs.map fun p => (p, Course.waiting)).flatMap (fun b => b.2.outcomes) =
      [] := by
    simp [List.flatMap_map, Course.outcomes]
  refine ⟨[], rfl, ?_⟩
  rw [start, hnone]

/-- A move counts what it comes past. -/
theorem Counted.move (h : f.Counted) (hmove : Move pl tools f f') : f'.Counted := by
  cases hmove with
  | @act before after p course course' c c' hact =>
    obtain ⟨log, hmetrics, hlog⟩ := h
    obtain ⟨news, hnews, hperm⟩ := hact.counts
    simp only at hmetrics hnews hlog
    refine ⟨log ++ news, ?_, ?_⟩
    · rw [hnews, hmetrics, List.map_append, Recorder.recordAll_append]
    · -- what is new stands last in the log, and behind its own build
      have hbuilds := perm_flatMap_middle (f := fun b : Program × Course => b.2.outcomes)
        (x := (p, course)) (y := (p, course')) hperm before after
      exact (hlog.append_right news).trans hbuilds.symm

/-- **However the builds take turns, everything they come past is counted.** -/
theorem Counted.of_run (h : f.Counted) (hrun : Run pl tools f f') : f'.Counted := by
  induction hrun with
  | refl => exact h
  | tail _ hmove ih => exact ih.move hmove

/-- Moves do not change what is to be built. -/
theorem programs_of_run (hrun : Run pl tools f f') :
    f'.builds.map Prod.fst = f.builds.map Prod.fst := by
  induction hrun with
  | refl => rfl
  | tail _ hmove ih =>
    obtain ⟨before, after, p, -⟩ := hmove
    simpa using ih

/-- When nothing is left to do, every program has been built. -/
theorem built_of_idle (h : f.Idle pl tools) :
    ∃ builds, f.Built (f.builds.map Prod.fst) builds := by
  have hended : ∀ course ∈ f.builds.map Prod.snd, course ∈ Set.range Course.ended := by
    intro course hcourse
    obtain ⟨⟨p, course⟩, hmem, rfl⟩ := List.mem_map.1 hcourse
    by_contra hnot
    obtain ⟨before, after, hsplit⟩ := List.append_of_mem hmem
    obtain ⟨⟨course', c'⟩, hact⟩ := pl.exists_advances p tools
      (fun b hb => hnot ⟨b, hb.symm⟩) f.commons
    have hmove := Move.act before after p hact
    rw [← hsplit] at hmove
    exact h _ hmove
  have hbuilds : f.builds.map Prod.snd ∈ Set.range (List.map Course.ended) := by
    rw [Set.range_list_map]
    exact hended
  obtain ⟨builds, hbuilds⟩ := hbuilds
  exact ⟨builds, rfl, hbuilds.symm⟩

/-- A recorder that has counted along shows the builds. -/
theorem Built.shows {programs : List Program} {builds : List Build} (h : f.Built programs builds)
    (hcounted : f.Counted) :
    ∃ store, f.commons.metrics = some store ∧ ShowsBuilds store builds := by
  obtain ⟨log, hmetrics, hlog⟩ := hcounted
  have houtcomes : (f.builds.flatMap fun b => b.2.outcomes) = builds.flatMap Build.outcomes := by
    have hmap : (f.builds.flatMap fun b => b.2.outcomes) =
        (f.builds.map Prod.snd).flatMap Course.outcomes := by
      rw [List.flatMap_map]
    rw [hmap, h.builds, List.flatMap_map]
    rfl
  rw [houtcomes] at hlog
  exact ⟨_, hmetrics.trans (Recorder.recordAll_some _ _), .of_perm hlog⟩

/-- How much of the builds is left. -/
def workLeft (pl : Pipeline) (f : Workshop) : Nat := (f.builds.map fun b => pl.workLeft b.2).sum

theorem workLeft_lt (h : Move pl tools f f') : f'.workLeft pl < f.workLeft pl := by
  obtain ⟨before, after, p, hact⟩ := h
  have hlt := Pipeline.workLeft_lt hact
  simpa [workLeft] using hlt

/-- The builds cannot take turns forever. -/
theorem wellFounded_moves : WellFounded fun f' f => Move pl tools f f' :=
  Subrelation.wf workLeft_lt (InvImage.wf (workLeft pl) Nat.lt_wfRel.wf)

/-- One build may advance all the time. -/
theorem run_of_solo {p : Program} {first last : Course × Commons}
    (h : ReflTransGen (pl.Advances p tools) first last) (before after : List (Program × Course)) :
    Run pl tools ⟨first.2, before ++ (p, first.1) :: after⟩
      ⟨last.2, before ++ (p, last.1) :: after⟩ := by
  induction h with
  | refl => exact .refl
  | tail _ hact ih => exact ih.tail (.act before after p hact)

end Workshop

/-! ### One program after the other -/

namespace Action

/-- An action that records nothing leaves its deed in common. -/
theorem Unrecorded.run_eq {α : Type} {x : Action α} (hx : Unrecorded x) (hground : Grounded x)
    (s : Session) : ∃ t, x.run s = ((deed x s.world).result, t) ∧
      Commons.ofSession t = (Commons.ofSession s).after (deed x s.world) := by
  have hmetrics : (x.run s).2.metrics = s.metrics := hx s
  refine ⟨(x.run s).2, ?_, ?_⟩
  · rw [← hground.result]
    rfl
  · rw [Commons.ofSession, hground.world, hmetrics]
    rfl

end Action

namespace Pipeline

variable (pl : Pipeline) (p : Program) (tools : Tools) {sources : List String}

/-- Where a front leads that was run to its end. -/
def fronted (sources : List String) (made : List Artifact) :
    List Artifact × Option BuildError → Course
  | (more, none) => .front sources (made ++ more) []
  | (more, some e) => .ended (pl.brokenOff p (made ++ more) e)

theorem fronted_cons (made : List Artifact) (a : Artifact)
    (front : List Artifact × Option BuildError) :
    pl.fronted p sources made (a :: front.1, front.2) =
      pl.fronted p sources (made ++ [a]) front := by
  obtain ⟨more, - | e⟩ := front <;> simp [fronted]

/-- To run a front is one of the ways to advance through it. -/
theorem solo_runFront (made : List Artifact) (stages : List Stage) (s : Session) :
    let r := (runFront tools p.name (pl.steps p sources stages)).run s
    ReflTransGen (pl.Advances p tools) (.front sources made stages, .ofSession s)
      (pl.fronted p sources made r.1, .ofSession r.2) := by
  induction stages generalizing made s with
  | nil =>
    have hnone : pl.fronted p sources made ([], none) = .front sources made [] := by
      rw [fronted, List.append_nil]
    show ReflTransGen _ _ (pl.fronted p sources made ([], none), Commons.ofSession s)
    rw [hnone]
  | cons stage rest ih =>
    let step := pl.step p sources stage
    obtain ⟨t, hrun, ht⟩ := (unrecorded_stepRun tools p.name step).run_eq
      (step.grounded_run tools p.name) s
    have hfront : (runFront tools p.name (pl.steps p sources (stage :: rest))).run s =
        (frontNext tools p.name step (pl.steps p sources rest)
          (deed (step.run tools p.name) s.world).result).run t := by
      rw [steps, List.map_cons, runFront_cons, run_bind, hrun]
      rfl
    rw [hfront]
    cases hd : (deed (step.run tools p.name) s.world).result with
    | error e =>
      have hbroken : pl.fronted p sources made ([], some e) = .ended (pl.brokenOff p made e) := by
        rw [fronted, List.append_nil]
      have hstopped : pl.Advances p tools (.front sources made (stage :: rest), .ofSession s)
          (.failing made e, .ofSession t) := by
        rw [ht]
        exact .stopped (.ofSession s) hd
      show ReflTransGen _ _ (pl.fronted p sources made ([], some e), _)
      rw [hbroken]
      exact (ReflTransGen.single hstopped).tail (.failed (.ofSession t))
    | ok u =>
      have hwent : pl.Advances p tools (.front sources made (stage :: rest), .ofSession s)
          (.passed sources made stage rest, .ofSession t) := by
        rw [ht]
        exact .went (.ofSession s) hd
      have hrest := ih (made ++ [pl.artifact p stage]) ((recordStage stage true).run t).2
      simp only [← fronted_cons] at hrest
      exact ((ReflTransGen.single hwent).tail (.counted (.ofSession t))).trans hrest

/-- To run every variant is one of the ways to build them. -/
theorem solo_runEach (made : List Artifact) (done : List Settled) (stages : List Stage)
    (s : Session) :
    let r := (runEach tools p.name (pl.steps p sources stages)).run s
    ∃ results : List Settled, r.1 = pl.gather p sources results ∧
      ReflTransGen (pl.Advances p tools)
        (.variants sources made (done.map .counted ++ stages.map .todo), .ofSession s)
        (.variants sources made ((done ++ results).map .counted), .ofSession r.2) := by
  induction stages generalizing done s with
  | nil =>
    refine ⟨[], rfl, ?_⟩
    rw [List.map_nil, List.append_nil, List.append_nil]
    exact .refl
  | cons stage rest ih =>
    let step := pl.step p sources stage
    let settled := pl.settle p tools sources stage s.world
    obtain ⟨t, hrun, ht⟩ := (unrecorded_stepRun tools p.name step).run_eq
      (step.grounded_run tools p.name) s
    have heach : (runEach tools p.name (pl.steps p sources (stage :: rest))).run s =
        (eachNext tools p.name step (pl.steps p sources rest) settled.result).run t := by
      rw [steps, List.map_cons, runEach_cons, run_bind, hrun]
      rfl
    -- the session in which the stage has been counted
    obtain ⟨u, hu, hnext⟩ : ∃ u, Commons.ofSession u = (Commons.ofSession t).count settled.outcome ∧
        (eachNext tools p.name step (pl.steps p sources rest) settled.result).run t =
          let r := (runEach tools p.name (pl.steps p sources rest)).run u
          ((step.made p.name settled.result ++ r.1.1, failed settled.result ++ r.1.2), r.2) := by
      rw [Settled.outcome]
      rcases settled.result with e | ⟨⟩
      · exact ⟨((recordStage stage false).run ((noteFailure e).run t).2).2, rfl, rfl⟩
      · exact ⟨((recordStage stage true).run t).2, rfl, rfl⟩
    obtain ⟨results, hresults, hrest⟩ := ih (done ++ [settled]) u
    rw [heach, hnext]
    refine ⟨settled :: results, ?_, ?_⟩
    · show (_, _) = _
      rw [hresults]
      rfl
    · have hbuilt : pl.Advances p tools
          (.variants sources made (done.map .counted ++ .todo stage :: rest.map .todo),
            .ofSession s)
          (.variants sources made (done.map .counted ++ .ran settled :: rest.map .todo),
            .ofSession t) := by
        rw [ht]
        exact .built (.ofSession s)
      have hnoted : pl.Advances p tools
          (.variants sources made (done.map .counted ++ .ran settled :: rest.map .todo),
            .ofSession t)
          (.variants sources made ((done ++ [settled]).map .counted ++ rest.map .todo),
            .ofSession u) := by
        rw [hu, List.map_append, List.append_assoc]
        exact .noted (.ofSession t)
      rw [List.append_assoc] at hrest
      exact ((ReflTransGen.single hbuilt).tail hnoted).trans hrest

/-- Once the front of a program has run, `buildVariants` is one of the ways on. -/
theorem solo_buildVariants (front : List Artifact × Option BuildError) (s : Session) :
    let r := (pl.buildVariants p tools sources front).run s
    ReflTransGen (pl.Advances p tools) (pl.fronted p sources [] front, .ofSession s)
      (.ended r.1, .ofSession r.2) := by
  obtain ⟨made, - | e⟩ := front
  · obtain ⟨results, hresults, hrun⟩ := pl.solo_runEach p tools made [] pl.variantStages s
    have hparted : pl.Advances p tools (.front sources made [], .ofSession s)
        (.variants sources made (pl.variantStages.map .todo), .ofSession s) := .parted _
    have hjoined : pl.Advances p tools
        (.variants sources made (results.map .counted), .ofSession
          ((runEach tools p.name (pl.steps p sources pl.variantStages)).run s).2)
        (.ended ((pl.buildVariants p tools sources (made, none)).run s).1, .ofSession
          ((runEach tools p.name (pl.steps p sources pl.variantStages)).run s).2) := by
      have hbuild : ((pl.buildVariants p tools sources (made, none)).run s).1 =
          pl.completed p made (pl.gather p sources results) := by
        rw [← hresults]
        rfl
      rw [hbuild]
      exact .joined _
    exact ((ReflTransGen.single hparted).trans hrun).tail hjoined
  · exact .refl

/-- To build a program is one of the ways to go through its build. -/
theorem solo_counted_build (s : Session) :
    let r := (pl.build tools p).run s
    ReflTransGen (pl.Advances p tools) (.waiting, .ofSession s) (.ended r.1, .ofSession r.2) := by
  intro r
  obtain ⟨outer, inner, hresult, hsession⟩ :=
    run_within "build" p.name (pl.prepare p >>= pl.buildStages p tools) s
  rw [← build_eq] at hresult hsession
  rw [show r.1 = _ from hresult, show r.2 = _ from hsession]
  -- a context is nothing that builds have in common
  let s' : Session := { s with console.within := inner }
  obtain ⟨t, hrun, ht⟩ := (unrecorded_prepare pl p).run_eq (pl.grounded_prepare p) s'
  have hbody : (pl.prepare p >>= pl.buildStages p tools).run s' =
      (pl.buildStages p tools (deed (pl.prepare p) s'.world).result).run t := by
    rw [run_bind, hrun]
  show ReflTransGen _ (_, Commons.ofSession s')
    (_, Commons.ofSession ((pl.prepare p >>= pl.buildStages p tools).run s').2)
  rw [hbody]
  cases hprep : (deed (pl.prepare p) s'.world).result with
  | error e =>
    have hunprepared : pl.Advances p tools (.waiting, .ofSession s')
        (.failing [] e, .ofSession t) := by
      rw [ht]
      exact .unprepared (.ofSession s') hprep
    exact (ReflTransGen.single hunprepared).tail (.failed (.ofSession t))
  | ok sources =>
    have hprepared : pl.Advances p tools (.waiting, .ofSession s')
        (.front sources [] pl.frontStages, .ofSession t) := by
      rw [ht]
      exact .prepared (.ofSession s') hprep
    exact (ReflTransGen.single hprepared).trans
      ((pl.solo_runFront p tools [] pl.frontStages t).trans (pl.solo_buildVariants p tools _ _))

end Pipeline

namespace Workshop

/-- **To build programs one after the other is one of the ways to take turns.** -/
theorem run_of_buildAll (pl : Pipeline) (tools : Tools) (programs : List Program)
    (before : List (Program × Course)) (s : Session) :
    let r := (pl.buildAll tools programs).run s
    ∃ after : List (Program × Course),
      Run pl tools ⟨.ofSession s, before ++ programs.map fun p => (p, .waiting)⟩
        ⟨.ofSession r.2, before ++ after⟩ ∧
      Built ⟨.ofSession r.2, after⟩ programs r.1 := by
  induction programs generalizing before s with
  | nil => exact ⟨[], .refl, rfl, rfl⟩
  | cons p rest ih =>
    let r := (pl.build tools p).run s
    obtain ⟨after, hrun, hbuilt⟩ := ih (before ++ [(p, .ended r.1)]) r.2
    have hfirst := run_of_solo (pl.solo_counted_build p tools s) before
      (rest.map fun p => (p, .waiting))
    rw [List.append_assoc, List.append_assoc] at hrun
    refine ⟨(p, .ended r.1) :: after, hfirst.trans hrun, ?_, ?_⟩
    · exact congrArg (p :: ·) hbuilt.programs
    · exact congrArg (Course.ended r.1 :: ·) hbuilt.builds

end Workshop

/-- **The counters agree with the builds.**  Let the builds of programs take
turns in any way, with a recorder that has just been installed.  They come to
an end, and then the recorder shows the builds of all programs: for each kind
of stages, the number of those that were made, and of those that failed, and
no other counter.  To build one program after the other is one of these ways. -/
theorem counters_agree_with_builds (pl : Pipeline) (tools : Tools) (programs : List Program)
    (s : Session) :
    let start := Workshop.start ⟨s.world, (Recorder.install none).2⟩ programs
    let r := (pl.buildAll tools programs).run { s with metrics := (Recorder.install none).2 }
    (∃ store, r.2.metrics = some store ∧ ShowsBuilds store r.1) ∧
      (∃ f, Workshop.Run pl tools start f ∧ f.commons = .ofSession r.2 ∧ f.Built programs r.1) ∧
      (WellFounded fun f' f => Workshop.Move pl tools f f') ∧
      ∀ f, Workshop.Run pl tools start f → f.Idle pl tools →
        ∃ builds store, f.Built programs builds ∧ f.commons.metrics = some store ∧
          ShowsBuilds store builds := by
  intro start r
  have hstart : start.Counted := Workshop.counted_start s.world programs
  obtain ⟨after, hrun, hbuilt⟩ := Workshop.run_of_buildAll pl tools programs []
    { s with metrics := (Recorder.install none).2 }
  refine ⟨?_, ⟨_, hrun, rfl, hbuilt⟩, Workshop.wellFounded_moves, fun f hf hidle => ?_⟩
  · exact hbuilt.shows (hstart.of_run hrun)
  · obtain ⟨builds, hbuilds⟩ := Workshop.built_of_idle hidle
    obtain ⟨store, hstore, hshows⟩ := hbuilds.shows (hstart.of_run hf)
    have hprograms : f.builds.map Prod.fst = programs := by
      rw [Workshop.programs_of_run hf]
      simp [start, Workshop.start, Function.comp_def]
    rw [hprograms] at hbuilds
    exact ⟨builds, store, hbuilds, hstore, hshows⟩

end GuardCost
