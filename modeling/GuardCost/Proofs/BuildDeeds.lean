/-
GuardCost/Proofs/BuildDeeds.lean

What the build of a program does to the machine, step by step.  A step first
clears its output (`World.cleared`) and then starts its command; a front is a
chain of steps that its first failure breaks off; the variants are a list of
steps that all run.  Each action of a build is grounded, and its deed is given
by one equation, so that what a build does is computed on machines alone.
-/
import GuardCost.Proofs.Deeds

namespace GuardCost

open GuardCost.Action

/-! ### Steps -/

/-- The machine without the file that an earlier build may have left at a
path. -/
def World.cleared (w : World) (path : Path) : Except SystemError World :=
  match w.files.removeFile w.current w.now path with
  | .ok files => .ok { w with files }
  | .error cause => if cause = .notFound then .ok w else .error cause

/-- What `removeStale` answers, given what removing the file came to. -/
def staleAnswer : Except SystemError Unit → Except SystemError Unit
  | .error cause => if cause = .notFound then .ok () else .error cause
  | .ok () => .ok ()

theorem removeStale_eq (path : Path) :
    removeStale path = changeFiles (fun w => w.files.removeFile w.current w.now path)
      >>= fun answer => pure (staleAnswer answer) := by
  unfold removeStale
  congr 1
  funext answer
  rcases answer with cause | ⟨⟩ <;> rfl

theorem grounded_removeStale (path : Path) : Grounded (removeStale path) := by
  rw [removeStale_eq]
  exact (grounded_changeFiles _).bind fun _ => .pure _

theorem deed_removeStale (path : Path) (w : World) :
    deed (removeStale path) w =
      match w.cleared path with
      | .ok w' => .idle (.ok ()) w'
      | .error cause => .idle (.error cause) w := by
  rw [removeStale_eq, deed_bind fun _ => .pure _, deed_changeFiles, World.cleared]
  cases w.files.removeFile w.current w.now path with
  | ok files => rfl
  | error cause =>
    by_cases h : cause = .notFound <;> simp [h, staleAnswer, deed_pure]

namespace Step

/-- What the ending of a step's command means for the step. -/
def verdict (s : Step) (name : String) (ending : Ending) : Except BuildError Unit :=
  match s.command.judge ending with
  | .error cause => .error (.stage name s.stage cause)
  | .ok _ => .ok ()

/-- What follows once the output of a step is cleared, or cannot be. -/
def proceed (tools : Tools) (name : String) (s : Step) :
    Except SystemError Unit → Action (Except BuildError Unit)
  | .error cause => pure (.error (.io name s.stage s.output cause))
  | .ok () => s.command.run tools >>= fun
    | .error cause => pure (.error (.stage name s.stage cause))
    | .ok _ => pure (.ok ())

theorem run_eq (tools : Tools) (name : String) (s : Step) :
    s.run tools name = removeStale s.output >>= s.proceed tools name := by
  rfl

theorem grounded_proceed (tools : Tools) (name : String) (s : Step)
    (answer : Except SystemError Unit) : Grounded (s.proceed tools name answer) := by
  rcases answer with cause | ⟨⟩
  · exact .pure _
  · refine (s.command.grounded_run tools).bind fun result => ?_
    cases result <;> exact .pure _

theorem grounded_run (tools : Tools) (name : String) (s : Step) : Grounded (s.run tools name) := by
  rw [run_eq]
  exact (grounded_removeStale _).bind (s.grounded_proceed tools name)

/-- A step that cannot clear its output does nothing; any other starts its
command once. -/
theorem deed_run (tools : Tools) (name : String) (s : Step) (w : World) :
    deed (s.run tools name) w =
      match w.cleared s.output with
      | .error cause => .idle (.error (.io name s.stage s.output cause)) w
      | .ok w' =>
        ⟨s.verdict name (tools s.command w').1, (tools s.command w').2, [s.command]⟩ := by
  rw [run_eq, deed_bind (s.grounded_proceed tools name), deed_removeStale]
  cases w.cleared s.output with
  | error cause => rfl
  | ok w' =>
    show deed (s.proceed tools name (.ok ())) w' = _
    have hgo : ∀ r : Except CommandError Output, Grounded
        (match r with
          | .error cause => pure (.error (.stage name s.stage cause))
          | .ok _ => pure (.ok ()) : Action (Except BuildError Unit)) := by
      intro r
      cases r <;> exact .pure _
    simp only [proceed]
    rw [deed_bind hgo, Command.deed_run, verdict]
    simp only [Deed.andThen]
    cases s.command.judge (tools s.command w').1 <;> rfl

/-- The error of a step names its program and its stage. -/
theorem names_of_error {tools : Tools} {name : String} {s : Step} {w : World} {e : BuildError}
    (h : (deed (s.run tools name) w).result = .error e) :
    e.program = name ∧ e.failedStage = s.stage := by
  rw [deed_run] at h
  cases hc : w.cleared s.output with
  | error cause =>
    simp only [hc, Deed.idle, Except.error.injEq] at h
    subst h
    exact ⟨rfl, rfl⟩
  | ok w' =>
    simp only [hc, verdict] at h
    split at h
    · cases h
      exact ⟨rfl, rfl⟩
    · cases h

/-- A step starts its command or nothing. -/
theorem started_of_run (tools : Tools) (name : String) (s : Step) (w : World) :
    (deed (s.run tools name) w).started = [] ∨
      (deed (s.run tools name) w).started = [s.command] := by
  rw [deed_run]
  cases w.cleared s.output with
  | error cause => exact .inl rfl
  | ok w' => exact .inr rfl

/-- A step that succeeds has started its command. -/
theorem started_of_ok {tools : Tools} {name : String} {s : Step} {w : World}
    (h : (deed (s.run tools name) w).result = .ok ()) :
    (deed (s.run tools name) w).started = [s.command] := by
  rw [deed_run] at h ⊢
  cases hc : w.cleared s.output with
  | error cause => simp [hc, Deed.idle] at h
  | ok w' => rfl

end Step

/-! ### Fronts and variants -/

theorem quiet_recordStage (stage : Stage) (ok : Bool) : Quiet (recordStage stage ok) :=
  quiet_recordEvent _ _

theorem quiet_noteFailure (e : BuildError) : Quiet (noteFailure e) := quiet_noteEvent _ _ _

section
variable (tools : Tools) (name : String)

/-- What a front does about the outcome of its first step. -/
def frontNext (s : Step) (rest : List Step) :
    Except BuildError Unit → Action (List Artifact × Option BuildError)
  | .error e => noteFailure e >>= fun _ => recordStage e.failedStage false >>= fun _ =>
    pure ([], some e)
  | .ok () => recordStage s.stage true >>= fun _ => runFront tools name rest >>= fun r =>
    pure (s.artifact name :: r.1, r.2)

theorem runFront_cons (s : Step) (rest : List Step) :
    runFront tools name (s :: rest) = s.run tools name >>= frontNext tools name s rest := by
  rfl

theorem grounded_runFront (steps : List Step) : Grounded (runFront tools name steps) := by
  induction steps with
  | nil => exact .pure _
  | cons s rest ih =>
    rw [runFront_cons]
    refine (s.grounded_run tools name).bind fun outcome => ?_
    rcases outcome with e | ⟨⟩
    · exact (quiet_noteFailure e).grounded.bind fun _ =>
        (quiet_recordStage _ _).grounded.bind fun _ => .pure _
    · exact (quiet_recordStage _ _).grounded.bind fun _ => ih.bind fun _ => .pure _

theorem grounded_frontNext (s : Step) (rest : List Step) (outcome : Except BuildError Unit) :
    Grounded (frontNext tools name s rest outcome) := by
  rcases outcome with e | ⟨⟩
  · exact (quiet_noteFailure e).grounded.bind fun _ =>
      (quiet_recordStage _ _).grounded.bind fun _ => .pure _
  · exact (quiet_recordStage _ _).grounded.bind fun _ =>
      (grounded_runFront tools name rest).bind fun _ => .pure _

theorem deed_runFront_nil (w : World) : deed (runFront tools name []) w = .idle ([], none) w := rfl

/-- The first failure breaks a front off. -/
theorem deed_runFront_error {s : Step} {rest : List Step} {w : World} {e : BuildError}
    (h : (deed (s.run tools name) w).result = .error e) :
    deed (runFront tools name (s :: rest)) w =
      ⟨([], some e), (deed (s.run tools name) w).world, (deed (s.run tools name) w).started⟩ := by
  have hnext : ∀ w, deed (frontNext tools name s rest (.error e)) w = .idle ([], some e) w := by
    intro w
    rw [frontNext, deed_quiet_bind (f := fun _ => recordStage e.failedStage false >>= fun _ =>
        (pure ([], some e) : Action _)) (quiet_noteFailure e)
        ((quiet_recordStage _ _).grounded.bind fun _ => .pure _),
      deed_quiet_bind (f := fun _ => (pure ([], some e) : Action _)) (quiet_recordStage _ _)
        (.pure _), deed_pure]
  rw [runFront_cons, deed_bind (grounded_frontNext tools name s rest), Deed.andThen, h, hnext]
  simp [Deed.idle]

/-- A step that succeeds hands over to the rest of the front. -/
theorem deed_runFront_ok {s : Step} {rest : List Step} {w : World}
    (h : (deed (s.run tools name) w).result = .ok ()) :
    deed (runFront tools name (s :: rest)) w =
      let d := deed (runFront tools name rest) (deed (s.run tools name) w).world
      ⟨(s.artifact name :: d.result.1, d.result.2), d.world, s.command :: d.started⟩ := by
  have hnext : ∀ w, deed (frontNext tools name s rest (.ok ())) w =
      (deed (runFront tools name rest) w).andThen fun r =>
        .idle (s.artifact name :: r.1, r.2) := by
    intro w
    rw [frontNext, deed_quiet_bind (f := fun _ => runFront tools name rest >>= fun r =>
        (pure (s.artifact name :: r.1, r.2) : Action _)) (quiet_recordStage _ _)
        ((grounded_runFront tools name rest).bind fun _ => .pure _), deed_bind fun _ => .pure _]
    rfl
  rw [runFront_cons, deed_bind (grounded_frontNext tools name s rest), Deed.andThen, h, hnext,
    Step.started_of_ok h]
  simp [Deed.andThen, Deed.idle]

/-- What the variants do about the outcome of their first step. -/
def eachNext (s : Step) (rest : List Step) :
    Except BuildError Unit → Action (List Artifact × List BuildError)
  | .error e => noteFailure e >>= fun _ => recordStage s.stage false >>= fun _ =>
    runEach tools name rest >>= fun r => pure (r.1, e :: r.2)
  | .ok () => recordStage s.stage true >>= fun _ => runEach tools name rest >>= fun r =>
    pure (s.artifact name :: r.1, r.2)

theorem runEach_cons (s : Step) (rest : List Step) :
    runEach tools name (s :: rest) = s.run tools name >>= eachNext tools name s rest := by
  rfl

theorem grounded_runEach (steps : List Step) : Grounded (runEach tools name steps) := by
  induction steps with
  | nil => exact .pure _
  | cons s rest ih =>
    rw [runEach_cons]
    refine (s.grounded_run tools name).bind fun outcome => ?_
    rcases outcome with e | ⟨⟩
    · exact (quiet_noteFailure e).grounded.bind fun _ =>
        (quiet_recordStage _ _).grounded.bind fun _ => ih.bind fun _ => .pure _
    · exact (quiet_recordStage _ _).grounded.bind fun _ => ih.bind fun _ => .pure _

/-- What the outcome of a step adds to what was made. -/
def Step.made (s : Step) : Except BuildError Unit → List Artifact
  | .ok () => [s.artifact name]
  | .error _ => []

/-- What the outcome of a step adds to what failed. -/
def failed : Except BuildError Unit → List BuildError
  | .ok () => []
  | .error e => [e]

/-- Each of the variants is built, whatever became of the ones before it. -/
theorem deed_runEach_cons (s : Step) (rest : List Step) (w : World) :
    deed (runEach tools name (s :: rest)) w =
      let d := deed (s.run tools name) w
      let d' := deed (runEach tools name rest) d.world
      ⟨(s.made name d.result ++ d'.result.1, failed d.result ++ d'.result.2), d'.world,
        d.started ++ d'.started⟩ := by
  have hrest := grounded_runEach tools name rest
  have hnext : ∀ outcome, Grounded (eachNext tools name s rest outcome) := by
    rintro (e | ⟨⟩)
    · exact (quiet_noteFailure e).grounded.bind fun _ =>
        (quiet_recordStage _ _).grounded.bind fun _ => hrest.bind fun _ => .pure _
    · exact (quiet_recordStage _ _).grounded.bind fun _ => hrest.bind fun _ => .pure _
  have hdeed : ∀ outcome w, deed (eachNext tools name s rest outcome) w =
      (deed (runEach tools name rest) w).andThen fun r =>
        .idle (s.made name outcome ++ r.1, failed outcome ++ r.2) := by
    rintro (e | ⟨⟩) w
    · rw [eachNext, deed_quiet_bind (f := fun _ => recordStage s.stage false >>= fun _ =>
          runEach tools name rest >>= fun r => (pure (r.1, e :: r.2) : Action _))
          (quiet_noteFailure e)
          ((quiet_recordStage _ _).grounded.bind fun _ => hrest.bind fun _ => .pure _),
        deed_quiet_bind (f := fun _ => runEach tools name rest >>= fun r =>
          (pure (r.1, e :: r.2) : Action _)) (quiet_recordStage _ _)
          (hrest.bind fun _ => .pure _), deed_bind fun _ => .pure _]
      rfl
    · rw [eachNext, deed_quiet_bind (f := fun _ => runEach tools name rest >>= fun r =>
          (pure (s.artifact name :: r.1, r.2) : Action _)) (quiet_recordStage _ _)
          (hrest.bind fun _ => .pure _), deed_bind fun _ => .pure _]
      rfl
  rw [runEach_cons, deed_bind hnext, Deed.andThen, hdeed]
  simp [Deed.andThen, Deed.idle]

end

/-! ### Builds -/

/-- The machine with a directory at a path, which is made if there is none. -/
def World.withDirectory (w : World) (path : Path) : Except SystemError World :=
  match w.files.createDirectory w.current w.now path with
  | .ok files => .ok { w with files }
  | .error cause => if w.files.isDirectory w.current path then .ok w else .error cause

/-- What `ensureDirectory` does about the answer to its request. -/
def ensureNext (path : Path) : Except SystemError Unit → Action (Except SystemError Unit)
  | .ok () => pure (.ok ())
  | .error cause => get >>= fun s =>
    pure (if s.world.files.isDirectory s.world.current path then .ok () else .error cause)

theorem ensureDirectory_eq (path : Path) :
    ensureDirectory path = changeFiles (fun w => w.files.createDirectory w.current w.now path)
      >>= ensureNext path := rfl

theorem grounded_ensureNext (path : Path) (answer : Except SystemError Unit) :
    Grounded (ensureNext path answer) := by
  rcases answer with cause | ⟨⟩
  · exact .look (f := fun w => pure (if w.files.isDirectory w.current path then Except.ok ()
      else Except.error cause)) fun _ => .pure _
  · exact .pure _

theorem grounded_ensureDirectory (path : Path) : Grounded (ensureDirectory path) :=
  (grounded_changeFiles _).bind (grounded_ensureNext path)

theorem deed_ensureDirectory (path : Path) (w : World) :
    deed (ensureDirectory path) w =
      match w.withDirectory path with
      | .ok w' => .idle (.ok ()) w'
      | .error cause => .idle (.error cause) w := by
  rw [ensureDirectory_eq, deed_bind (grounded_ensureNext path), deed_changeFiles,
    World.withDirectory]
  cases w.files.createDirectory w.current w.now path with
  | ok files => rfl
  | error cause =>
    show Deed.idle (if w.files.isDirectory w.current path then Except.ok ()
      else Except.error cause) w = _
    cases w.files.isDirectory w.current path <;> rfl

namespace Pipeline

variable (pl : Pipeline) (p : Program)

/-- The directory that the stages of a program write into. -/
def bin : Path := (pl.dir p).child Stage.outputDir

/-- What is done once the sources of a program have been looked for. -/
def prepareNext : Except BuildError (List String) → Action (Except BuildError (List String))
  | .error e => pure (.error e)
  | .ok sources => ensureDirectory (pl.bin p) >>= fun
    | .error cause => pure (.error (.io p.name .sources (pl.bin p) cause))
    | .ok () => pure (.ok sources)

theorem prepare_eq :
    pl.prepare p = get >>= fun s => pl.prepareNext p (p.findSources s.world (pl.dir p)) := rfl

theorem grounded_prepareNext (found : Except BuildError (List String)) :
    Grounded (pl.prepareNext p found) := by
  cases found with
  | error e => exact .pure _
  | ok sources =>
    refine (grounded_ensureDirectory _).bind fun answer => ?_
    rcases answer with cause | ⟨⟩ <;> exact .pure _

theorem grounded_prepare : Grounded (pl.prepare p) :=
  .look (f := fun w => pl.prepareNext p (p.findSources w (pl.dir p)))
    fun _ => pl.grounded_prepareNext p _

/-- Preparing a program finds its sources and makes its output directory. -/
theorem deed_prepare (w : World) :
    deed (pl.prepare p) w =
      match p.findSources w (pl.dir p) with
      | .error e => .idle (.error e) w
      | .ok sources =>
        match w.withDirectory (pl.bin p) with
        | .error cause => .idle (.error (.io p.name .sources (pl.bin p) cause)) w
        | .ok w' => .idle (.ok sources) w' := by
  rw [prepare_eq, deed_look (fun w => pl.prepareNext p (p.findSources w (pl.dir p)))]
  cases p.findSources w (pl.dir p) with
  | error e => rfl
  | ok sources =>
    have hnext : ∀ answer : Except SystemError Unit, Grounded
        (match answer with
          | .error cause => pure (.error (.io p.name .sources (pl.bin p) cause))
          | .ok () => pure (.ok sources) : Action (Except BuildError (List String))) := by
      rintro (cause | ⟨⟩) <;> exact .pure _
    simp only [prepareNext]
    rw [deed_bind hnext, deed_ensureDirectory]
    cases w.withDirectory (pl.bin p) <;> rfl

/-- The build of a program that a failure has ended. -/
def brokenOff (made : List Artifact) (e : BuildError) : Build := ⟨p.name, pl.dir p, made, [e]⟩

/-- The build of a program whose front is complete. -/
def completed (made : List Artifact) (variants : List Artifact × List BuildError) : Build :=
  ⟨p.name, pl.dir p, made ++ variants.1, variants.2⟩

/-- The steps of stages of a program. -/
def steps (sources : List String) (stages : List Stage) : List Step :=
  stages.map (pl.step p sources)

section
variable (tools : Tools)

/-- What is done once a front has run. -/
def buildVariants (sources : List String) : List Artifact × Option BuildError → Action Build
  | (made, some e) => pure (pl.brokenOff p made e)
  | (made, none) => runEach tools p.name (pl.steps p sources pl.variantStages) >>= fun variants =>
    pure (pl.completed p made variants)

/-- What is done once a program is prepared. -/
def buildStages : Except BuildError (List String) → Action Build
  | .error e => noteFailure e >>= fun _ => recordStage e.failedStage false >>= fun _ =>
    pure (pl.brokenOff p [] e)
  | .ok sources => runFront tools p.name (pl.steps p sources pl.frontStages)
    >>= pl.buildVariants p tools sources

theorem build_eq :
    pl.build tools p = within "build" p.name (pl.prepare p >>= pl.buildStages p tools) := by
  refine congrArg (fun next => within "build" p.name (pl.prepare p >>= next)) ?_
  funext prepared
  cases prepared with
  | error e => rfl
  | ok sources =>
    refine congrArg (runFront tools p.name (pl.steps p sources pl.frontStages) >>= ·) ?_
    funext front
    obtain ⟨made, - | e⟩ := front <;> rfl

theorem grounded_buildVariants (sources : List String)
    (front : List Artifact × Option BuildError) :
    Grounded (pl.buildVariants p tools sources front) := by
  obtain ⟨made, - | e⟩ := front
  · exact (grounded_runEach ..).bind fun _ => .pure _
  · exact .pure _

theorem grounded_buildStages (prepared : Except BuildError (List String)) :
    Grounded (pl.buildStages p tools prepared) := by
  cases prepared with
  | error e =>
    exact (quiet_noteFailure e).grounded.bind fun _ =>
      (quiet_recordStage _ _).grounded.bind fun _ => .pure _
  | ok sources => exact (grounded_runFront ..).bind (pl.grounded_buildVariants p tools sources)

theorem grounded_build : Grounded (pl.build tools p) := by
  rw [build_eq]
  exact ((pl.grounded_prepare p).bind (pl.grounded_buildStages p tools)).within _ _

theorem deed_build (w : World) :
    deed (pl.build tools p) w =
      (deed (pl.prepare p) w).andThen fun prepared => deed (pl.buildStages p tools prepared) := by
  rw [build_eq, deed_within ((pl.grounded_prepare p).bind (pl.grounded_buildStages p tools)),
    deed_bind (pl.grounded_buildStages p tools)]

theorem deed_buildStages_error (e : BuildError) (w : World) :
    deed (pl.buildStages p tools (.error e)) w = .idle (pl.brokenOff p [] e) w := by
  rw [buildStages, deed_quiet_bind (f := fun _ => recordStage e.failedStage false >>= fun _ =>
      (pure (pl.brokenOff p [] e) : Action _)) (quiet_noteFailure e)
      ((quiet_recordStage _ _).grounded.bind fun _ => .pure _),
    deed_quiet_bind (f := fun _ => (pure (pl.brokenOff p [] e) : Action _))
      (quiet_recordStage _ _) (.pure _), deed_pure]

theorem deed_buildStages_ok (sources : List String) (w : World) :
    deed (pl.buildStages p tools (.ok sources)) w =
      (deed (runFront tools p.name (pl.steps p sources pl.frontStages)) w).andThen fun front =>
        deed (pl.buildVariants p tools sources front) :=
  deed_bind (pl.grounded_buildVariants p tools sources) w

theorem deed_buildVariants_none (sources : List String) (made : List Artifact) (w : World) :
    deed (pl.buildVariants p tools sources (made, none)) w =
      let d := deed (runEach tools p.name (pl.steps p sources pl.variantStages)) w
      ⟨pl.completed p made d.result, d.world, d.started⟩ := by
  rw [buildVariants, deed_bind fun _ => .pure _]
  simp [Deed.andThen, deed_pure, Deed.idle]

theorem buildEach_cons (onDone : Build → Action Unit) (q : Program) (rest : List Program) :
    pl.buildEach tools onDone (q :: rest) = pl.build tools q >>= fun b => onDone b >>= fun _ =>
      pl.buildEach tools onDone rest >>= fun bs => pure (b :: bs) := rfl

theorem grounded_buildEach {onDone : Build → Action Unit} (hdone : ∀ b, Quiet (onDone b))
    (programs : List Program) : Grounded (pl.buildEach tools onDone programs) := by
  induction programs with
  | nil => exact .pure _
  | cons q rest ih =>
    rw [buildEach_cons]
    exact (pl.grounded_build q tools).bind fun b => (hdone b).grounded.bind fun _ =>
      ih.bind fun _ => .pure _

theorem grounded_buildAll (programs : List Program) : Grounded (pl.buildAll tools programs) :=
  pl.grounded_buildEach tools (fun _ => quiet_pure) programs

theorem deed_buildEach_cons {onDone : Build → Action Unit} (hdone : ∀ b, Quiet (onDone b))
    (q : Program) (rest : List Program) (w : World) :
    deed (pl.buildEach tools onDone (q :: rest)) w =
      let d := deed (pl.build tools q) w
      let d' := deed (pl.buildEach tools onDone rest) d.world
      ⟨d.result :: d'.result, d'.world, d.started ++ d'.started⟩ := by
  have hrest := pl.grounded_buildEach tools hdone rest
  have htail : ∀ b, Grounded (pl.buildEach tools onDone rest >>= fun bs => pure (b :: bs)) :=
    fun b => hrest.bind fun _ => .pure _
  rw [buildEach_cons, deed_bind fun b => (hdone b).grounded.bind fun _ => htail b, Deed.andThen,
    deed_quiet_bind (hdone _) (htail _), deed_bind fun _ => .pure _]
  simp [Deed.andThen, deed_pure, Deed.idle]

/-- Programs are built one after the other, each on the machine that the one
before it leaves. -/
theorem deed_buildAll_cons (q : Program) (rest : List Program) (w : World) :
    deed (pl.buildAll tools (q :: rest)) w =
      let d := deed (pl.build tools q) w
      let d' := deed (pl.buildAll tools rest) d.world
      ⟨d.result :: d'.result, d'.world, d.started ++ d'.started⟩ :=
  pl.deed_buildEach_cons tools (fun _ => quiet_pure) q rest w

/-- What is said about finished programs changes nothing. -/
theorem deed_buildEach {onDone : Build → Action Unit} (hdone : ∀ b, Quiet (onDone b))
    (programs : List Program) (w : World) :
    deed (pl.buildEach tools onDone programs) w = deed (pl.buildAll tools programs) w := by
  induction programs generalizing w with
  | nil => rfl
  | cons q rest ih =>
    rw [deed_buildEach_cons pl tools hdone, deed_buildAll_cons]
    simp only [ih]

/-! ### Workers -/

section
variable (workers : Workers) {onDone : Build → Action Unit} (programs : List Program)

/-- Build programs, if the workers can be started. -/
def buildIfStarted (onDone : Build → Action Unit) : Action (Except Error (List Build)) :=
  match workers.refusal? (pl.workerCount workers) with
  | some cause => pure (.error (.workers cause))
  | none => pl.buildEach tools onDone programs >>= fun builds => pure (.ok builds)

theorem buildByWorkers_eq (onDone : Build → Action Unit) :
    ∃ talk, Quiet talk ∧ pl.buildByWorkers tools workers onDone programs =
      talk >>= fun _ => pl.buildIfStarted tools workers programs onDone := by
  unfold buildByWorkers
  cases pl.plan.isCompileOnly with
  | true =>
    exact ⟨_, (quiet_noteEvent _ _ _).bind (f := fun _ => noteEvent _ _ _) (quiet_noteEvent _ _ _),
      rfl⟩
  | false => exact ⟨_, quiet_noteEvent _ _ _, rfl⟩

theorem grounded_buildIfStarted (hdone : ∀ b, Quiet (onDone b)) :
    Grounded (pl.buildIfStarted tools workers programs onDone) := by
  unfold buildIfStarted
  split
  · exact .pure _
  · exact (pl.grounded_buildEach tools hdone programs).bind fun _ => .pure _

theorem grounded_buildByWorkers (hdone : ∀ b, Quiet (onDone b)) :
    Grounded (pl.buildByWorkers tools workers onDone programs) := by
  obtain ⟨talk, hquiet, h⟩ := pl.buildByWorkers_eq tools workers programs onDone
  rw [h]
  exact hquiet.grounded.bind fun _ => pl.grounded_buildIfStarted tools workers programs hdone

/-- Workers that cannot be started build nothing; others build every program. -/
theorem deed_buildByWorkers (hdone : ∀ b, Quiet (onDone b)) (w : World) :
    deed (pl.buildByWorkers tools workers onDone programs) w =
      match workers.refusal? (pl.workerCount workers) with
      | some cause => .idle (.error (.workers cause)) w
      | none =>
        let d := deed (pl.buildAll tools programs) w
        ⟨.ok d.result, d.world, d.started⟩ := by
  obtain ⟨talk, hquiet, h⟩ := pl.buildByWorkers_eq tools workers programs onDone
  rw [h, deed_quiet_bind (f := fun _ => pl.buildIfStarted tools workers programs onDone) hquiet
    (pl.grounded_buildIfStarted tools workers programs hdone), buildIfStarted]
  cases workers.refusal? (pl.workerCount workers) with
  | some cause => rfl
  | none =>
    dsimp only
    rw [deed_bind fun _ => .pure _, pl.deed_buildEach tools hdone]
    simp [Deed.andThen, deed_pure, Deed.idle]

end

end

end Pipeline

end GuardCost
