/-
GuardCost/Proofs/BenchOrder.lean

The order of a run.  A run that is prepared, and not compile-only, starts

    commands of stages  >>  commands of trials  >>  questions about the system

where the trials are those of the programs of the registry in order, each on the
machine that the one before it has left (`Proofs/BenchTrials`).  Two things are
added here to what the trials say.  The lines above the progress bar are those
of the trials (`trialLines`): nothing else in the measuring is said there
(`Discreet`).  And publishing starts no more than the commands of a fixed list
(`Asks`).
-/
import GuardCost.Proofs.BenchTrials
import GuardCost.Proofs.CompileOnly

namespace GuardCost

open GuardCost.Action

variable {α β : Type}

/-! ### Lines above the progress bar -/

/-- The notices above a progress bar, oldest first. -/
def Session.above (s : Session) : List Notice := s.console.notices.filter (·.aboveBar)

namespace Action

/-- Nothing is said above a progress bar. -/
def Discreet (x : Action α) : Prop := ∀ s, (x.run s).2.above = s.above

theorem Discreet.pure (a : α) : Discreet (Pure.pure a : Action α) := fun _ => rfl

theorem Discreet.bind {x : Action α} {f : α → Action β} (hx : Discreet x)
    (hf : ∀ a, Discreet (f a)) : Discreet (x >>= f) :=
  fun s => (hf _ _).trans (hx s)

theorem Discreet.look {f : World → Action β} (hf : ∀ w, Discreet (f w)) :
    Discreet (get >>= fun s => f s.world) :=
  fun s => hf s.world s

theorem discreet_recordEvent (key : Metrics.Key) (event : Metrics.Event) :
    Discreet (recordEvent key event) := fun _ => rfl

theorem discreet_noteEvent (severity : Severity) (message : String)
    (more : List (String × String)) : Discreet (noteEvent severity message more) := by
  intro s
  show List.filter _ (s.console.report severity message more).notices = _
  unfold Console.report
  split
  · simp [Console.add, Session.above]
  · rfl

/-- A notice is said above a progress bar if it is meant for there. -/
theorem above_notify (n : Notice) (s : Session) :
    ((notify n).run s).2.above = s.above ++ [n].filter (·.aboveBar) :=
  List.filter_append ..

end Action

section
variable (tools : Tools)

theorem Command.discreet_run (c : Command) : Discreet (c.run tools) := by
  have hrun : ∃ more, c.run tools =
      noteEvent .detail c.text more >>= fun _ => c.launch tools >>= c.conclude := ⟨_, rfl⟩
  obtain ⟨more, hrun⟩ := hrun
  rw [hrun]
  refine (discreet_noteEvent _ _ _).bind fun _ => Discreet.bind (fun s => rfl) fun ending => ?_
  unfold conclude
  split
  · next e _ =>
    refine Discreet.bind ?_ fun _ => .pure _
    cases e with
    | spawn c cause => exact .pure _
    | exit c status stderr => exact discreet_noteEvent _ _ _
    | timedOut c limit => exact discreet_noteEvent _ _ _
  · exact .pure _

theorem discreet_timedRun (c : Command) : Discreet (timedRun tools c) := by
  refine (c.discreet_run tools).bind fun result => ?_
  cases result with
  | error cause => exact .pure _
  | ok output => exact (discreet_recordEvent _ _).bind fun _ => .pure _

theorem discreet_collect (c : Command) (n : Nat) : Discreet (collect (timedRun tools c) n) := by
  induction n with
  | zero => exact .pure _
  | succ n ih =>
    rw [collect_succ]
    refine (discreet_timedRun tools c).bind fun result => ?_
    cases result with
    | error e => exact .pure _
    | ok x => exact ih.bind fun _ => .pure _

theorem discreet_measure (path : Path) (arguments : List String) (dir : Path) (policy : Policy) :
    Discreet (measure tools path arguments dir policy) := by
  refine Discreet.look (f := fun w =>
    if w.files.isFile w.current path then
      measureWith policy.repetitions policy.reduction
        (timedRun tools (benchCommand path arguments dir policy))
    else pure (.error (.missing path))) fun w => ?_
  split
  · refine (discreet_collect tools _ _).bind fun samples => ?_
    cases samples <;> exact .pure _
  · exact .pure _

theorem discreet_noteAttempt (p : Program) (c : Column) (result : Except MeasureError Float) :
    Discreet (noteAttempt p c result) := by
  cases result with
  | ok seconds => exact discreet_recordEvent _ _
  | error e => exact discreet_noteEvent _ _ _

theorem discreet_addTimings (r : Report) (t : Timings) : Discreet (r.addTimings t) := by
  have hcells : ∀ program cells, Discreet (recordCells program cells) := by
    intro program cells
    induction cells with
    | nil => exact .pure _
    | cons cell rest ih =>
      obtain ⟨- | v, - | ratio⟩ := cell
      · exact ih
      · exact ih
      · exact ih
      · exact (discreet_recordEvent _ _).bind fun _ => ih
  exact (hcells _ _).bind fun _ => .pure _

end

/-! ### The lines of trials -/

/-- The line of a trial: its column, and its time next to the native one, if there is
one, or why there is no time. -/
def Trial.line (native? : Option Float) (t : Trial) : Notice where
  mark := .detail
  text :=
    "  " ++ Table.left 28 t.column.label ++ " "
      ++ match t.deed.result with
        | .ok seconds => sampleText seconds native?
        | .error e => "failed: " ++ e.message
  aboveBar := true

/-- The lines of the trials of a program: the first one is compared with nothing, and
the others with its time. -/
def trialLines : List Trial → List Notice
  | [] => []
  | first :: rest => first.line none :: rest.map (·.line first.deed.result.toOption)

/-- The lines of trials after some attempts. -/
def linesAfter (seen : Attempts) : List Trial → List Notice
  | [] => []
  | t :: rest => t.line (Cli.nativeTime? seen) :: linesAfter (seen ++ [t.attempt]) rest

theorem nativeTime?_concat {seen : Attempts} {c : Column} (hc : c ≠ .native)
    (result : Except MeasureError Float) :
    Cli.nativeTime? (seen ++ [(c, result)]) = Cli.nativeTime? seen := by
  rw [Cli.nativeTime?, List.foldl_append]
  cases c with
  | native => exact absurd rfl hc
  | variant v => rfl

theorem linesAfter_of_variants {seen : Attempts} {ts : List Trial}
    (h : ∀ t ∈ ts, t.column ≠ .native) :
    linesAfter seen ts = ts.map (·.line (Cli.nativeTime? seen)) := by
  induction ts generalizing seen with
  | nil => rfl
  | cons t rest ih =>
    obtain ⟨ht, hrest⟩ := List.forall_mem_cons.1 h
    rw [linesAfter, List.map_cons, ih hrest, Trial.attempt, nativeTime?_concat ht]

/-- Of the trials of a program only the first one is native. -/
theorem Benched.linesAfter_eq {tools : Tools} {variants : List Variant} {policy : Policy}
    {p : Program} {b : Build} {ts : List Trial} (h : Benched tools variants policy p b ts) :
    linesAfter [] ts = trialLines ts := by
  cases hb : b.executable? .native with
  | none =>
    rw [h.skipped hb]
    rfl
  | some a =>
    obtain ⟨first, rest, rfl, hfirst, hfailed, hmeasured⟩ := h.native_first a hb
    have hcolumn : first.column = .native := congrArg Prod.fst hfirst
    have hnative : Cli.nativeTime? [first.attempt] = first.deed.result.toOption := by
      rw [Trial.attempt, hcolumn]
      cases first.deed.result <;> rfl
    have hrest : ∀ t ∈ rest, t.column ≠ .native := by
      cases hresult : first.deed.result with
      | error e =>
        rw [hfailed e hresult]
        exact fun t ht => absurd ht List.not_mem_nil
      | ok seconds =>
        intro t ht
        refine variantTargets_ne_native b variants t.target ?_
        rw [variantTargets, ← hmeasured seconds hresult]
        exact List.mem_map_of_mem ht
    show first.line none :: linesAfter [first.attempt] rest = _
    rw [linesAfter_of_variants hrest, hnative]
    rfl

section
variable (tools : Tools) (p : Program) (policy : Policy)

theorem above_announce (seen : Attempts) (t : Trial) (s : Session) :
    ((Cli.announce seen t.column t.deed.result).run s).2.above =
      s.above ++ [t.line (Cli.nativeTime? seen)] :=
  above_notify (t.line (Cli.nativeTime? seen)) s

/-- Each trial is told of above the bar as it is over. -/
theorem above_benchEach (dir : Path) (seen : Attempts) (targets : List (Column × Path))
    (s : Session) :
    ((benchEach tools p dir policy Cli.announce seen targets).run s).2.above =
      s.above ++ linesAfter seen (trialsOf tools p dir policy targets s.world) := by
  induction targets generalizing seen s with
  | nil => exact (List.append_nil _).symm
  | cons target rest ih =>
    obtain ⟨c, path⟩ := target
    have hg := grounded_measure tools dir policy path p.arguments
    let t : Trial := ⟨c, path, s.world, deed (measure tools path p.arguments dir policy) s.world⟩
    let s₁ := ((measure tools path p.arguments dir policy).run s).2
    let s₂ := ((Cli.announce seen c t.deed.result).run s₁).2
    let s₃ := ((noteAttempt p c t.deed.result).run s₂).2
    have hresult : ((measure tools path p.arguments dir policy).run s).1 = t.deed.result :=
      hg.result s
    have hworld : s₃.world = t.deed.world :=
      ((quiet_noteAttempt p c _ s₂).1.trans (Cli.quiet_announce seen c _ s₁).1).trans (hg.world s)
    have habove : s₃.above = s.above ++ [t.line (Cli.nativeTime? seen)] := by
      have hmeasure : s₁.above = s.above := discreet_measure tools path p.arguments dir policy s
      rw [discreet_noteAttempt p c t.deed.result s₂, above_announce seen t s₁, hmeasure]
    rw [benchEach_cons, run_bind, hresult, benchNext, run_bind, run_bind, trialsOf]
    show ((if endsBench c t.deed.result then pure [(c, t.deed.result)]
      else _ : Action Attempts).run s₃).2.above = _
    split
    · show s₃.above = _
      rw [habove]
      rfl
    · rw [run_bind]
      refine (ih (seen ++ [t.attempt]) s₃).trans ?_
      rw [habove, hworld, List.append_assoc]
      rfl

theorem above_benchProgram (b : Build) (variants : List Variant) (s : Session) :
    ((benchProgram tools p b variants policy Cli.announce).run s).2.above =
      s.above ++ trialLines (programTrials tools variants policy p b s.world) := by
  obtain ⟨outer, inner, -, hrun⟩ := run_within "bench" p.name
    (benchEach tools p b.dir policy Cli.announce [] (benchTargets b variants)) s
  rw [benchProgram, hrun, ← (benched_programTrials tools variants policy p b s.world).linesAfter_eq]
  exact above_benchEach tools p policy b.dir [] _ _

/-- The lines above the bar are those of the trials, in order. -/
theorem above_benchAll (plan : Plan) (report : Report) (pairs : List (Program × Build))
    (s : Session) :
    ((Cli.benchAll tools plan policy report pairs).run s).2.above =
      s.above ++ (suiteTrials tools plan policy pairs s.world).flatMap trialLines := by
  induction pairs generalizing report s with
  | nil => exact (List.append_nil _).symm
  | cons pair rest ih =>
    obtain ⟨p, b⟩ := pair
    have hg := grounded_benchProgram tools p b plan.variants policy Cli.quiet_announce
    let d := deed (benchProgram tools p b plan.variants policy Cli.announce) s.world
    let s₁ := ((benchProgram tools p b plan.variants policy Cli.announce).run s).2
    let timings := timingsOf p.name
      ((benchProgram tools p b plan.variants policy Cli.announce).run s).1
    let s₂ := ((notify (Cli.programNotice timings)).run s₁).2
    let added := (report.addTimings timings).run s₂
    -- nothing but the measuring changes the machine
    have hworld : added.2.world = d.world := by
      have hnotice : s₂.world = s₁.world := (quiet_notify _ s₁).1
      rw [(grounded_addTimings report _).world s₂, deed_addTimings]
      exact hnotice.trans (hg.world s)
    have habove : added.2.above =
        s.above ++ trialLines (programTrials tools plan.variants policy p b s.world) := by
      have hquiet : (Cli.programNotice timings).aboveBar = false := by
        unfold Cli.programNotice
        split <;> rfl
      rw [discreet_addTimings report _ s₂, above_notify, List.filter_cons_of_neg (by simp [hquiet]),
        List.filter_nil, List.append_nil]
      exact above_benchProgram tools p policy b plan.variants s
    show ((Cli.benchAll tools plan policy added.1 rest).run added.2).2.above = _
    rw [ih, habove, hworld, List.append_assoc]
    rfl

end

/-! ### Questions about the system -/

/-- An action that starts nothing but commands of a list. -/
structure Action.Asks (commands : List Command) (x : Action α) : Prop where
  grounded : Grounded x
  mem : ∀ w, ∀ c ∈ (deed x w).started, c ∈ commands

namespace Action.Asks

variable {commands : List Command}

theorem pure (a : α) : Asks commands (Pure.pure a : Action α) :=
  ⟨.pure a, fun _ _ hc => absurd hc List.not_mem_nil⟩

theorem of_quiet {x : Action Unit} (hx : Quiet x) : Asks commands x := by
  refine ⟨hx.grounded, fun w c hc => ?_⟩
  rw [hx.deed] at hc
  exact absurd hc List.not_mem_nil

theorem bind {x : Action α} {f : α → Action β} (hx : Asks commands x)
    (hf : ∀ a, Asks commands (f a)) : Asks commands (x >>= f) := by
  refine ⟨hx.grounded.bind fun a => (hf a).grounded, fun w c hc => ?_⟩
  rw [deed_bind fun a => (hf a).grounded] at hc
  rcases List.mem_append.1 hc with hc | hc
  · exact hx.mem w c hc
  · exact (hf _).mem _ c hc

theorem look {f : World → Action β} (hf : ∀ w, Asks commands (f w)) :
    Asks commands (get >>= fun s => f s.world) :=
  ⟨.look fun w => (hf w).grounded, fun w => (hf w).mem w⟩

theorem run (tools : Tools) {c : Command} (hc : c ∈ commands) : Asks commands (c.run tools) := by
  refine ⟨c.grounded_run tools, fun w c' hc' => ?_⟩
  rw [Command.deed_run] at hc'
  rwa [List.mem_singleton.1 hc']

theorem changeFiles (change : World → Except SystemError FileSystem) :
    Asks commands (changeFiles change) := by
  refine ⟨grounded_changeFiles change, fun w c hc => ?_⟩
  rw [deed_changeFiles] at hc
  split at hc <;> exact absurd hc List.not_mem_nil

/-- Writing a text on a machine. -/
def writeOn (path : Path) (text : String) (w : World) : Action (Except SystemError Unit) :=
  match w.files.find w.current path with
  | .ok (_, .device (.descriptor 1)) => return .ok (← print text)
  | .ok (_, .device (.descriptor 2)) => return .ok (← notify { mark := .verbatim, text })
  | _ => GuardCost.changeFiles fun w =>
    w.files.write w.current w.now path (Bytes.ofString text)

theorem writeText (path : Path) (text : String) : Asks commands (writeText path text) := by
  refine look (f := writeOn path text) fun w => ?_
  unfold writeOn
  split
  · exact (of_quiet (quiet_print _)).bind fun _ => pure _
  · exact (of_quiet (quiet_notify _)).bind fun _ => pure _
  · exact changeFiles _

end Action.Asks

/-- A command that words amount to. -/
def Command.ofWords (program : String) (arguments : List String) : Command where
  program := Bytes.ofString program
  arguments := arguments.map Bytes.ofString

/-- What is asked about the system. -/
def systemQueries (cc : String) : List Command :=
  [.ofWords "uname" ["-m"], .ofWords "sysctl" ["-n", "machdep.cpu.brand_string"],
    .ofWords "sysctl" ["-n", "hw.model"], .ofWords cc ["--version"],
    .ofWords "date" ["+%Y-%m-%d %H:%M:%S"]]

section
variable (tools : Tools)

theorem asks_firstLineOf {commands : List Command} {program : String} {arguments : List String}
    (h : .ofWords program arguments ∈ commands) :
    Asks commands (firstLineOf? tools (program :: arguments)) := by
  refine (Asks.run tools h).bind fun result => ?_
  cases result <;> exact .pure _

/-- The processor, asked for unless it is known. -/
def askProcessor : Option String → Action (Option String)
  | some model => return some model
  | none => do
    match ← firstLineOf? tools ["sysctl", "-n", "machdep.cpu.brand_string"] with
    | some model => return some model
    | none => firstLineOf? tools ["sysctl", "-n", "hw.model"]

theorem asks_askProcessor (cc : String) (known? : Option String) :
    Asks (systemQueries cc) (askProcessor tools known?) := by
  cases known? with
  | some model => exact .pure _
  | none =>
    refine (asks_firstLineOf tools (by simp [systemQueries])).bind fun model? => ?_
    cases model? with
    | some model => exact .pure _
    | none => exact asks_firstLineOf tools (by simp [systemQueries])

theorem asks_systemFacts (cc : String) : Asks (systemQueries cc) (systemFacts tools cc) := by
  refine (asks_firstLineOf tools (by simp [systemQueries])).bind fun arch => ?_
  refine Asks.bind ?_ fun model? => Asks.bind ?_ fun compiler? => ?_
  · exact Asks.look (f := fun w =>
      askProcessor tools ((systemFile? w "/proc/cpuinfo").bind processorModel?)) fun w =>
        asks_askProcessor tools cc _
  · refine (Asks.run tools (c := .ofWords cc ["--version"]) (by simp [systemQueries])).bind
      fun result => ?_
    cases result <;> exact .pure _
  · let facts (os? date? : Option String) : List (String × String) :=
      let fact := fun (name : String) (value? : Option String) =>
        (value?.map fun v => (name, v)).toList
      ("Architecture", arch.getD Host.nativeArch) :: fact "CPU" model? ++ fact "Compiler" compiler?
        ++ fact "OS" os? ++ fact "Date" date?
    exact Asks.look (f := fun w => firstLineOf? tools ["date", "+%Y-%m-%d %H:%M:%S"] >>= fun date? =>
        pure (facts ((systemFile? w "/etc/os-release").bind systemName?) date?)) fun w =>
      (asks_firstLineOf tools (by simp [systemQueries])).bind fun _ => .pure _

end

/-! ### Where executables stand -/

namespace Pipeline

variable (pl : Pipeline) (p : Program)

theorem dir_build (tools : Tools) (w : World) :
    (deed (pl.build tools p) w).result.dir = pl.dir p := by
  rw [deed_build, Deed.andThen]
  cases (deed (pl.prepare p) w).result with
  | error e => rw [deed_buildStages_error]; rfl
  | ok sources =>
    rw [deed_buildStages_ok, Deed.andThen]
    obtain ⟨made, - | e⟩ := (deed (runFront tools p.name (pl.steps p sources pl.frontStages))
      (deed (pl.prepare p) w).world).result
    · rw [deed_buildVariants_none]; rfl
    · rfl

variable {pl p}

/-- There is an executable just if its stage has made an artifact, and it stands where
the stage puts it. -/
theorem executable?_build_eq_some_iff (tools : Tools) {h : Host} (hplan : pl.plan = .ofHost h)
    {w : World} {c : Column} {a : Artifact} :
    (deed (pl.build tools p) w).result.executable? c = some a ↔
      c.stage ∈ (deed (pl.build tools p) w).result.artifacts.map (·.stage) ∧
        a = ⟨p.name, c.stage, pl.outputPath p c.stage⟩ := by
  -- in either shape of a build its artifacts are those of a list of stages
  have hstages : ∃ stages : List Stage,
      (deed (pl.build tools p) w).result.artifacts = stages.map (pl.artifact p) := by
    rcases shape_of_build tools hplan w with ⟨stage, hbroken⟩ | hcomplete
    · obtain ⟨before, after, sources, e, -, hartifacts, -⟩ := hbroken
      exact ⟨_, hartifacts⟩
    · obtain ⟨failing, hartifacts, -⟩ := hcomplete
      exact ⟨_, hartifacts⟩
  obtain ⟨stages, hstages⟩ := hstages
  rw [Build.executable?_eq, hstages, map_stage_artifact]
  constructor
  · intro ha
    obtain ⟨stage, hmem, rfl⟩ := List.mem_map.1 (List.mem_of_find?_eq_some ha)
    obtain rfl : stage = c.stage := by simpa [artifact] using List.find?_some ha
    exact ⟨hmem, rfl⟩
  · rintro ⟨hmem, rfl⟩
    cases hfind : (stages.map (pl.artifact p)).find? fun a => a.stage == c.stage with
    | none =>
      exact absurd (List.find?_eq_none.1 hfind _ (List.mem_map_of_mem hmem)) (by simp [artifact])
    | some a =>
      obtain ⟨stage, -, rfl⟩ := List.mem_map.1 (List.mem_of_find?_eq_some hfind)
      obtain rfl : stage = c.stage := by simpa [artifact] using List.find?_some hfind
      rfl

/-- The builds of a suite are those of its programs, in order. -/
theorem forall₂_buildAll (pl : Pipeline) (tools : Tools) (programs : List Program) (w : World) :
    List.Forall₂ (fun p b => ∃ w, b = (deed (pl.build tools p) w).result) programs
      (deed (pl.buildAll tools programs) w).result := by
  induction programs generalizing w with
  | nil => exact .nil
  | cons q rest ih =>
    rw [deed_buildAll_cons]
    exact .cons ⟨w, rfl⟩ (ih _)

end Pipeline

namespace Cli

/-- What is asked about the system at the end of a run: nothing, unless a
markdown report is wanted. -/
def BenchOptions.queries (bench : BenchOptions) (cc : String) : List Command :=
  if bench.markdown?.isSome then systemQueries cc else []

theorem asks_publish (tools : Tools) (setup : Setup) (bench : BenchOptions) (report : Report) :
    Asks (bench.queries setup.pipeline.toolchain.cc) (publish tools setup bench report) := by
  have hsay : ∀ {commands mark text}, Asks commands (say mark text) := fun {_ _ _} =>
    .of_quiet (quiet_notify _)
  have hwrite : ∀ policy, Asks (bench.queries setup.pipeline.toolchain.cc)
      (writeReports tools setup.pipeline bench policy report) := by
    intro policy
    refine (Asks.writeText _ _).bind fun answer => ?_
    cases answer with
    | error cause => exact hsay.bind fun _ => .pure _
    | ok u =>
      refine hsay.bind fun _ => hsay.bind fun _ => ?_
      unfold BenchOptions.queries
      cases bench.markdown? with
      | none => exact .pure _
      | some path =>
        refine (asks_systemFacts tools _).bind fun facts => ?_
        cases report.markdown? policy facts with
        | none => exact .pure _
        | some text =>
          refine (Asks.writeText _ _).bind fun answer => ?_
          cases answer with
          | error cause => exact hsay.bind fun _ => .pure _
          | ok u => exact hsay.bind fun _ => .pure _
  refine (hwrite _).bind fun written => ?_
  cases written with
  | error code => exact .pure _
  | ok u =>
    refine (Asks.of_quiet (quiet_print _)).bind fun _ => ?_
    cases report.table.layOut? with
    | none => exact .pure _
    | some text =>
      refine (Asks.of_quiet (quiet_print _)).bind fun _ => ?_
      show Asks _ (if _ then _ else _)
      split
      · exact hsay.bind fun _ => .pure _
      · exact .pure _

/-- The order of a run, from the machine where it begins to those where the
suite is built, where it is measured, and where the run ends. -/
structure InOrder (tools : Tools) (setup : Setup) (bench : BenchOptions)
    (begun built measured ended : Session) (builds : List Build) (report : Report)
    (trials : List (List Trial)) : Prop where
  /-- The builds are those of the programs of the registry. -/
  programs : builds.map (·.program) = setup.registry.names
  /-- What the builds start are commands of stages. -/
  build_commands : ∃ launched, built.started = begun.started ++ launched ∧
    ∀ c ∈ launched, ∃ p ∈ setup.registry.programs, ∃ sources,
      ∃ stage ∈ setup.pipeline.frontStages ++ setup.pipeline.variantStages,
        c = (setup.pipeline.step p sources stage).command
  /-- A program is measured in its directory.  It has an executable in a column just
  if the stage of the column has made an artifact, and this is the output of the stage. -/
  places : ∀ pair ∈ setup.registry.programs.zip builds,
    pair.2.dir = setup.pipeline.layout.benchRoot.child pair.1.name ∧
      ∀ c a, pair.2.executable? c = some a ↔ c.stage ∈ pair.2.artifacts.map (·.stage) ∧
        a = ⟨pair.1.name, c.stage, setup.pipeline.outputPath pair.1 c.stage⟩
  /-- Each program has its trials, with the variants in the order of the table. -/
  benched : List.Forall₂ (fun pair ts => Benched tools setup.pipeline.plan.variants
      { repetitions := bench.runs
        reduction := bench.reduction
        limit? := setup.pipeline.toolchain.limit? } pair.1 pair.2 ts)
    (setup.registry.programs.zip builds) trials
  table_order : setup.pipeline.plan.variants.Sublist Variant.all
  /-- The first trial begins when the last build is over, and so on. -/
  linked : Linked built.world trials.flatten measured.world
  /-- The measuring starts what the trials start. -/
  bench_commands : measured.started = built.started ++ trials.flatten.flatMap (·.deed.started)
  /-- After that nothing is started but to ask about the system. -/
  questions : ∃ asked, ended.started = measured.started ++ asked ∧
    ∀ c ∈ asked, c ∈ bench.queries setup.pipeline.toolchain.cc
  /-- Every trial is observed once, in order. -/
  observed : measured.above = built.above ++ trials.flatMap trialLines
  /-- The report is made of the timings of the programs, which account for
  every attempt. -/
  reported : report = (List.zipWith (fun pair ts => timingsOf pair.1.name (ts.map Trial.attempt))
    (setup.registry.programs.zip builds) trials).foldl Report.add
      { columns := setup.pipeline.plan.columns }
  accounts : List.Forall₂ (fun pair ts => (timingsOf pair.1.name (ts.map Trial.attempt)).Accounts
      pair.1.name (ts.map Trial.attempt))
    (setup.registry.programs.zip builds) trials

/-- **A suite is measured in order, after it is built.**  For any registry, any
options and any tools, a run that is prepared, is not compile-only, and gets its
workers, first builds, and then measures the native executable of each program in the
order of the registry, and after it the variants that were built in the order of the
table, if the native time was accepted.  An executable is run as often as asked for,
up to the first failure, and not at all if it is missing.  Every attempt is observed
once and ends up among the samples or among the failures.  Without workers nothing is
built or measured. -/
theorem suite_measured_in_order (tools : Tools) (workers : Workers) {suite : SuiteOptions}
    {host : HostOptions} {options : ToolOptions} (bench : BenchOptions) {setup : Setup}
    (s : Session) (hprep : prepare s.world suite host options = .ok setup)
    (hfull : setup.pipeline.plan.isCompileOnly = false) :
    let out := (runSuite tools workers suite host options bench).run s
    match workers.refusal? (setup.pipeline.workerCount workers) with
    | some _ => out.1 = 1 ∧ out.2.world = s.world ∧ out.2.started = s.started
    | none => ∃ builds built, (buildSetup tools workers setup).run s = (.ok builds, built) ∧
        let measured := (reportOf tools setup builds bench).run built
        out = (publish tools setup bench measured.1).run measured.2 ∧
          ∃ trials, InOrder tools setup bench s built measured.2 out.2 builds measured.1 trials := by
  intro out
  have hrun : out = (buildThen tools workers (benchBuilt tools bench) setup).run s :=
    run_runSuite_of_prepare bench hprep
  cases hworkers : workers.refusal? (setup.pipeline.workerCount workers) with
  | some cause => exact hrun ▸ run_buildThen_of_refused _ hworkers s
  | none =>
    -- to the machine, building the setup is building its suite, and measuring is its trials
    let pl := setup.pipeline
    let policy := bench.policy pl.toolchain.limit?
    let d := deed (pl.buildAll tools setup.registry.programs) s.world
    obtain ⟨built, hbuilt, -, hstarted, hgo⟩ :=
      run_buildThen_of_started tools (benchBuilt tools bench) hworkers s
    refine ⟨d.result, built, hbuilt, ?_⟩
    intro measured
    have hout : out = (publish tools setup bench measured.1).run measured.2 := by
      rw [hrun, hgo, benchBuilt_eq tools bench hfull, run_bind]
    refine ⟨hout, ?_⟩
    let pairs := setup.registry.programs.zip d.result
    have hplan : pl.plan = .ofHost setup.host := plan_of_prepare hprep
    have hnd : pl.plan.variants.Nodup := hplan ▸ Plan.nodup_variants_ofHost setup.host
    have hg := grounded_benchAll tools pl.plan policy { columns := pl.plan.columns } pairs
    obtain ⟨hlinked, hlaunched, hreport⟩ :=
      deed_benchAll tools pl.plan policy { columns := pl.plan.columns } pairs built.world
    have hasks := asks_publish tools setup bench measured.1
    refine ⟨suiteTrials tools pl.plan policy pairs built.world, ?_⟩
    exact
      { programs := pl.programs_buildAll tools setup.registry.programs s.world
        build_commands := by
          refine ⟨d.started, hstarted, fun c hc => ?_⟩
          obtain ⟨step, ⟨p, hp, sources, stage, hstage, rfl⟩, rfl⟩ :=
            Work.command (Pipeline.work_buildAll tools s.world) c hc
          exact ⟨p, hp, sources, stage, hstage, rfl⟩
        places := by
          rintro ⟨p, b⟩ hpair
          obtain ⟨w, rfl⟩ := (List.forall₂_iff_zip.1
            (pl.forall₂_buildAll tools setup.registry.programs s.world)).2 hpair
          exact ⟨pl.dir_build p tools w, fun c a =>
            Pipeline.executable?_build_eq_some_iff tools hplan⟩
        benched := benched_suiteTrials tools pl.plan policy pairs built.world
        table_order := by
          rw [show setup.pipeline.plan = _ from hplan, Plan.ofHost]
          split
          · exact List.filter_sublist
          · exact List.nil_sublist _
        linked := by
          rw [show measured.2.world = _ from hg.world built]
          exact hlinked
        bench_commands := by
          rw [show measured.2.started = _ from hg.started built, hlaunched]
        questions := by
          refine ⟨_, ?_, hasks.mem measured.2.world⟩
          rw [hout]
          exact hasks.grounded.started measured.2
        observed := above_benchAll tools policy pl.plan _ pairs built
        reported := (hg.result built).trans hreport
        accounts := accounts_suiteTrials tools pl.plan policy hnd pairs built.world }

namespace Sample
open GuardCost.Sample

theorem prepare_here : prepare equipped ⟨none, []⟩ hostHere toolOptions = .ok (setup hostHere) := by
  have hpipeline : Pipeline.validate ⟨layout, toolchain none, ⟨.full,
      [.noProtectionUnsafe, .noProtection, .boundsChecked, .mpx, .virtualMemory, .cortexM]⟩, 0⟩
        equipped = .ok () := by
    cbv
  have hplan : Plan.ofHost hostHere.host = ⟨.full,
      [.noProtectionUnsafe, .noProtection, .boundsChecked, .mpx, .virtualMemory, .cortexM]⟩ := by
    decide
  rw [← hplan] at hpipeline
  exact prepare_equipped (by decide) hpipeline

/-- The standard suite, measured three times on the machine of the sample. -/
theorem standard_suite_in_order :
    let bench : BenchOptions := ⟨3, .median, none, none⟩
    let out := (runSuite tools (.unlimited 1) ⟨none, []⟩ hostHere toolOptions bench).run
      (.ofWorld equipped)
    ∃ builds built, (buildSetup tools (.unlimited 1) (setup hostHere)).run (.ofWorld equipped) =
        (.ok builds, built) ∧
      let measured := (reportOf tools (setup hostHere) builds bench).run built
      out = (publish tools (setup hostHere) bench measured.1).run measured.2 ∧
        ∃ trials, InOrder tools (setup hostHere) bench (.ofWorld equipped) built measured.2 out.2
          builds measured.1 trials :=
  suite_measured_in_order tools (.unlimited 1) ⟨3, .median, none, none⟩ (.ofWorld equipped)
    prepare_here (by decide)

end Sample

end Cli

end GuardCost
