/-
GuardCost/Proofs/RunOutcome.lean

How a run ends.  A program has a *baseline* if its native executable was built and
its measurement succeeds when its turn comes.  The cells of a row are all empty
without one, so that a report counts the baselines (`measuredCount_benchAll`).

After the measuring the two reports are written, the CSV first and the markdown
only after it, and the ratio table is shown.  Followed on machines (`outcome`), a run
of a suite is

    builds  >>  report  >>  csv  >>  markdown, if asked for  >>  table

and its exit code looks at no more than what comes of the two files, the names that
the table is to hold, and whether there is a baseline
(`run_ends_by_reports_and_baselines`).  So a run with a baseline whose reports are
written can still be broken off (`wide_name_breaks_off`).
-/
import GuardCost.Proofs.ArtifactFiles
import GuardCost.Proofs.BenchOrder
import GuardCost.Proofs.Listings
import GuardCost.Proofs.RatioWidths

namespace GuardCost

open GuardCost.Action

/-! ### Baselines -/

section
variable (tools : Tools) (plan : Plan) (policy : Policy) (p : Program) (b : Build) (w : World)

/-- Whether the native executable of a program was built and is measured. -/
def hasBaseline : Bool :=
  match b.artifacts.find? fun a => a.stage == .native with
  | some a => (deed (measure tools a.path p.arguments b.dir policy) w).result.toOption.isSome
  | none => false

/-- The native turn comes first. -/
theorem isSome_columnTime?_native (variants : List Variant) :
    (columnTime? tools p b variants policy w .native).isSome = hasBaseline tools policy p b w := by
  unfold columnTime? hasBaseline
  cases hb : b.artifacts.find? fun a => a.stage == .native with
  | none =>
    rw [show b.artifacts.find? (fun a => a.stage == Column.native.stage) = none from hb]
    rfl
  | some a =>
    rw [show b.artifacts.find? (fun a => a.stage == Column.native.stage) = some a from hb,
      Option.bind_some, turn_native tools p b variants policy hb]

/-- A row has a cell if and only if its program has a baseline. -/
theorem isMeasured_measuredRow :
    (Cli.measuredRow tools plan policy p b w).isMeasured = hasBaseline tools policy p b w := by
  rw [← isSome_columnTime?_native tools policy p b w plan.variants]
  unfold Cli.measuredRow Row.isMeasured Plan.columns
  cases hn : columnTime? tools p b plan.variants policy w .native with
  | none =>
    simp [cellOf_eq_none hn]
  | some native => simp [cellOf, hn]

end

namespace Cli

section
variable (tools : Tools) (plan : Plan) (policy : Policy)

/-- Which of the built programs have a baseline, each on the machine on which its
turn comes. -/
def baselines (pairs : List (Program × Build)) (w : World) : List Bool :=
  pairs.mapIdx fun i pair =>
    hasBaseline tools policy pair.1 pair.2 (benchWorld tools plan policy pairs i w)

/-- **A report counts the baselines.** -/
theorem measuredCount_benchAll (hnd : plan.variants.Nodup) (pairs : List (Program × Build))
    (w : World) :
    (deed (benchAll tools plan policy ⟨plan.columns, []⟩ pairs) w).result.measuredCount =
      (baselines tools plan policy pairs w).count true := by
  rw [report_benchAll tools plan policy hnd pairs [] w]
  have hrows : ∀ rows : List Row,
      (rows.filter (·.isMeasured)).length = (rows.map (·.isMeasured)).count true := by
    intro rows
    rw [List.count, List.countP_map, List.countP_eq_length_filter]
    congr 2
    funext row
    simp
  rw [Report.measuredCount, hrows, List.nil_append]
  refine congrArg (List.count true) (List.ext_getElem? fun i => ?_)
  simp [baselines, isMeasured_measuredRow, Function.comp_def]

end

end Cli

/-- Measuring leaves a machine as it is, if no command changes it. -/
theorem Cli.world_reportOf {tools : Tools} {w : World} (hfixed : ∀ c, (tools c w).2 = w)
    (setup : Setup) (builds : List Build) (bench : BenchOptions) :
    (deed (Cli.reportOf tools setup builds bench) w).world = w :=
  world_benchAll hfixed _ _ _ _

/-! ### Writing a text -/

/-- A path has been given a text: it leads to a device, or to a file that holds the
text. -/
inductive Holds (w : World) (path : Path) (text : String) (w' : World) : Prop
  | device {loc : Location} {d : Device} : w.files.find w.current path = .ok (loc, .device d) →
      Holds w path text w'
  | file {loc : Location} {rights : Rights} :
      w.files.locateForWriting w.current path = .ok loc →
      w'.files.lookup? loc = some (.file (Bytes.ofString text) rights w.now) →
        Holds w path text w'

namespace FileSystem

variable {fs : FileSystem} {current : Location} {path : Path} {loc : Location}

theorem lookup?_insert_self (hloc : loc ≠ []) (node : Node) :
    (fs.insert loc node).lookup? loc = some node := by
  rw [lookup?, if_neg hloc, insert, List.lookup_cons_self]

/-- A place to write to is the place that the path leads to. -/
theorem locate_of_locateForWriting (h : fs.locateForWriting current path = .ok loc) :
    fs.locate current path true = .ok loc := by
  unfold locateForWriting at h
  dsimp only at h
  split at h
  · obtain ⟨_, -, h⟩ := bind_eq_ok_iff.1 h
    cases h
  · exact h

theorem find_of_locate {node : Node} (h : fs.locate current path true = .ok loc)
    (hnode : fs.lookup? loc = some node) : fs.find current path = .ok (loc, node) := by
  simp only [find, h, bind, Except.bind, hnode]

end FileSystem

open FileSystem in
/-- What is written is there. -/
theorem holds_of_write {w : World} {path : Path} {text : String} {files : FileSystem}
    (h : w.files.write w.current w.now path (Bytes.ofString text) = .ok files) :
    Holds w path text { w with files } := by
  obtain ⟨loc, hloc, h⟩ := bind_eq_ok_iff.1 h
  -- only the root is at the empty location, and it is a directory
  have hne : ∀ {node : Option Node}, w.files.lookup? loc = node →
      (∀ time, node ≠ some (.directory time)) → loc ≠ [] := by
    rintro node hnode hdir rfl
    exact hdir 0 hnode.symm
  cases hnode : w.files.lookup? loc with
  | none =>
    rw [hnode] at h
    cases h
    exact .file hloc (lookup?_insert_self (hne hnode (by simp)) _)
  | some node =>
    rw [hnode] at h
    cases node with
    | directory time => cases h
    | file content rights time =>
      cases h
      exact .file hloc (lookup?_insert_self (hne hnode (by simp)) _)
    | link target =>
      cases h
      exact .file hloc (lookup?_insert_self (hne hnode (by simp)) _)
    | device d => exact .device (find_of_locate (locate_of_locateForWriting hloc) hnode)

theorem holds_of_writeText {w : World} {path : Path} {text : String}
    (h : (deed (writeText path text) w).result = .ok ()) :
    Holds w path text (deed (writeText path text) w).world := by
  have hlook : deed (writeText path text) w = deed (Action.Asks.writeOn path text w) w := rfl
  rw [hlook] at h ⊢
  revert h
  unfold Action.Asks.writeOn
  split
  · next hfind => exact fun _ => .device hfind
  · next hfind => exact fun _ => .device hfind
  · rw [deed_changeFiles]
    intro h
    cases hwrite : w.files.write w.current w.now path (Bytes.ofString text) with
    | error cause =>
      rw [hwrite] at h
      cases h
    | ok files => exact holds_of_write hwrite

/-- A new file can be written. -/
theorem result_writeText_new {w : World} {path : Path} {cause : SystemError} {loc : Location}
    (hfind : w.files.find w.current path = .error cause)
    (hloc : w.files.locateForWriting w.current path = .ok loc)
    (hnone : w.files.lookup? loc = none) (text : String) :
    (deed (writeText path text) w).result = .ok () := by
  obtain ⟨files, hwrite⟩ : ∃ files, w.files.write w.current w.now path (Bytes.ofString text) =
      .ok files := by
    rw [FileSystem.write, FileSystem.writeAs, hloc]
    simp only [bind, Except.bind, hnone]
    exact ⟨_, rfl⟩
  have hlook : deed (writeText path text) w = deed (Action.Asks.writeOn path text w) w := rfl
  rw [hlook, Action.Asks.writeOn, hfind]
  dsimp only
  rw [deed_changeFiles, hwrite]
  rfl

/-! ### Reports -/

namespace Cli

section
variable (tools : Tools) (pl : Pipeline) (bench : BenchOptions) (policy : Policy) (report : Report)

/-- The file of the CSV. -/
def csvPath : Path := bench.csv?.getD (pl.layout.benchRoot.child "benchmarks.csv")

/-- Write a markdown report, if its tables can be laid out. -/
def writeMarkdown (path : Path) : Action (Option (Except SystemError Unit)) :=
  systemFacts tools pl.toolchain.cc >>= fun facts =>
    match report.markdown? policy facts with
    | none => pure none
    | some text => writeText path text >>= fun result => pure (some result)

/-- Say whether the markdown report was written. -/
def afterMarkdown (path : Path) : Option (Except SystemError Unit) → Action (Except Nat Unit)
  | none => pure (.error brokenOff)
  | some (.error cause) => sayUnwritten path cause >>= fun _ => pure (.error 1)
  | some (.ok ()) => say .path path.text >>= fun _ => pure (.ok ())

/-- Write the markdown report, if one is asked for. -/
def reportMarkdown : Action (Except Nat Unit) :=
  match bench.markdown? with
  | none => pure (.ok ())
  | some path => writeMarkdown tools pl policy report path >>= afterMarkdown path

/-- Go on with the markdown report, if the CSV was written. -/
def afterCsv : Except SystemError Unit → Action (Except Nat Unit)
  | .error cause => sayUnwritten (csvPath pl bench) cause >>= fun _ => pure (.error 1)
  | .ok () => say .success "Results written" >>= fun _ =>
      say .path (csvPath pl bench).text >>= fun _ => reportMarkdown tools pl bench policy report

/-- Settle the exit code when all is shown. -/
def settle (r : Registry) : Action Nat :=
  if !r.programs.isEmpty && report.measuredCount == 0 then
    say .failure "No program produced a native baseline" >>= fun _ => pure 1
  else pure 0

/-- Show a ratio table that could be laid out, and settle the exit code. -/
def showTable (r : Registry) : Option String → Action Nat
  | none => pure brokenOff
  | some text => print text >>= fun _ => settle report r

/-- Show the report, if all were written, and settle the exit code. -/
def afterReports (r : Registry) : Except Nat Unit → Action Nat
  | .error code => pure code
  | .ok () => print "\n" >>= fun _ => showTable report r report.table.layOut?

theorem writeReports_eq : writeReports tools pl bench policy report =
    writeText (csvPath pl bench) report.csv >>= afterCsv tools pl bench policy report := by
  refine congrArg (_ >>= ·) (funext fun written => ?_)
  cases written with
  | error cause => rfl
  | ok u =>
    refine congrArg (say .success _ >>= ·) (funext fun _ => ?_)
    refine congrArg (say .path _ >>= ·) (funext fun _ => ?_)
    unfold reportMarkdown
    cases bench.markdown? with
    | none => rfl
    | some path =>
      dsimp only
      rw [writeMarkdown, bind_assoc]
      refine congrArg (_ >>= ·) (funext fun facts => ?_)
      cases report.markdown? policy facts with
      | none => rfl
      | some text =>
        dsimp only
        rw [bind_assoc]
        refine congrArg (_ >>= ·) (funext fun result => ?_)
        cases result <;> rfl

theorem publish_eq (setup : Setup) : publish tools setup bench report =
    writeReports tools setup.pipeline bench (bench.policy setup.pipeline.toolchain.limit?) report
      >>= afterReports report setup.registry := by
  refine congrArg (_ >>= ·) (funext fun written => ?_)
  cases written with
  | error code => rfl
  | ok u =>
    refine congrArg (print "\n" >>= ·) (funext fun _ => ?_)
    cases report.table.layOut? <;> rfl

theorem grounded_writeText (path : Path) (text : String) : Grounded (writeText path text) := by
  have h : Asks [] (writeText path text) := .writeText path text
  exact h.grounded

theorem grounded_writeMarkdown (path : Path) :
    Grounded (writeMarkdown tools pl policy report path) := by
  refine (asks_systemFacts tools _).grounded.bind fun facts => ?_
  cases report.markdown? policy facts with
  | none => exact .pure _
  | some text => exact (grounded_writeText path text).bind fun _ => .pure _

variable (w : World)

/-- Saying something before a result is given is nothing to the machine. -/
theorem deed_say {α : Type} (mark : Mark) (text : String) {f : Unit → Action α}
    (hf : Grounded (f ())) : deed (say mark text >>= f) w = deed (f ()) w :=
  deed_quiet_bind (quiet_notify _) hf w

/-- How a run goes on after the markdown report. -/
def markdownEnd : Option (Except SystemError Unit) → Except Nat Unit
  | none => .error brokenOff
  | some (.error _) => .error 1
  | some (.ok ()) => .ok ()

theorem grounded_afterMarkdown (path : Path) (result : Option (Except SystemError Unit)) :
    Grounded (afterMarkdown path result) := by
  rcases result with _ | _ | _
  · exact .pure _
  · exact (quiet_notify _).grounded.bind fun _ => .pure _
  · exact (quiet_notify _).grounded.bind fun _ => .pure _

theorem deed_afterMarkdown (path : Path) (result : Option (Except SystemError Unit)) :
    deed (afterMarkdown path result) w = .idle (markdownEnd result) w := by
  rcases result with _ | _ | _
  · rfl
  · exact deed_say w _ _ (.pure _)
  · exact deed_say w _ _ (.pure _)

theorem grounded_reportMarkdown : Grounded (reportMarkdown tools pl bench policy report) := by
  unfold reportMarkdown
  split
  · exact .pure _
  · exact (grounded_writeMarkdown tools pl policy report _).bind (grounded_afterMarkdown _)

theorem deed_reportMarkdown :
    let d := deed (reportMarkdown tools pl bench policy report) w
    let d? := bench.markdown?.map fun path => deed (writeMarkdown tools pl policy report path) w
    d.result = d?.elim (.ok ()) (markdownEnd ·.result) ∧ d.world = (d?.map (·.world)).getD w := by
  unfold reportMarkdown
  cases bench.markdown? with
  | none => exact ⟨rfl, rfl⟩
  | some path =>
    intro d d?
    have hd : d = (deed (writeMarkdown tools pl policy report path) w).andThen fun result =>
        deed (afterMarkdown path result) := deed_bind (grounded_afterMarkdown path) w
    rw [hd, Deed.andThen, deed_afterMarkdown]
    exact ⟨rfl, rfl⟩

theorem grounded_afterCsv (result : Except SystemError Unit) :
    Grounded (afterCsv tools pl bench policy report result) := by
  cases result with
  | error cause => exact (quiet_notify _).grounded.bind fun _ => .pure _
  | ok u =>
    exact (quiet_notify _).grounded.bind fun _ => (quiet_notify _).grounded.bind fun _ =>
      grounded_reportMarkdown tools pl bench policy report

theorem deed_afterCsv (result : Except SystemError Unit) :
    deed (afterCsv tools pl bench policy report result) w =
      if result.isOk then deed (reportMarkdown tools pl bench policy report) w
      else .idle (.error 1) w := by
  have hmarkdown := grounded_reportMarkdown tools pl bench policy report
  cases result with
  | error cause => exact deed_say w _ _ (.pure _)
  | ok u =>
    refine (deed_say w _ _ ((quiet_notify _).grounded.bind fun _ => hmarkdown)).trans ?_
    exact deed_say w _ _ hmarkdown

theorem grounded_settle (r : Registry) : Grounded (settle report r) := by
  unfold settle
  split
  · exact (quiet_notify _).grounded.bind fun _ => .pure _
  · exact .pure _

/-- An empty suite has nothing to measure; another one is to have a measured
program. -/
theorem deed_settle (r : Registry) : deed (settle report r) w =
    .idle (if r.programs.isEmpty || report.measuredCount != 0 then 0 else 1) w := by
  unfold settle
  by_cases hempty : r.programs.isEmpty = true
  · simp [hempty, deed_pure]
  · by_cases hcount : report.measuredCount = 0
    · simp only [hempty, hcount, Bool.not_false, beq_self_eq_true, Bool.and_self, if_true]
      exact deed_say w _ _ (.pure _)
    · simp [hempty, hcount, deed_pure]

theorem grounded_showTable (r : Registry) (text? : Option String) :
    Grounded (showTable report r text?) := by
  cases text? with
  | none => exact .pure _
  | some text => exact (quiet_print _).grounded.bind fun _ => grounded_settle report r

theorem grounded_afterReports (r : Registry) (written : Except Nat Unit) :
    Grounded (afterReports report r written) := by
  cases written with
  | error code => exact .pure _
  | ok u => exact (quiet_print _).grounded.bind fun _ => grounded_showTable report r _

/-- The exit code of a run that goes on after the reports, or does not. -/
def endCode (r : Registry) : Except Nat Unit → Nat
  | .error code => code
  | .ok () =>
    if report.table.layOut? = none then brokenOff
    else if r.programs.isEmpty || report.measuredCount != 0 then 0 else 1

theorem deed_afterReports (r : Registry) (written : Except Nat Unit) :
    deed (afterReports report r written) w = .idle (endCode report r written) w := by
  cases written with
  | error code => rfl
  | ok u =>
    refine (deed_quiet_bind (quiet_print _) (grounded_showTable report r _) w).trans ?_
    rw [endCode]
    cases report.table.layOut? with
    | none => rfl
    | some text =>
      refine (deed_quiet_bind (quiet_print _) (grounded_settle report r) w).trans ?_
      exact deed_settle report w r

end

/-- A run of a suite, followed on machines: the builds, the report, and what
becomes of the files. -/
structure Outcome where
  builds : Deed (List Build)
  report : Deed Report
  csv : Deed (Except SystemError Unit)
  markdown? : Option (Deed (Option (Except SystemError Unit)))

namespace Outcome

/-- Whether every report that is asked for is written, or where the run ends. -/
def written (o : Outcome) : Except Nat Unit :=
  if o.csv.result.isOk then o.markdown?.elim (.ok ()) (markdownEnd ·.result) else .error 1

/-- The machine that is left. -/
def ended (o : Outcome) : World :=
  if o.csv.result.isOk then (o.markdown?.map (·.world)).getD o.csv.world else o.csv.world

end Outcome

/-- How a setup is built, measured and reported on a machine.  The markdown report
is only begun when the CSV is written. -/
def outcome (tools : Tools) (setup : Setup) (bench : BenchOptions) (w : World) : Outcome :=
  let pl := setup.pipeline
  let builds := deed (pl.buildAll tools setup.registry.programs) w
  let report := deed (reportOf tools setup builds.result bench) builds.world
  let csv := deed (writeText (csvPath pl bench) report.result.csv) report.world
  { builds, report, csv
    markdown? := bench.markdown?.map fun path =>
      deed (writeMarkdown tools pl (bench.policy pl.toolchain.limit?) report.result path)
        csv.world }

section
variable (tools : Tools) (setup : Setup) (bench : BenchOptions)

/-- What comes of the two reports. -/
theorem deed_writeReports (w : World) :
    let o := outcome tools setup bench w
    let d := deed (writeReports tools setup.pipeline bench
      (bench.policy setup.pipeline.toolchain.limit?) o.report.result) o.report.world
    d.result = o.written ∧ d.world = o.ended := by
  intro o d
  let policy := bench.policy setup.pipeline.toolchain.limit?
  have hd : d = o.csv.andThen fun result =>
      deed (afterCsv tools setup.pipeline bench policy o.report.result result) := by
    show deed (writeReports tools setup.pipeline bench policy o.report.result) o.report.world = _
    rw [writeReports_eq]
    exact deed_bind (grounded_afterCsv tools setup.pipeline bench policy o.report.result) _
  have hmarkdown :=
    deed_reportMarkdown tools setup.pipeline bench policy o.report.result o.csv.world
  rw [hd, Outcome.written, Outcome.ended, Deed.andThen, deed_afterCsv]
  cases o.csv.result with
  | error cause => exact ⟨rfl, rfl⟩
  | ok u => exact hmarkdown

/-- The exit code of an outcome. -/
def Outcome.code (o : Outcome) (r : Registry) : Nat := endCode o.report.result r o.written

namespace Outcome

variable (o : Outcome) (r : Registry)

theorem written_eq_ok_iff : o.written = .ok () ↔ o.csv.result = .ok () ∧
    ∀ d, o.markdown? = some d → d.result = some (.ok ()) := by
  have hmarkdown : ∀ result, markdownEnd result = .ok () ↔ result = some (.ok ()) := by
    rintro (_ | _ | _) <;> simp [markdownEnd]
  obtain ⟨builds, report, ⟨csv, w, started⟩, d?⟩ := o
  cases csv <;> cases d? <;> simp [written, Except.isOk, Except.toBool, hmarkdown]

theorem written_eq_brokenOff_iff : o.written = .error brokenOff ↔ o.csv.result = .ok () ∧
    ∃ d, o.markdown? = some d ∧ d.result = none := by
  have hne : 1 ≠ brokenOff := by decide
  have hmarkdown : ∀ result, markdownEnd result = .error brokenOff ↔ result = none := by
    rintro (_ | _ | _) <;> simp [markdownEnd, hne]
  obtain ⟨builds, report, ⟨csv, w, started⟩, d?⟩ := o
  cases csv <;> cases d? <;> simp [written, Except.isOk, Except.toBool, hmarkdown, hne]

theorem written_cases :
    o.written = .ok () ∨ o.written = .error 1 ∨ o.written = .error brokenOff := by
  obtain ⟨builds, report, ⟨csv, w, started⟩, d?⟩ := o
  rcases csv with _ | _
  · exact .inr (.inl rfl)
  · rcases d? with _ | ⟨_ | _ | _, w', started'⟩
    · exact .inl rfl
    · exact .inr (.inr rfl)
    · exact .inr (.inl rfl)
    · exact .inl rfl

theorem code_eq_zero_iff : o.code r = 0 ↔ o.written = .ok () ∧
    o.report.result.table.layOut? ≠ none ∧
    (r.programs = [] ∨ o.report.result.measuredCount ≠ 0) := by
  rcases o.written_cases with h | h | h <;> rw [code, h, endCode]
  · split_ifs <;> simp_all [brokenOff]
  · simp
  · simp [brokenOff]

theorem code_eq_brokenOff_iff : o.code r = brokenOff ↔ o.written = .error brokenOff ∨
    o.written = .ok () ∧ o.report.result.table.layOut? = none := by
  rcases o.written_cases with h | h | h <;> rw [code, h, endCode]
  · split_ifs <;> simp_all [brokenOff]
  · simp [brokenOff]
  · simp

theorem code_cases : o.code r = 0 ∨ o.code r = 1 ∨ o.code r = brokenOff := by
  rcases o.written_cases with h | h | h <;> rw [code, h, endCode]
  · split_ifs <;> simp
  · exact .inr (.inl rfl)
  · exact .inr (.inr rfl)

end Outcome

theorem deed_publish (w : World) :
    let o := outcome tools setup bench w
    let d := deed (publish tools setup bench o.report.result) o.report.world
    d.result = o.code setup.registry ∧ d.world = o.ended := by
  intro o d
  obtain ⟨hwritten, hended⟩ := deed_writeReports tools setup bench w
  have hd : d = (deed (writeReports tools setup.pipeline bench
      (bench.policy setup.pipeline.toolchain.limit?) o.report.result) o.report.world).andThen
        fun written => deed (afterReports o.report.result setup.registry written) := by
    show deed (publish tools setup bench o.report.result) o.report.world = _
    rw [publish_eq]
    exact deed_bind (grounded_afterReports o.report.result setup.registry) _
  rw [hd, Deed.andThen, deed_afterReports, hwritten, hended]
  exact ⟨rfl, rfl⟩

/-- The ratio table at the end of a run has the names of the suite. -/
theorem layOut?_outcome (hnd : setup.pipeline.plan.variants.Nodup) (w : World) :
    (outcome tools setup bench w).report.result.table.layOut? = none ↔
      ∃ name ∈ setup.registry.names, Table.widthLimit < Table.width name := by
  have hnames : (outcome tools setup bench w).builds.result.map (·.program) =
      setup.registry.names := setup.pipeline.programs_buildAll tools setup.registry.programs w
  have hrows : (outcome tools setup bench w).report.result.rows.map (·.program) =
      setup.registry.names :=
    (programs_benchAll tools setup.pipeline.plan _ hnd _ _).trans (names_zip hnames)
  rw [Report.layOut?_table_eq_none_iff, ← hrows]
  simp

variable {tools setup} {workers : Workers}

/-- What a setup that is not compile-only comes to, once its workers are started, is
its outcome. -/
theorem run_buildThen_outcome
    (hstart : workers.refusal? (setup.pipeline.workerCount workers) = none)
    (hfull : setup.pipeline.plan.isCompileOnly = false) (s : Session) :
    let out := (buildThen tools workers (benchBuilt tools bench) setup).run s
    let o := outcome tools setup bench s.world
    out.1 = o.code setup.registry ∧ out.2.world = o.ended := by
  intro out o
  obtain ⟨built, -, hbuilt, -, hthen⟩ :=
    run_buildThen_of_started tools (benchBuilt tools bench) hstart s
  have hpublish := fun report => (asks_publish tools setup bench report).grounded
  have hreport : Grounded (reportOf tools setup o.builds.result bench) :=
    grounded_benchAll _ _ _ _ _
  have hout : out =
      (reportOf tools setup o.builds.result bench >>= publish tools setup bench).run built := by
    rw [← benchBuilt_eq tools bench hfull]
    exact hthen
  have hall := hreport.bind hpublish
  rw [hout, hall.result, hall.world, deed_bind hpublish, hbuilt]
  exact deed_publish tools setup bench s.world

end

/-- **The exit code of a run looks at the workers, the reports, the names and the
baselines only.**  Take any words that ask for a run, on any machine on which it can
be prepared and is not compile-only.  If the workers cannot be started, the exit code
is one, and nothing is started or changed, so that there is no CSV either.  If they
can, then whatever the tools do, the programs are built, measured and reported.  The
report counts the programs whose native executable was built and measured.  The exit
code is zero if the CSV and the markdown report, if one is asked for, are written, no
name of a program is too wide for a table, and the suite is empty or some program has
a baseline.  The run is broken off if the CSV is written, but the markdown report or
the ratio table cannot be laid out, and otherwise the exit code is one.  The CSV is
written before that, whatever was measured. -/
theorem run_ends_by_reports_and_baselines (tools : Tools) (workers : Workers)
    {words : List Bytes} {i : Invocation} {suite : SuiteOptions} {host : HostOptions}
    {options : ToolOptions} {bench : BenchOptions} {setup : Setup} (s : Session)
    (hparse : Invocation.parse words = .ok i)
    (hrequest : i.request = .run suite host options bench)
    (hprep : prepare s.world suite host options = .ok setup)
    (hfull : setup.pipeline.plan.isCompileOnly = false) :
    let out := (perform tools workers words).run s
    match workers.refusal? (setup.pipeline.workerCount workers) with
    | some _ => out.1 = 1 ∧ out.2.world = s.world ∧ out.2.started = s.started
    | none =>
      let o := outcome tools setup bench s.world
      let measured := baselines tools setup.pipeline.plan
        (bench.policy setup.pipeline.toolchain.limit?)
        (setup.registry.programs.zip o.builds.result) o.builds.world
      o.builds.result.map (·.program) = setup.registry.names ∧
        measured.length = setup.registry.programs.length ∧
        o.report.result.measuredCount = measured.count true ∧
        (out.1 = 0 ∨ out.1 = 1 ∨ out.1 = brokenOff) ∧
        (out.1 = 0 ↔ o.csv.result = .ok () ∧
          (∀ d, o.markdown? = some d → d.result = some (.ok ())) ∧
          (∀ name ∈ setup.registry.names, Table.width name ≤ Table.widthLimit) ∧
          (setup.registry.programs = [] ∨ true ∈ measured)) ∧
        (out.1 = brokenOff ↔ o.csv.result = .ok () ∧
          ((∃ d, o.markdown? = some d ∧ d.result = none) ∨
            (∀ d, o.markdown? = some d → d.result = some (.ok ())) ∧
              ∃ name ∈ setup.registry.names, Table.widthLimit < Table.width name)) ∧
        (o.csv.result = .ok () → Holds o.report.world (csvPath setup.pipeline bench)
          o.report.result.csv o.csv.world) ∧
        out.2.world = o.ended := by
  intro out
  -- the command line is the request, which builds the setup and goes on
  have hgo : ∀ s₁ : Session, s₁.world = s.world → (i.request.perform tools workers).run s₁ =
      (buildThen tools workers (benchBuilt tools bench) setup).run s₁ := by
    intro s₁ hworld₁
    rw [hrequest]
    exact run_runSuite_of_prepare bench (hworld₁ ▸ hprep)
  have hperform := perform_of_buildThen tools workers hparse hgo
  cases hworkers : workers.refusal? (setup.pipeline.workerCount workers) with
  | some cause =>
    simp only [hworkers] at hperform
    exact hperform
  | none =>
    simp only [hworkers] at hperform
    obtain ⟨s₁, hworld₁, -, hcode, hworld, -⟩ := hperform
    show let o := outcome tools setup bench s.world
      let measured := baselines tools setup.pipeline.plan
        (bench.policy setup.pipeline.toolchain.limit?)
        (setup.registry.programs.zip o.builds.result) o.builds.world
      _
    intro o measured
    have hplan : setup.pipeline.plan = .ofHost setup.host := plan_of_prepare hprep
    have hnd : setup.pipeline.plan.variants.Nodup := hplan ▸ Plan.nodup_variants_ofHost setup.host
    have hnames : o.builds.result.map (·.program) = setup.registry.names :=
      setup.pipeline.programs_buildAll tools setup.registry.programs s.world
    have hlength : measured.length = setup.registry.programs.length := by
      have hbuilds := congrArg List.length hnames
      rw [List.length_map, Registry.names, List.length_map] at hbuilds
      simp [measured, baselines, hbuilds]
    have hcount : o.report.result.measuredCount = measured.count true :=
      measuredCount_benchAll tools setup.pipeline.plan _ hnd _ o.builds.world
    have htable := layOut?_outcome tools setup bench hnd s.world
    have hout : out.1 = o.code setup.registry ∧ out.2.world = o.ended := by
      obtain ⟨hcode', hworld'⟩ := run_buildThen_outcome bench hworkers hfull s₁
      have ho : o = outcome tools setup bench s₁.world := by rw [hworld₁]
      rw [ho]
      exact ⟨hcode.trans hcode', hworld.trans hworld'⟩
    refine ⟨hnames, hlength, hcount, ?_, ?_, ?_, holds_of_writeText, hout.2⟩
    · rw [hout.1]
      exact o.code_cases setup.registry
    · rw [hout.1, o.code_eq_zero_iff, o.written_eq_ok_iff, Ne, htable, hcount, and_assoc]
      simp [List.count_eq_zero, o, measured]
    · rw [hout.1, o.code_eq_brokenOff_iff, o.written_eq_ok_iff, o.written_eq_brokenOff_iff, htable,
        and_assoc, and_or_left]

namespace Sample
open GuardCost.Sample

/-- A run on the machine of the sample, which writes the markdown report. -/
def runWords : List Bytes :=
  ["run", "--root", "/", "--bench-root", "/b", "--runtime-dir", "/r", "--wasm-toolchain", "/w",
    "--tool", "/lower", "--wasm-cc", "wasm-clang", "--runs", "3", "--markdown",
    "/report.md"].map Bytes.ofString

def reported : BenchOptions := ⟨3, .min, none, some (.ofString "/report.md")⟩

theorem parse_runWords : Invocation.parse runWords =
    .ok ⟨false, false, false, .run ⟨none, []⟩ hostHere toolOptions reported⟩ := by
  decide +kernel

/-- The end of a run of the standard suite. -/
theorem standard_suite_outcome :
    let out := (perform tools (.unlimited 1) runWords).run (.ofWorld equipped)
    let o := outcome tools (setup hostHere) reported equipped
    let measured := baselines tools (setup hostHere).pipeline.plan
      (reported.policy (setup hostHere).pipeline.toolchain.limit?)
      ((setup hostHere).registry.programs.zip o.builds.result) o.builds.world
    o.builds.result.map (·.program) = (setup hostHere).registry.names ∧
      measured.length = (setup hostHere).registry.programs.length ∧
      o.report.result.measuredCount = measured.count true ∧
      (out.1 = 0 ∨ out.1 = 1 ∨ out.1 = brokenOff) ∧
      (out.1 = 0 ↔ o.csv.result = .ok () ∧
        (∀ d, o.markdown? = some d → d.result = some (.ok ())) ∧
        (∀ name ∈ (setup hostHere).registry.names, Table.width name ≤ Table.widthLimit) ∧
        ((setup hostHere).registry.programs = [] ∨ true ∈ measured)) ∧
      (out.1 = brokenOff ↔ o.csv.result = .ok () ∧
        ((∃ d, o.markdown? = some d ∧ d.result = none) ∨
          (∀ d, o.markdown? = some d → d.result = some (.ok ())) ∧
            ∃ name ∈ (setup hostHere).registry.names, Table.widthLimit < Table.width name)) ∧
      (o.csv.result = .ok () → Holds o.report.world (csvPath (setup hostHere).pipeline reported)
        o.report.result.csv o.csv.world) ∧
      out.2.world = o.ended :=
  run_ends_by_reports_and_baselines tools (.unlimited 1) (.ofWorld equipped) parse_runWords rfl
    prepare_here (by decide)

/-- The machine of the sample on which the program `a` has been built. -/
def ready : World :=
  { equipped with
    files := equipped.files.insert (location ["b", "a", "bin", "a"]) (.file [] Rights.program 0) }

def pipelineHere : Pipeline := (setup hostHere).pipeline

/-- The suite of the program `a` and one of another name. -/
def setupWith (name : String) : Setup :=
  { setup hostHere with registry := ⟨[{ name := "a" }, { name }]⟩ }

def once : BenchOptions := ⟨1, .min, none, none⟩

/-- What is built of the program `a`. -/
def readyBuild : Build where
  program := "a"
  dir := pipelineHere.dir { name := "a" }
  artifacts := (pipelineHere.frontStages ++ pipelineHere.variantStages).map
    (pipelineHere.artifact { name := "a" })
  failures := []

theorem steady_ready : ∀ stage ∈ pipelineHere.frontStages ++ pipelineHere.variantStages,
    (pipelineHere.step { name := "a" } ["m.c"] stage).IsSteady (.restoring ready) "a" ready := by
  have hall : (pipelineHere.frontStages ++ pipelineHere.variantStages).all (fun stage =>
      (ready.cleared (pipelineHere.outputPath { name := "a" } stage)).isOk) = true := by
    cbv
  intro stage hstage
  have hok := List.all_eq_true.1 hall stage hstage
  cases hc : ready.cleared (pipelineHere.outputPath { name := "a" } stage) with
  | error cause =>
    rw [hc] at hok
    cases hok
  | ok c => exact Step.isSteady_restoring hc

theorem build_ready : ∃ started,
    deed (pipelineHere.build (.restoring ready) { name := "a" }) ready =
      ⟨readyBuild, ready, started⟩ :=
  ⟨_, Pipeline.build_steady (Pipeline.prepare_standing (by cbv) (by cbv) (by cbv)) steady_ready⟩

/-- Nothing can be built of a program with a name that is too wide for a table. -/
theorem build_wide {name : String} (hwide : Table.widthLimit < Table.width name) :
    ∃ b, deed (pipelineHere.build (.restoring ready) { name }) ready = .idle b ready := by
  refine Pipeline.build_unlisted (FileSystem.list_ne_ok ?_)
  have hlimit : FileSystem.longestPath < Table.widthLimit := by decide
  exact (hlimit.trans hwide).trans_le (Path.length_le_child _ name)

theorem hasBaseline_ready :
    hasBaseline (.restoring ready) (once.policy none) { name := "a" } readyBuild ready = true := by
  have hnative : readyBuild.artifacts.find? (fun a => a.stage == .native) =
      some (pipelineHere.artifact { name := "a" } .native) := rfl
  have hfile : ready.files.isFile ready.current
      (pipelineHere.artifact { name := "a" } .native).path = true := by cbv
  have hnanosecond : Binary64.isUsable (Duration.seconds ⟨1⟩) = true := by
    decide +kernel
  have hmeasured := measured_measure (.restoring ready) { name := "a" } readyBuild.dir
    (once.policy none) (pipelineHere.artifact { name := "a" } .native).path ready
  rw [hasBaseline, hnative]
  dsimp only
  generalize deed (measure _ _ _ _ _) ready = d at hmeasured
  cases hmeasured with
  | missing hnone => exact absurd hfile (by simp [hnone])
  | failed _ _ _ hlast hcause => cases hcause
  | complete _ hlength hgood hresult =>
    obtain ⟨elapsed, rfl⟩ := List.length_eq_one_iff.1 hlength
    obtain ⟨stdout, stderr, hended⟩ := hgood 0 Nat.one_pos
    obtain rfl : ⟨1⟩ = elapsed := (Ending.ended.inj hended).2.2.2
    cases hresult with
    | none hnil => cases hnil
    | usable => rfl
    | unusable hreduce hbad =>
      obtain rfl := Option.some.inj hreduce
      exact absurd (isUsable_iff.1 hnanosecond) hbad

theorem csv_ready (text : String) :
    (deed (writeText (csvPath pipelineHere once) text) ready).result = .ok () := by
  have hfind : ready.files.find ready.current (csvPath pipelineHere once) = .error .notFound := by
    cbv
  have hloc : ready.files.locateForWriting ready.current (csvPath pipelineHere once) =
      .ok (location ["b", "benchmarks.csv"]) := by
    cbv
  exact result_writeText_new hfind hloc (by cbv) text

/-- A run with a measured program and with its reports written is broken off for a
name of another program that is too wide for a table. -/
theorem breaks_off {name : String} (hfault : Program.fault? { name } = none)
    (hwide : Table.widthLimit < Table.width name) :
    let tools := Tools.restoring ready
    let o := outcome tools (setupWith name) once ready
    Registry.ofPrograms (setupWith name).registry.programs = .ok (setupWith name).registry ∧
      o.csv.result = .ok () ∧
      true ∈ baselines tools pipelineHere.plan (once.policy pipelineHere.toolchain.limit?)
        ((setupWith name).registry.programs.zip o.builds.result) o.builds.world ∧
      ((buildThen tools (.unlimited 1) (benchBuilt tools once) (setupWith name)).run
        (.ofWorld ready)).1 = brokenOff := by
  intro tools o
  have hregistry : Registry.ofPrograms (setupWith name).registry.programs =
      .ok (setupWith name).registry := by
    have ha : Program.fault? { name := "a" } = none := by decide
    have hne : name ≠ "a" := by
      rintro rfl
      exact absurd hwide (by decide)
    simp [Registry.ofPrograms, setupWith, Registry.firstFault?, ha, hfault, hne]
  have hnd : pipelineHere.plan.variants.Nodup := Plan.nodup_variants_ofHost _
  -- the machine stays as it is through the builds and the measuring
  obtain ⟨started, ha⟩ := build_ready
  obtain ⟨b, hb⟩ := build_wide hwide
  have hbuilds : o.builds.result = [readyBuild, b] ∧ o.builds.world = ready := by
    have hall : o.builds = deed (pipelineHere.buildAll tools [{ name := "a" }, { name }]) ready :=
      rfl
    rw [hall, Pipeline.deed_buildAll_cons, ha]
    dsimp only
    rw [Pipeline.deed_buildAll_cons, hb]
    exact ⟨rfl, rfl⟩
  have hfixed : ∀ c, (tools c ready).2 = ready := fun c => rfl
  have hreport : o.report.world = ready := by
    have hworld := world_reportOf hfixed (setupWith name) o.builds.result once
    exact (congrArg (fun w => (deed (reportOf tools (setupWith name) o.builds.result once) w).world)
      hbuilds.2).trans hworld
  have hcsv : o.csv.result = .ok () := by
    have heq : o.csv = deed (writeText (csvPath pipelineHere once) o.report.result.csv)
      o.report.world := rfl
    rw [heq, hreport]
    exact csv_ready _
  refine ⟨hregistry, hcsv, ?_, ?_⟩
  · rw [hbuilds.1, hbuilds.2]
    exact List.mem_cons.2 (.inl hasBaseline_ready.symm)
  · have htable : o.report.result.table.layOut? = none :=
      (layOut?_outcome tools (setupWith name) once hnd ready).2
        ⟨name, List.mem_cons_of_mem _ List.mem_cons_self, hwide⟩
    have hmarkdown : o.markdown? = none := rfl
    have hwritten : o.written = .ok () :=
      o.written_eq_ok_iff.2
        ⟨hcsv, fun d hd => absurd (hd.symm.trans hmarkdown) (Option.some_ne_none d)⟩
    have hfull : (setupWith name).pipeline.plan.isCompileOnly = false := by
      show pipelineHere.plan.isCompileOnly = false
      decide
    rw [(run_buildThen_outcome once rfl hfull _).1]
    exact (o.code_eq_brokenOff_iff _).2 (.inr ⟨hwritten, htable⟩)

/-- A suite that is accepted, with a program that has a baseline, on a machine on which
the pipeline can run: its CSV is written and no markdown report is asked for, and the
exit code is not zero. -/
theorem wide_name_breaks_off :
    let tools := Tools.restoring ready
    let o := outcome tools (setupWith wideText) once ready
    pipelineHere.validate ready = .ok () ∧ pipelineHere.plan.isCompileOnly = false ∧
      once.markdown? = none ∧
      Registry.ofPrograms (setupWith wideText).registry.programs =
        .ok (setupWith wideText).registry ∧
      o.csv.result = .ok () ∧
      true ∈ baselines tools pipelineHere.plan (once.policy pipelineHere.toolchain.limit?)
        ((setupWith wideText).registry.programs.zip o.builds.result) o.builds.world ∧
      ((buildThen tools (.unlimited 1) (benchBuilt tools once) (setupWith wideText)).run
        (.ofWorld ready)).1 = brokenOff := by
  have hwide : Table.widthLimit < Table.width wideText :=
    width_wideText ▸ Nat.lt_succ_self Table.widthLimit
  exact ⟨by cbv, by decide, rfl, breaks_off (fault?_repeated _) hwide⟩

end Sample

end Cli

end GuardCost
