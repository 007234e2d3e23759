/-
GuardCost/Proofs/Confinement.lean

What a stage of a program can depend on and what it can change.  A tool is
*confined* if its ending and the file it writes depend on nothing but its
command and what is read of the files that the command names as inputs, and if
it writes no file but the one it is given with `-o` (`Command.Confined`).

The inputs of a stage are the words of its command that name files
(`Pipeline.inputs`): some are made by no stage, and at most one is the output of
an earlier stage.  If the former are reached apart from all places of outputs
(`Pipeline.Site`), then a stage with confined tools

    changes the machine at its own place only            (Site.step_frame)
    does the same on machines that agree on its input
      from an earlier stage and are otherwise alike      (Site.step_agrees)

Both come from one account of what running a stage can come to
(`Site.step_cases`).
-/
import GuardCost.Proofs.OutputPlaces

namespace GuardCost

open GuardCost.Action

/-! ### Confined tools -/

/-- An ending without the time that was taken. -/
def Ending.untimed : Ending → Ending
  | .ended status stdout stderr _ => .ended status stdout stderr ⟨0⟩
  | ending => ending

/-- The time that was taken has no say in what an ending means. -/
theorem Step.verdict_untimed (s : Step) (name : String) (ending : Ending) :
    s.verdict name ending.untimed = s.verdict name ending := by
  cases ending with
  | ended status stdout stderr elapsed =>
    simp only [Step.verdict, Ending.untimed, Command.judge]
    cases status.isSuccess <;> rfl
  | notStarted cause => rfl
  | stopped => rfl

/-- What a tool makes of its inputs: how it ends, times aside, and what it
writes, if anything. -/
structure Reply where
  ending : Ending
  written? : Option (Bytes × Rights)

/-- What stands at the place of an output after a reply. -/
def Reply.node? (r : Reply) : Option Node := r.written?.map fun x => .file x.1 x.2 0

theorem Reply.node?_ne_link (r : Reply) (target : Bytes) : r.node? ≠ some (.link target) := by
  intro h
  obtain ⟨x, -, hx⟩ := Option.map_eq_some_iff.1 h
  cases hx

namespace Command

/-- The file that a command is to write: the last of its words. -/
def output (c : Command) : Path :=
  (c.directory?.getD ⟨[]⟩).join ⟨c.arguments.getLast?.getD []⟩

/-- A command whose tool depends on its inputs alone and writes its output
alone. -/
structure Confined (tools : Tools) (c : Command) (inputs : List Path)
    (reply : List (Option Node) → Reply) : Prop where
  ending : ∀ w, (tools c w).1.untimed = (reply (inputs.map w.content?)).ending
  current : ∀ w, (tools c w).2.current = w.current
  frame : ∀ w loc, w.files.locate w.current c.output true ≠ .ok loc →
    (tools c w).2.files.node? loc = w.files.node? loc
  written : ∀ w loc, w.files.locate w.current c.output true = .ok loc →
    w.files.node? loc = none →
    (tools c w).2.files.node? loc = (reply (inputs.map w.content?)).node?

theorem Confined.congr {tools tools' : Tools} {c : Command} {inputs : List Path}
    {reply : List (Option Node) → Reply} (h : Confined tools c inputs reply)
    (hsame : tools' c = tools c) : Confined tools' c inputs reply := by
  refine ⟨?_, ?_, ?_, ?_⟩
  · rw [hsame]
    exact h.ending
  · rw [hsame]
    exact h.current
  · rw [hsame]
    exact h.frame
  · rw [hsame]
    exact h.written

end Command

/-- Tools that read some files and write the output of their command. -/
def Tools.reading (reads : Command → List Path)
    (reply : Command → List (Option Node) → Reply) : Tools := fun c w =>
  let r := reply c ((reads c).map w.content?)
  let files :=
    match w.files.locate w.current c.output true, r.written? with
    | .ok loc, some (content, rights) => w.files.insert loc (.file content rights w.now)
    | _, _ => w.files
  (r.ending, { w with files })

/-- What is read of some files is known from what is read of more. -/
theorem exists_map_of_subset {α β : Type} [DecidableEq α] {xs ys : List α} (h : xs ⊆ ys) :
    ∃ select : List β → List β, ∀ f : α → β, xs.map f = select (ys.map f) := by
  refine ⟨fun bs => xs.filterMap fun x => bs[ys.idxOf x]?, fun f => ?_⟩
  refine (congrFun List.filterMap_eq_map' xs).symm.trans ?_
  refine List.filterMap_congr fun x hx => ?_
  have hlt := List.idxOf_lt_length_of_mem (h hx)
  rw [List.getElem?_map, List.getElem?_eq_getElem hlt, List.getElem_idxOf hlt]
  rfl

/-- Tools are confined that read inputs only. -/
theorem Tools.confined_reading {reads : Command → List Path}
    {reply : Command → List (Option Node) → Reply} {c : Command} {inputs : List Path}
    (h : reads c ⊆ inputs) :
    ∃ reply', Command.Confined (.reading reads reply) c inputs reply' := by
  obtain ⟨select, hselect⟩ := exists_map_of_subset (β := Option Node) h
  refine ⟨fun contents =>
    ⟨(reply c (select contents)).ending.untimed, (reply c (select contents)).written?⟩,
    ⟨fun w => ?_, fun w => rfl, fun w loc hloc => ?_, fun w loc hloc hfree => ?_⟩⟩
  · rw [← hselect]
    rfl
  · simp only [Tools.reading]
    split
    · next loc' content rights hloc' _ =>
      refine FileSystem.node?_insert_ne _ ?_ _
      rintro rfl
      exact hloc hloc'
    · rfl
  · simp only [Tools.reading, hloc, ← hselect, Reply.node?]
    cases (reply c ((reads c).map w.content?)).written? with
    | none => exact hfree
    | some x => exact FileSystem.node?_insert_self _ (w.files.ne_nil_of_node? hfree) _

/-! ### The files that a command names -/

/-- The stage whose output a stage reads. -/
def Stage.chained? : Stage → Option Stage
  | bytecode _ => some wasm
  | variant v => some (bytecode v.flavor)
  | _ => none

theorem Stage.chained?_ne {stage stage' : Stage} (h : stage.chained? = some stage') :
    stage' ≠ .sources ∧ stage' ≠ stage := by
  cases stage <;> cases h <;> exact ⟨Stage.noConfusion, Stage.noConfusion⟩

namespace Pipeline

variable (pl : Pipeline) (p : Program)

/-- A variant reads from the front. -/
theorem front_of_chained {stage stage' : Stage} (h : stage ∈ pl.variantStages)
    (hchained : stage.chained? = some stage') : stage' ∈ pl.frontStages := by
  unfold variantStages at h
  split at h
  · cases h
  · obtain ⟨v, -, rfl⟩ := List.mem_map.1 h
    cases hchained
    cases hv : v.flavor <;> simp [frontStages]

/-- The file that a word names in a command of a program. -/
def named (word : Bytes) : Path := (pl.dir p).join ⟨word⟩

/-- The words of a stage's command that name files which no stage makes. -/
def externalWords (sources : List String) : Stage → List Bytes
  | .sources => []
  | .native => Toolchain.wordsOf (p.flags ++ sources)
  | .wasm => Toolchain.wordsOf (p.flags ++ [Toolchain.markerSource] ++ sources)
  | .bytecode _ => []
  | .variant v => (pl.layout.runtimeSources v).map Path.bytes

/-- The inputs of a stage that no stage makes: its tool, if it is given by a
path, flags, sources and runtime sources. -/
def externalInputs (sources : List String) (stage : Stage) : List Path :=
  let tool := (pl.step p sources stage).command.program
  ((if Bytes.slash ∈ tool then [tool] else []) ++ pl.externalWords p sources stage).map (pl.named p)

/-- The inputs of a stage. -/
def inputs (sources : List String) (stage : Stage) : List Path :=
  pl.externalInputs p sources stage ++ (stage.chained?.map (pl.outputPath p)).toList

/-- The command of a stage ends with the word `-o` and the output. -/
theorem arguments_step (sources : List String) {stage : Stage} (h : stage ≠ .sources) :
    ∃ front, (pl.step p sources stage).command.arguments =
      front ++ Toolchain.wordsOf ["-o", stage.outputName p.name] := by
  cases stage with
  | sources => exact absurd rfl h
  | native => exact ⟨_, List.map_append⟩
  | wasm =>
    refine ⟨_, (congrArg _ List.map_append).trans (List.append_assoc _ _ _).symm⟩
  | bytecode flavor =>
    exact ⟨_, (congrArg Toolchain.wordsOf (List.append_cons _ _ _)).trans List.map_append⟩
  | variant v => exact ⟨_, rfl⟩

/-- The command of a stage is told to write the output of that stage. -/
theorem output_step (sources : List String) {stage : Stage} (h : stage ≠ .sources) :
    (pl.step p sources stage).command.output = pl.outputPath p stage := by
  obtain ⟨front, hfront⟩ := pl.arguments_step p sources h
  rw [Command.output, hfront, List.getLast?_append]
  rfl

/-- The tools are confined on every command of a program. -/
def ToolsConfined (tools : Tools) : Prop :=
  ∀ sources stage, stage ≠ .sources →
    ∃ reply, Command.Confined tools (pl.step p sources stage).command (pl.inputs p sources stage)
      reply

/-! ### One step -/

/-- A machine on which the output directory of a program stands at `B`, and
on which neither that directory nor an input that no stage makes is reached by
way of a location of `X`, where all outputs of the program belong. -/
structure Site (sources : List String) (X : Set Location) (B : Location) (w : World) : Prop where
  bin : pl.BinAt p w B
  bin_apart : w.Apart X (pl.bin p)
  inputs_apart : ∀ stage, ∀ q ∈ pl.externalInputs p sources stage, w.Apart X q
  places : ∀ stage x, stage ≠ .sources → pl.place p B stage = .ok x → x ∈ X

/-- The input that a stage has from an earlier one stands at its place. -/
def Chained (B : Location) (stage : Stage) (w : World) : Prop :=
  ∀ stage', stage.chained? = some stage' →
    ∃ x, pl.place p B stage' = .ok x ∧ w.files.HasNoLink x

namespace Site

variable {pl p} {sources : List String} {X Y : Set Location} {B : Location} {w w' : World}
  {tools : Tools} {stage : Stage}

theorem alike (site : pl.Site p sources X B w) (h : World.Alike X w w') :
    pl.Site p sources X B w' where
  bin := (h.seen site.bin_apart).trans site.bin
  bin_apart := h.apart site.bin_apart
  inputs_apart stage q hq := h.apart (site.inputs_apart stage q hq)
  places := site.places

/-- What running a stage can come to: its output cannot be cleared, and nothing
is done; or its tool is started with the output cleared. -/
theorem step_cases (site : pl.Site p sources X B w) (hp : p.fault? = none)
    (hst : stage ≠ .sources) {reply : List (Option Node) → Reply}
    (ht : Command.Confined tools (pl.step p sources stage).command (pl.inputs p sources stage)
      reply) :
    (∃ cause, deed ((pl.step p sources stage).run tools p.name) w =
          .idle (.error (.io p.name stage (pl.outputPath p stage) cause)) w ∧
        (pl.place p B stage = .error cause ∨
          cause = .isDirectory ∧ ∃ x, pl.place p B stage = .ok x ∧ w.files.HasDirectory x)) ∨
      ∃ x c, pl.place p B stage = .ok x ∧ ¬ w.files.HasDirectory x ∧
        World.Alike {x} w c ∧
        (deed ((pl.step p sources stage).run tools p.name) w).result =
          (pl.step p sources stage).verdict p.name
            (reply ((pl.inputs p sources stage).map c.content?)).ending ∧
        World.Alike {x} c (deed ((pl.step p sources stage).run tools p.name) w).world ∧
        (deed ((pl.step p sources stage).run tools p.name) w).world.files.node? x =
          (reply ((pl.inputs p sources stage).map c.content?)).node? := by
  have houtput : (pl.step p sources stage).output = pl.outputPath p stage := rfl
  rw [Step.deed_run, houtput]
  cases hx : pl.place p B stage with
  | error cause =>
    rw [cleared_of_no_place hp hst site.bin hx]
    exact .inl ⟨cause, rfl, .inl rfl⟩
  | ok x =>
    by_cases hd : w.files.HasDirectory x
    · rw [cleared_of_directory hp hst site.bin hx hd]
      exact .inl ⟨.isDirectory, rfl, .inr ⟨rfl, x, rfl, hd⟩⟩
    · obtain ⟨c, hc, halike, hfree⟩ := cleared_of_place hp hst site.bin hx hd
      have hxX : x ∈ X := site.places stage x hst hx
      have sitec := site.alike (halike.mono (Set.singleton_subset_iff.2 hxX))
      -- the tool writes to the place that was cleared
      have hloc : c.files.locate c.current (pl.step p sources stage).command.output true =
          .ok x := by
        rw [pl.output_step p sources hst, locate_output hp hst sitec.bin, hx]
        rw [← place_eq_ok hx]
        intro _ target hlink
        rw [hfree] at hlink
        cases hlink
      rw [hc]
      refine .inr ⟨x, c, rfl, hd, halike, ?_, ⟨ht.current c, fun loc hne => ?_⟩,
        ht.written c x hloc hfree⟩
      · rw [← ht.ending c, Step.verdict_untimed]
      · refine ht.frame c loc fun hloc' => hne ?_
        exact (Except.ok.inj (hloc'.symm.trans hloc))

/-- A stage changes the machine at its own place only. -/
theorem step_frame (site : pl.Site p sources X B w) (hp : p.fault? = none)
    (hst : stage ≠ .sources) (ht : pl.ToolsConfined p tools) :
    World.Alike {x | pl.place p B stage = .ok x} w
      (deed ((pl.step p sources stage).run tools p.name) w).world := by
  obtain ⟨reply, ht⟩ := ht sources stage hst
  rcases site.step_cases hp hst ht with ⟨cause, hd, -⟩ | ⟨x, c, hx, -, hc, -, hw, -⟩
  · rw [hd]
    exact World.Alike.refl _ _
  · exact (hc.trans hw).mono (Set.singleton_subset_iff.2 hx)

/-- No stage leaves a link where there was none. -/
theorem step_hasNoLink (site : pl.Site p sources X B w) (hp : p.fault? = none)
    (hst : stage ≠ .sources) (ht : pl.ToolsConfined p tools) {loc : Location}
    (hl : w.files.HasNoLink loc) :
    (deed ((pl.step p sources stage).run tools p.name) w).world.files.HasNoLink loc := by
  obtain ⟨reply, ht⟩ := ht sources stage hst
  rcases site.step_cases hp hst ht with ⟨cause, hd, -⟩ | ⟨x, c, hx, -, hc, -, hw, hnode⟩
  · rw [hd]
    exact hl
  · intro target
    by_cases hloc : loc = x
    · rw [hloc, hnode]
      exact Reply.node?_ne_link _ _
    · rw [(hc.trans hw).node loc hloc]
      exact hl target

/-- What a stage that succeeds has made is no link. -/
theorem step_ok (site : pl.Site p sources X B w) (hp : p.fault? = none)
    (hst : stage ≠ .sources) (ht : pl.ToolsConfined p tools)
    (hok : (deed ((pl.step p sources stage).run tools p.name) w).result = .ok ()) :
    ∃ x, pl.place p B stage = .ok x ∧
      (deed ((pl.step p sources stage).run tools p.name) w).world.files.HasNoLink x := by
  obtain ⟨reply, ht⟩ := ht sources stage hst
  rcases site.step_cases hp hst ht with ⟨cause, hd, -⟩ | ⟨x, c, hx, -, -, -, -, hnode⟩
  · rw [hd] at hok
    cases hok
  · refine ⟨x, hx, fun target => ?_⟩
    rw [hnode]
    exact Reply.node?_ne_link _ _

/-- What is read of the inputs of a stage, on machines that agree on the one
from an earlier stage. -/
theorem contents_agree (site : pl.Site p sources X B w) (hp : p.fault? = none)
    (h : World.Alike Y w w') (hYX : Y ⊆ X) (hchained : pl.Chained p B stage w)
    (hagree : ∀ stage' x, stage.chained? = some stage' → pl.place p B stage' = .ok x →
      w'.files.node? x = w.files.node? x) :
    (pl.inputs p sources stage).map w'.content? = (pl.inputs p sources stage).map w.content? := by
  have site' := site.alike (h.mono hYX)
  refine List.map_congr_left fun q hq => ?_
  rcases List.mem_append.1 hq with hq | hq
  · exact (h.mono hYX).content (site.inputs_apart stage q hq)
  · obtain ⟨stage', hstage', rfl⟩ := Option.map_eq_some_iff.1 (Option.mem_toList.1 hq)
    obtain ⟨hst', -⟩ := Stage.chained?_ne hstage'
    obtain ⟨x, hx, hl⟩ := hchained stage' hstage'
    have hnode := hagree stage' x hstage' hx
    have hl' : w'.files.HasNoLink x := by
      intro target
      rw [hnode]
      exact hl target
    rw [content_output hp hst' site.bin hx hl, content_output hp hst' site'.bin hx hl', hnode]

/-- The input that a stage has from an earlier one stands elsewhere than its
output, so that clearing the output changes no input. -/
theorem contents_cleared (site : pl.Site p sources X B w) (hp : p.fault? = none)
    (hst : stage ≠ .sources) (hchained : pl.Chained p B stage w) {x : Location}
    (hx : pl.place p B stage = .ok x) (h : World.Alike {x} w w') :
    (pl.inputs p sources stage).map w'.content? = (pl.inputs p sources stage).map w.content? := by
  refine site.contents_agree hp h (Set.singleton_subset_iff.2 (site.places stage x hst hx))
    hchained fun stage' y hstage' hy => h.node y ?_
  rintro rfl
  obtain ⟨hst', hne⟩ := Stage.chained?_ne hstage'
  exact hne (place_inj hst' hst hy hx)

/-- **A stage does the same on machines that agree on what it reads.**  If two
machines are alike but for places of outputs, among them neither that of the
input from an earlier stage nor one where only one machine has a directory, then
a stage has the same outcome on both, and they stay alike; unless it fails
without touching them, they then agree on its output as well. -/
theorem step_agrees (site : pl.Site p sources X B w) (hp : p.fault? = none)
    (hst : stage ≠ .sources) (ht : pl.ToolsConfined p tools) (h : World.Alike Y w w')
    (hYX : Y ⊆ X) (hchained : pl.Chained p B stage w)
    (hagree : ∀ stage' x, stage.chained? = some stage' → pl.place p B stage' = .ok x →
      w'.files.node? x = w.files.node? x)
    (hdirs : ∀ x, pl.place p B stage = .ok x →
      (w'.files.HasDirectory x ↔ w.files.HasDirectory x)) :
    let d := deed ((pl.step p sources stage).run tools p.name) w
    let d' := deed ((pl.step p sources stage).run tools p.name) w'
    d'.result = d.result ∧ World.Alike Y d.world d'.world ∧
      ((d.result ≠ .ok () ∧ d.world = w ∧ d'.world = w') ∨
        ∃ x, pl.place p B stage = .ok x ∧ World.Alike (Y \ {x}) d.world d'.world) := by
  intro d d'
  obtain ⟨reply, ht⟩ := ht sources stage hst
  have site' := site.alike (h.mono hYX)
  rcases site.step_cases hp hst ht with ⟨cause, hd, hcause⟩ | ⟨x, c, hx, hnd, hc, hr, hw, hnode⟩
  · rcases site'.step_cases hp hst ht with ⟨cause', hd', hcause'⟩ | ⟨x', c', hx', hnd', -⟩
    · have heq : cause' = cause := by
        rcases hcause with hplace | ⟨rfl, x, hx, hdir⟩ <;>
          rcases hcause' with hplace' | ⟨rfl, x', hx', hdir'⟩
        · exact Except.error.inj (hplace'.symm.trans hplace)
        · exact absurd (hplace.symm.trans hx') (by simp)
        · exact absurd (hplace'.symm.trans hx) (by simp)
        · rfl
      rw [show d' = _ from hd', show d = _ from hd, heq]
      exact ⟨rfl, h, .inl ⟨by simp [Deed.idle], rfl, rfl⟩⟩
    · rcases hcause with hplace | ⟨-, x, hx, hdir⟩
      · exact absurd (hplace.symm.trans hx') (by simp)
      · obtain rfl := Except.ok.inj (hx.symm.trans hx')
        exact absurd ((hdirs x hx).2 hdir) hnd'
  · rcases site'.step_cases hp hst ht with
      ⟨cause', -, hcause'⟩ | ⟨x', c', hx', -, hc', hr', hw', hnode'⟩
    · rcases hcause' with hplace | ⟨-, x', hx', hdir⟩
      · exact absurd (hplace.symm.trans hx) (by simp)
      · obtain rfl := Except.ok.inj (hx.symm.trans hx')
        exact absurd ((hdirs x hx).1 hdir) hnd
    · obtain rfl := Except.ok.inj (hx.symm.trans hx')
      -- both tools are started on the same inputs
      have hinputs : (pl.inputs p sources stage).map c'.content? =
          (pl.inputs p sources stage).map c.content? := by
        have hchained' : pl.Chained p B stage w' := by
          intro stage' hstage'
          obtain ⟨y, hy, hl⟩ := hchained stage' hstage'
          refine ⟨y, hy, fun target => ?_⟩
          rw [hagree stage' y hstage' hy]
          exact hl target
        calc (pl.inputs p sources stage).map c'.content?
            = (pl.inputs p sources stage).map w'.content? :=
              site'.contents_cleared hp hst hchained' hx hc'
          _ = (pl.inputs p sources stage).map w.content? :=
              site.contents_agree hp h hYX hchained hagree
          _ = (pl.inputs p sources stage).map c.content? :=
              (site.contents_cleared hp hst hchained hx hc).symm
      have hafter : World.Alike (Y \ {x}) d.world d'.world := by
        refine ⟨?_, fun loc hloc => ?_⟩
        · rw [hw'.current, hc'.current, h.current, hw.current, hc.current]
        · by_cases hlx : loc = x
          · rw [hlx, hnode, hnode', hinputs]
          · have hlY : loc ∉ Y := fun hY => hloc ⟨hY, hlx⟩
            rw [(hc.trans hw).node loc hlx, (hc'.trans hw').node loc hlx, h.node loc hlY]
      refine ⟨?_, hafter.mono fun _ hloc => hloc.1, .inr ⟨x, hx, hafter⟩⟩
      rw [show d.result = _ from hr, show d'.result = _ from hr', hinputs]

/-- Differences that are neither at its place nor at that of its input do not
disturb a stage. -/
theorem step_undisturbed (site : pl.Site p sources X B w) (hp : p.fault? = none)
    (hst : stage ≠ .sources) (ht : pl.ToolsConfined p tools) (h : World.Alike Y w w')
    (hYX : Y ⊆ X) (hchained : pl.Chained p B stage w)
    (hY : ∀ stage' x, stage' = stage ∨ stage.chained? = some stage' →
      pl.place p B stage' = .ok x → x ∉ Y) :
    let d := deed ((pl.step p sources stage).run tools p.name) w
    let d' := deed ((pl.step p sources stage).run tools p.name) w'
    d'.result = d.result ∧ World.Alike Y d.world d'.world ∧
      World.Alike {x | pl.place p B stage = .ok x} w' d'.world := by
  intro d d'
  obtain ⟨hresult, halike, -⟩ := site.step_agrees hp hst ht h hYX hchained
    (fun stage' x hstage' hx => h.node x (hY stage' x (.inr hstage') hx))
    (fun x hx => iff_of_eq (congrArg (· = some (Node.directory 0))
      (h.node x (hY stage x (.inl rfl) hx))))
  exact ⟨hresult, halike, (site.alike (h.mono hYX)).step_frame hp hst ht⟩

end Site

end Pipeline

end GuardCost
