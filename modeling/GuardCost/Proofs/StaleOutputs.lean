/-
GuardCost/Proofs/StaleOutputs.lean

No stage uses a stale output.  Two machines that differ, times aside, at most in
files, links and devices at the places of a program's outputs are in *lockstep*:
they agree on the outputs of the stages that have run, and elsewhere but for the
places of the others (`Pipeline.Lockstep`).  A stage that reads the output of an
earlier one reads what that stage has just made, so each step has the same
outcome on both machines and keeps them in lockstep (`Lockstep.step`); by
induction so do the front and the variants (`Lockstep.front`, `Lockstep.each`).
-/
import GuardCost.Proofs.BuildShape
import GuardCost.Proofs.Preparation

namespace GuardCost

open GuardCost.Action

namespace Pipeline

variable (pl : Pipeline) (p : Program)

/-- The places of the outputs of all stages but those in `done`. -/
def undone (B : Location) (done : List Stage) : Set Location :=
  {x | ∃ stage, stage ∉ done ∧ stage ≠ .sources ∧ pl.place p B stage = .ok x}

/-- Two machines on which the stages in `done` have run. -/
structure Lockstep (sources : List String) (X : Set Location) (B : Location) (done : List Stage)
    (w w' : World) : Prop where
  site : pl.Site p sources X B w
  alike : World.Alike (pl.undone p B done) w w'
  dirs : ∀ stage x, stage ≠ .sources → pl.place p B stage = .ok x →
    (w'.files.HasDirectory x ↔ w.files.HasDirectory x)
  plain : ∀ stage ∈ done, stage ≠ .sources ∧
    ∃ x, pl.place p B stage = .ok x ∧ w.files.HasNoLink x

/-- Stages that come in an order in which each reads from earlier ones. -/
def InOrder (done : List Stage) : List Stage → Prop
  | [] => True
  | stage :: rest =>
    stage ≠ .sources ∧ (∀ stage', stage.chained? = some stage' → stage' ∈ done) ∧
      InOrder (stage :: done) rest

theorem inOrder_frontStages : InOrder [] pl.frontStages := by
  unfold frontStages
  split <;> simp [InOrder, Stage.chained?]

namespace Lockstep

variable {pl p} {sources : List String} {X : Set Location} {B : Location} {done : List Stage}
  {w w' : World} {tools : Tools} {stage : Stage}

theorem undone_subset (h : pl.Lockstep p sources X B done w w') : pl.undone p B done ⊆ X := by
  rintro x ⟨stage, -, hst, hx⟩
  exact h.site.places stage x hst hx

/-- Machines in lockstep agree on the outputs of the stages that have run. -/
theorem node_done (h : pl.Lockstep p sources X B done w w') (hmem : stage ∈ done) {x : Location}
    (hx : pl.place p B stage = .ok x) : w'.files.node? x = w.files.node? x := by
  refine h.alike.node x ?_
  rintro ⟨stage', hmem', hst', hx'⟩
  rw [place_inj hst' (h.plain stage hmem).1 hx' hx] at hmem'
  exact hmem' hmem

/-- What is read of the outputs of the stages that have run. -/
theorem content_done (hp : p.fault? = none) (h : pl.Lockstep p sources X B done w w')
    (hmem : stage ∈ done) :
    w'.content? (pl.outputPath p stage) = w.content? (pl.outputPath p stage) := by
  obtain ⟨hst, x, hx, hl⟩ := h.plain stage hmem
  have hnode := h.node_done hmem hx
  have site' := h.site.alike (h.alike.mono h.undone_subset)
  have hl' : w'.files.HasNoLink x := by
    intro target
    rw [hnode]
    exact hl target
  rw [content_output hp hst h.site.bin hx hl, content_output hp hst site'.bin hx hl', hnode]

/-- A stage that reads from stages that have run has the same outcome on
machines in lockstep and keeps them so; if it succeeds, it has run. -/
theorem step (hp : p.fault? = none) (ht : pl.ToolsConfined p tools)
    (h : pl.Lockstep p sources X B done w w') (hst : stage ≠ .sources)
    (hchained : ∀ stage', stage.chained? = some stage' → stage' ∈ done) :
    let d := deed ((pl.step p sources stage).run tools p.name) w
    let d' := deed ((pl.step p sources stage).run tools p.name) w'
    d'.result = d.result ∧ pl.Lockstep p sources X B done d.world d'.world ∧
      (d.result = .ok () → pl.Lockstep p sources X B (stage :: done) d.world d'.world) := by
  intro d d'
  have site' := h.site.alike (h.alike.mono h.undone_subset)
  obtain ⟨hresult, halike, hafter⟩ := h.site.step_agrees hp hst ht h.alike h.undone_subset
    (fun stage' hstage' => (h.plain stage' (hchained stage' hstage')).2)
    (fun stage' x hstage' hx => h.node_done (hchained stage' hstage') hx)
    (fun x hx => h.dirs stage x hst hx)
  have hframe := h.site.step_frame hp hst ht
  have hframe' := site'.step_frame hp hst ht
  have hplace : {x | pl.place p B stage = .ok x} ⊆ X := fun x hx => h.site.places stage x hst hx
  have hdirs : ∀ stage' x, stage' ≠ .sources → pl.place p B stage' = .ok x →
      (d'.world.files.HasDirectory x ↔ d.world.files.HasDirectory x) := by
    intro stage' x hst' hx
    rcases hafter with ⟨-, hw, hw'⟩ | ⟨y, hy, hafter⟩
    · rw [hw, hw']
      exact h.dirs stage' x hst' hx
    · by_cases hxy : x = y
      · have hmem : x ∉ {x | ∃ stage, stage ∉ done ∧ stage ≠ .sources ∧
            pl.place p B stage = .ok x} \ {y} := fun hx => hx.2 hxy
        rw [FileSystem.HasDirectory, FileSystem.HasDirectory, hafter.node x hmem]
      · have hne : x ∉ {x | pl.place p B stage = .ok x} := by
          intro hx'
          exact hxy (Except.ok.inj (hx'.symm.trans hy))
        have hdir := h.dirs stage' x hst' hx
        rw [FileSystem.HasDirectory, FileSystem.HasDirectory] at hdir ⊢
        rwa [hframe.node x hne, hframe'.node x hne]
  have hplain : ∀ stage' ∈ done, stage' ≠ .sources ∧
      ∃ x, pl.place p B stage' = .ok x ∧ d.world.files.HasNoLink x := by
    intro stage' hmem
    obtain ⟨hst', x, hx, hl⟩ := h.plain stage' hmem
    exact ⟨hst', x, hx, h.site.step_hasNoLink hp hst ht hl⟩
  refine ⟨hresult, ⟨h.site.alike (hframe.mono hplace), halike, hdirs, hplain⟩, fun hok => ?_⟩
  obtain ⟨x, hx, hl⟩ := h.site.step_ok hp hst ht hok
  refine ⟨h.site.alike (hframe.mono hplace), ?_, hdirs, ?_⟩
  · rcases hafter with ⟨hne, -⟩ | ⟨y, hy, hafter⟩
    · exact absurd hok hne
    · refine hafter.mono ?_
      rintro loc ⟨⟨stage', hmem, hst', hloc⟩, hne⟩
      refine ⟨stage', ?_, hst', hloc⟩
      rintro hmem'
      rcases List.mem_cons.1 hmem' with rfl | hmem'
      · exact hne (Except.ok.inj (hloc.symm.trans hy))
      · exact hmem hmem'
  · intro stage' hmem
    rcases List.mem_cons.1 hmem with rfl | hmem
    · exact ⟨hst, x, hx, hl⟩
    · exact hplain stage' hmem

/-- A front has the same outcome on machines in lockstep, and keeps them so for
all that it has made. -/
theorem front (hp : p.fault? = none) (ht : pl.ToolsConfined p tools) {stages : List Stage}
    (h : pl.Lockstep p sources X B done w w') (horder : InOrder done stages) :
    let d := deed (runFront tools p.name (pl.steps p sources stages)) w
    let d' := deed (runFront tools p.name (pl.steps p sources stages)) w'
    d'.result = d.result ∧ ∃ done', pl.Lockstep p sources X B done' d.world d'.world ∧
      (∀ stage ∈ done, stage ∈ done') ∧ (∀ a ∈ d.result.1, ∃ stage ∈ done', a = pl.artifact p stage) ∧
      (d.result.2 = none → ∀ stage ∈ stages, stage ∈ done') := by
  induction stages generalizing done w w' with
  | nil => exact ⟨rfl, done, h, fun _ hs => hs, fun a ha => absurd ha List.not_mem_nil,
      fun _ _ hs => absurd hs List.not_mem_nil⟩
  | cons stage rest ih =>
    obtain ⟨hst, hchained, hrest⟩ := horder
    obtain ⟨hresult, hfail, hok⟩ := h.step hp ht hst hchained
    have hsteps : pl.steps p sources (stage :: rest) =
        pl.step p sources stage :: pl.steps p sources rest := rfl
    rw [hsteps]
    cases hr : (deed ((pl.step p sources stage).run tools p.name) w).result with
    | error e =>
      rw [deed_runFront_error tools p.name hr, deed_runFront_error tools p.name (hresult.trans hr)]
      exact ⟨rfl, done, hfail, fun _ hs => hs, fun a ha => absurd ha List.not_mem_nil,
        fun hnone => absurd hnone (by simp)⟩
    | ok u =>
      rw [deed_runFront_ok tools p.name hr, deed_runFront_ok tools p.name (hresult.trans hr)]
      obtain ⟨hsame, done', hlock, hsub, hmade, hall⟩ := ih (hok hr) hrest
      refine ⟨?_, done', hlock, fun s hs => hsub s (List.mem_cons_of_mem _ hs), ?_, ?_⟩
      · simp only [hsame]
      · intro a ha
        rcases List.mem_cons.1 ha with rfl | ha
        · exact ⟨stage, hsub stage List.mem_cons_self, rfl⟩
        · exact hmade a ha
      · intro hnone s hs
        rcases List.mem_cons.1 hs with rfl | hs
        · exact hsub s List.mem_cons_self
        · exact hall hnone s hs

/-- Variants have the same outcomes on machines in lockstep, and keep them so
for all that they have made. -/
theorem each (hp : p.fault? = none) (ht : pl.ToolsConfined p tools) {stages : List Stage}
    (h : pl.Lockstep p sources X B done w w')
    (hstages : ∀ stage ∈ stages, stage ≠ .sources ∧
      ∀ stage', stage.chained? = some stage' → stage' ∈ done) :
    let d := deed (runEach tools p.name (pl.steps p sources stages)) w
    let d' := deed (runEach tools p.name (pl.steps p sources stages)) w'
    d'.result = d.result ∧ ∃ done', pl.Lockstep p sources X B done' d.world d'.world ∧
      (∀ stage ∈ done, stage ∈ done') ∧
      ∀ a ∈ d.result.1, ∃ stage ∈ done', a = pl.artifact p stage := by
  induction stages generalizing done w w' with
  | nil => exact ⟨rfl, done, h, fun _ hs => hs, fun a ha => absurd ha List.not_mem_nil⟩
  | cons stage rest ih =>
    obtain ⟨hst, hchained⟩ := hstages stage List.mem_cons_self
    have hrest := fun s hs => hstages s (List.mem_cons_of_mem _ hs)
    obtain ⟨hresult, hfail, hok⟩ := h.step hp ht hst hchained
    have hsteps : pl.steps p sources (stage :: rest) =
        pl.step p sources stage :: pl.steps p sources rest := rfl
    rw [hsteps, deed_runEach_cons, deed_runEach_cons]
    dsimp only
    rw [hresult]
    cases hr : (deed ((pl.step p sources stage).run tools p.name) w).result with
    | error e =>
      obtain ⟨hsame, done', hlock, hsub, hmade⟩ := ih hfail hrest
      refine ⟨?_, done', hlock, hsub, hmade⟩
      simp only [hsame]
    | ok u =>
      obtain ⟨hsame, done', hlock, hsub, hmade⟩ := ih (hok hr) fun s hs =>
        ⟨(hrest s hs).1, fun s' hs' => List.mem_cons_of_mem _ ((hrest s hs).2 s' hs')⟩
      refine ⟨?_, done', hlock, fun s hs => hsub s (List.mem_cons_of_mem _ hs), ?_⟩
      · simp only [hsame]
      · intro a ha
        rcases List.mem_cons.1 ha with rfl | ha
        · exact ⟨stage, hsub stage List.mem_cons_self, rfl⟩
        · exact hmade a ha

end Lockstep

/-! ### Builds -/

variable {pl p} {w w' : World} {tools : Tools}

/-- Machines that differ at places of outputs only are in lockstep once the
program is prepared. -/
theorem lockstep_of_prepared (hshelter : pl.Sheltered p (pl.places p w) w)
    (halike : World.Alike (pl.places p w) w w')
    (hdirs : ∀ x ∈ pl.places p w, w'.files.HasDirectory x ↔ w.files.HasDirectory x)
    {sources : List String} (hprep : (deed (pl.prepare p) w).result = .ok sources) :
    ∃ B, pl.Lockstep p sources (pl.places p w) B [] (deed (pl.prepare p) w).world
      (deed (pl.prepare p) w').world := by
  obtain ⟨B, site⟩ := hshelter.site (fun x hx => hx) hprep
  obtain ⟨R, hdir, hmake⟩ := prepare_ok hprep
  refine ⟨B, site, (hshelter.prepare_agrees halike).2.mono ?_, ?_, fun stage hmem => ?_⟩
  · -- the output directory stands at one location only
    rintro x ⟨R', v, B', stage, -, hv, hB', hst, hx⟩
    obtain rfl := Except.ok.inj (hmake.symm.trans hv)
    have hB : B = B' := congrArg Prod.fst (Except.ok.inj (site.bin.symm.trans hB'))
    exact ⟨stage, List.not_mem_nil, hst, hB ▸ hx⟩
  · intro stage x hst hx
    have hmem := site.places stage x hst hx
    have hkeep := hshelter.prepare_keeps hmem
    have hkeep' := (hshelter.alike halike).prepare_keeps hmem
    have hdir := hdirs x hmem
    rw [FileSystem.HasDirectory, FileSystem.HasDirectory] at hdir ⊢
    rwa [hkeep, hkeep']
  · exact absurd hmem List.not_mem_nil

/-- The stages of a program on machines in lockstep. -/
theorem Lockstep.stages {sources : List String} {X : Set Location} {B : Location}
    (hp : p.fault? = none) (ht : pl.ToolsConfined p tools)
    (h : pl.Lockstep p sources X B [] w w') :
    let d := deed (pl.buildStages p tools (.ok sources)) w
    let d' := deed (pl.buildStages p tools (.ok sources)) w'
    d'.result = d.result ∧
      ∀ a ∈ d.result.artifacts, d'.world.content? a.path = d.world.content? a.path := by
  intro d d'
  obtain ⟨hfront, done, hlock, -, hmade, hall⟩ := h.front hp ht pl.inOrder_frontStages
  have hd : ∀ u, deed (pl.buildStages p tools (.ok sources)) u =
      (deed (runFront tools p.name (pl.steps p sources pl.frontStages)) u).andThen fun front =>
        deed (pl.buildVariants p tools sources front) :=
    fun u => pl.deed_buildStages_ok p tools sources u
  rw [show d = _ from hd w, show d' = _ from hd w']
  simp only [Deed.andThen, hfront]
  cases hr : (deed (runFront tools p.name (pl.steps p sources pl.frontStages)) w).result with
  | mk made failure? =>
    rw [hr] at hmade hall
    cases failure? with
    | some e =>
      refine ⟨rfl, fun a ha => ?_⟩
      obtain ⟨stage, hmem, rfl⟩ := hmade a ha
      exact hlock.content_done hp hmem
    | none =>
      have hvariants : ∀ stage ∈ pl.variantStages, stage ≠ .sources ∧
          ∀ stage', stage.chained? = some stage' → stage' ∈ done := by
        intro stage hstage
        exact ⟨pl.ne_sources_of_mem_variants hstage, fun stage' hchained =>
          hall rfl stage' (pl.front_of_chained hstage hchained)⟩
      obtain ⟨heach, done', hlock', hsub, hmade'⟩ := hlock.each hp ht hvariants
      rw [deed_buildVariants_none, deed_buildVariants_none]
      simp only [heach]
      refine ⟨trivial, fun a ha => ?_⟩
      rcases List.mem_append.1 ha with ha | ha
      · obtain ⟨stage, hmem, rfl⟩ := hmade a ha
        exact hlock'.content_done hp (hsub stage hmem)
      · obtain ⟨stage, hmem, rfl⟩ := hmade' a ha
        exact hlock'.content_done hp hmem

end Pipeline

/-! ### A machine with two programs -/

namespace Sample

/-- The location with these names. -/
def location (names : List String) : Location := names.map Bytes.ofString

/-- A file with a few bytes in it. -/
def text : Node := .file (Bytes.ofString "int x;") Rights.plain 0

/-- The programs `a`, which has been built before, and `a_bc`, and the sources
of the runtime. -/
def entries : List (Location × Node) :=
  [(location ["b"], .directory 0), (location ["b", "dummy.c"], text),
    (location ["b", "a"], .directory 0), (location ["b", "a", "m.c"], text),
    (location ["b", "a", "bin"], .directory 0),
    (location ["b", "a_bc"], .directory 0), (location ["b", "a_bc", "m.c"], text),
    (location ["r"], .directory 0), (location ["r", "runtime.c"], text),
    (location ["r", "libc"], .directory 0), (location ["r", "libc", "libc_backing.c"], text),
    (location ["r", "libc", "env.c"], text), (location ["r", "memory"], .directory 0),
    (location ["r", "memory", "no_protection.c"], text),
    (location ["r", "memory", "generic.c"], text), (location ["r", "memory", "mpx.c"], text),
    (location ["r", "memory", "64bit_nix.c"], text), (location ["r", "memory", "cortex_m.c"], text)]

def world : World := ⟨.ofEntries entries, [], 0⟩

/-- Programs whose outputs have names in common: a variant of `a` is called
`a_bc` as well. -/
def programs : List Program := [{ name := "a" }, { name := "a_bc" }]

def pipeline : Pipeline where
  layout := ⟨.ofString "/", .ofString "/b", .ofString "/r", .ofString "/w"⟩
  toolchain := ⟨"clang", "clang++", .ofString "wasm-clang", .ofString "/w", .ofString "lower",
    none, true, none⟩
  plan := .ofHost .detect

/-- The files that a command names: its words but for options and the output. -/
def reads (c : Command) : List Path :=
  (c.arguments.filter fun word => word.head? != some 45 && some word != c.arguments.getLast?).map
    fun word => (c.directory?.getD ⟨[]⟩).join ⟨word⟩

/-- Put together what is read, if everything is there. -/
def reply (_ : Command) (contents : List (Option Node)) : Reply :=
  let parts := contents.mapM fun
    | some (.file content _ _) => some content
    | _ => none
  match parts with
  | some parts => ⟨.ended (.exited 0) [] [] ⟨1⟩, some (parts.flatten, Rights.program)⟩
  | none => ⟨.ended (.exited 1) [] [] ⟨1⟩, none⟩

def tools : Tools := .reading reads reply

/-- The words that name the inputs of a stage which no stage makes. -/
def words : List Bytes :=
  [Bytes.ofString "m.c", Bytes.ofString Toolchain.markerSource] ++
    (Variant.all.flatMap pipeline.layout.runtimeSources).map Path.bytes

variable {p : Program}

theorem fault?_eq_none (hp : p ∈ programs) : p.fault? = none := by
  revert p
  decide

theorem flags_eq_nil (hp : p ∈ programs) : p.flags = [] := by
  revert p
  decide

theorem multiLanguage_eq_false (hp : p ∈ programs) : p.multiLanguage = false := by
  revert p
  decide

theorem hasNoLink_world : ∀ loc, world.files.HasNoLink loc := by
  have h : ∀ entry ∈ world.files.entries, entry.2 = .directory 0 ∨ entry.2 = text := by
    decide
  refine FileSystem.hasNoLink_of_entries fun entry hentry target htarget => ?_
  rcases h entry hentry with h | h <;> cases h.symm.trans htarget

/-- The only source of each program. -/
theorem name_of_source (hp : p ∈ programs) {name : Bytes}
    (hnode : world.files.node? (location ["b", p.name] ++ [name]) ≠ none)
    (hext : hasExtension p.sourceExtensions name = true) : name = Bytes.ofString "m.c" := by
  have h : ∀ p ∈ programs, ∀ entry ∈ world.files.entries,
      entry.1.dropLast = location ["b", p.name] →
        hasExtension p.sourceExtensions (entry.1.getLastD []) = true →
          entry.1.getLastD [] = Bytes.ofString "m.c" := by
    decide
  obtain ⟨node, hnode⟩ := Option.ne_none_iff_exists'.1 hnode
  obtain ⟨node', hmem, -⟩ := FileSystem.mem_entries_of_node? (by simp) hnode
  have := h p hp _ hmem
  rw [List.dropLast_concat, List.getLastD_concat] at this
  exact this rfl hext

/-- Where the directory of a program is. -/
theorem seen_dir {w : World} (hp : p ∈ programs) (hl : ∀ loc, w.files.HasNoLink loc)
    (hcurrent : w.current = []) {R : Location} {node : Node}
    (h : w.files.seen w.current (pipeline.dir p) = .ok (R, node)) :
    R = location ["b", p.name] := by
  have hway : ∀ p ∈ programs, (pipeline.dir p).names.foldl FileSystem.partStep
      (FileSystem.startOf [] (pipeline.dir p)) = location ["b", p.name] := by
    decide
  rw [FileSystem.seen_linkless hl h, hcurrent, hway p hp]

/-- Where the output directory of a program is. -/
theorem seen_bin {w : World} (hp : p ∈ programs) (hl : ∀ loc, w.files.HasNoLink loc)
    (hcurrent : w.current = []) {B : Location} {node : Node}
    (h : w.files.seen w.current (pipeline.bin p) = .ok (B, node)) :
    B = location ["b", p.name, "bin"] := by
  have hway : ∀ p ∈ programs, (pipeline.bin p).names.foldl FileSystem.partStep
      (FileSystem.startOf [] (pipeline.bin p)) = location ["b", p.name, "bin"] := by
    decide
  rw [FileSystem.seen_linkless hl h, hcurrent, hway p hp]

/-- What the inputs of a stage are called. -/
theorem externalWords_subset {sources : List String}
    (hsources : ∀ source ∈ sources, Bytes.ofString source = Bytes.ofString "m.c")
    (hp : p ∈ programs) (stage : Stage) : pipeline.externalWords p sources stage ⊆ words := by
  have hflags := flags_eq_nil hp
  have hwords : Toolchain.wordsOf sources ⊆ words := by
    intro word hword
    obtain ⟨source, hmem, rfl⟩ := List.mem_map.1 hword
    rw [hsources source hmem]
    simp [words]
  cases stage with
  | sources => exact List.nil_subset _
  | native => rwa [Pipeline.externalWords, hflags]
  | wasm =>
    rw [Pipeline.externalWords, hflags, List.nil_append, List.singleton_append]
    exact List.cons_subset.2 ⟨by simp [words], hwords⟩
  | bytecode flavor => exact List.nil_subset _
  | variant v =>
    refine fun word hword => List.mem_append_right _ ?_
    refine List.map_subset _ (fun q hq => ?_) hword
    exact List.mem_flatMap.2 ⟨v, v.mem_all, hq⟩

/-- Locations that are no place of an output nor an output directory of a
program other than `p`. -/
def spared (p : Program) (loc : Location) : Bool :=
  decide (loc.length < 3) || (loc.length == 3 &&
    (loc.getLast? != some (Bytes.ofString Stage.outputDir) ||
      loc[1]? == some (Bytes.ofString p.name)))

theorem sheltered (hp : p ∈ programs) {X : Set Location} (hX : ∀ x ∈ X, spared p x = false) :
    pipeline.Sheltered p X world := by
  have hapart : ∀ (w : World) (q : Path), (∀ loc, w.files.HasNoLink loc) → w.current = [] →
      (∀ loc ∈ q.way [], spared p loc = true) → w.Apart X q := by
    intro w q hl hcurrent hway
    refine World.apart_of_linkless hl fun loc hloc hx => ?_
    rw [hcurrent] at hloc
    exact absurd (hway loc hloc) (by simp [hX loc hx])
  have hdir : ∀ p ∈ programs, ∀ loc ∈ (pipeline.dir p).way [], spared p loc = true := by
    decide
  have hbin : ∀ p ∈ programs, ∀ loc ∈ (pipeline.bin p).way [], spared p loc = true := by
    decide
  have hwords : ∀ p ∈ programs, ∀ word ∈ words, ∀ loc ∈ (pipeline.named p word).way [],
      spared p loc = true := by
    decide
  refine ⟨hapart _ _ hasNoLink_world rfl (hdir p hp), hapart _ _ hasNoLink_world rfl (hbin p hp),
    ?_, ?_, ?_⟩
  · intro names hnames name hname hext
    rw [FileSystem.list_eq] at hnames
    cases hdir : world.files.seen world.current (pipeline.dir p) with
    | error cause =>
      rw [hdir] at hnames
      cases hnames
    | ok found =>
      obtain ⟨R, node⟩ := found
      rw [hdir] at hnames
      cases node with
      | directory t =>
        cases hnames
        obtain rfl := seen_dir hp hasNoLink_world rfl hdir
        rw [name_of_source hp (FileSystem.mem_children.1 hname) hext]
        exact hapart _ _ hasNoLink_world rfl (hwords p hp _ (by simp [words]))
      | _ => cases hnames
  · intro R node hdir name hext hmem
    obtain rfl := seen_dir hp hasNoLink_world rfl hdir
    -- what stands in its own directory is spared
    exact absurd (hX _ hmem) (by simp [spared, location])
  · intro sources hprep stage q hq
    have hsources : ∀ source ∈ sources, Bytes.ofString source = Bytes.ofString "m.c" := by
      intro source hsource
      obtain ⟨R, hdir, hnode, hext⟩ := Pipeline.mem_sources hprep hsource
      obtain rfl := seen_dir hp hasNoLink_world rfl hdir
      exact name_of_source hp hnode hext
    have htool : Bytes.slash ∉ (pipeline.step p sources stage).command.program := by
      cases stage with
      | native =>
        show Bytes.slash ∉ Bytes.ofString (pipeline.toolchain.driver p.multiLanguage)
        rw [multiLanguage_eq_false hp]
        decide
      | sources => exact List.not_mem_nil
      | wasm =>
        show Bytes.slash ∉ pipeline.toolchain.wasmCc.bytes
        decide
      | bytecode flavor =>
        show Bytes.slash ∉ pipeline.toolchain.loweringTool.bytes
        decide
      | variant v =>
        show Bytes.slash ∉ Bytes.ofString pipeline.toolchain.cc
        decide
    rw [Pipeline.externalInputs, if_neg htool, List.nil_append] at hq
    obtain ⟨word, hword, rfl⟩ := List.mem_map.1 hq
    obtain ⟨hcurrent, hlinks⟩ := Pipeline.prepare_keeps world
    exact hapart _ _ (fun loc => hlinks loc (hasNoLink_world loc)) hcurrent
      (hwords p hp word (externalWords_subset hsources hp stage hword))

/-- The options in the commands of a program. -/
def options (p : Program) : List String :=
  ["-lm", "-o", "-u", Toolchain.linkerOptions p.stackSize,
    "--target=wasm32-unknown-unknown-wasm", "-nostartfiles", "-O3", "-flto", "--sysroot=/w"] ++
    pipeline.toolchain.optimising p

/-- A word of a command that is neither an option nor the output names an
input. -/
theorem input_of_word (hp : p ∈ programs) {sources : List String} {stage : Stage}
    (hst : stage ≠ .sources) {word : Bytes}
    (hmem : word ∈ (pipeline.step p sources stage).command.arguments)
    (hoption : ∀ option ∈ options p, word ≠ Bytes.ofString option)
    (houtput : word ≠ Bytes.ofString (stage.outputName p.name)) :
    word ∈ pipeline.externalWords p sources stage ∨
      ∃ stage', stage.chained? = some stage' ∧
        word = Bytes.ofString (stage'.outputName p.name) := by
  have hflags := flags_eq_nil hp
  cases stage with
  | sources => exact absurd rfl hst
  | native =>
    simp only [Pipeline.step, Pipeline.stageCommand, Toolchain.nativeCommand, hflags,
      Toolchain.wordsOf, List.nil_append, List.map_append, List.mem_append, List.map_cons,
      List.map_nil, List.mem_cons, List.not_mem_nil, or_false] at hmem
    rcases hmem with ((h | h) | h) | h | h
    · exact absurd h (hoption _ (by simp [options]))
    · obtain ⟨option, ho, rfl⟩ := List.mem_map.1 h
      exact absurd rfl (hoption option (List.mem_append_right _ ho))
    · refine .inl ?_
      rwa [Pipeline.externalWords, hflags]
    · exact absurd h (hoption _ (by simp [options]))
    · exact absurd h houtput
  | wasm =>
    simp only [Pipeline.step, Pipeline.stageCommand, Toolchain.wasmCommand, hflags,
      Toolchain.wordsOf, List.nil_append, List.map_append, List.mem_append, List.map_cons,
      List.map_nil, List.mem_cons, List.not_mem_nil, or_false] at hmem
    rcases hmem with ((h | h | h | h | h) | h) | (h | h) | h | h
    · exact absurd h (hoption _ (by simp [options]))
    · exact absurd h (hoption _ (by simp [options]))
    · exact absurd h (hoption _ (by simp [options]))
    · exact absurd h (hoption _ (by simp [options]))
    · exact absurd h (hoption _ (by simp [options]))
    · have hroot : Bytes.ofString "--sysroot=" ++ pipeline.toolchain.wasmSysroot.bytes =
          Bytes.ofString "--sysroot=/w" := by
        decide
      exact absurd (h.trans hroot) (hoption _ (by simp [options]))
    · refine .inl ?_
      rw [Pipeline.externalWords, hflags, h]
      exact List.mem_cons_self
    · refine .inl ?_
      rw [Pipeline.externalWords, hflags]
      exact List.mem_cons_of_mem _ h
    · exact absurd h (hoption _ (by simp [options]))
    · exact absurd h houtput
  | bytecode flavor =>
    have htarget : pipeline.toolchain.target? = none := rfl
    simp only [Pipeline.step, Pipeline.stageCommand, Toolchain.bytecodeCommand, htarget,
      Toolchain.wordsOf, List.nil_append, List.map_append, List.mem_append, List.map_cons,
      List.map_nil, List.mem_cons, List.not_mem_nil, or_false, Option.map_none,
      Option.getD_none] at hmem
    rcases hmem with h | h | h | h
    · have hu : word = Bytes.ofString "-u" := by
        split at h
        · exact List.mem_singleton.1 h
        · cases h
      exact absurd hu (hoption _ (by simp [options]))
    · exact .inr ⟨.wasm, rfl, h⟩
    · exact absurd h (hoption _ (by simp [options]))
    · exact absurd h houtput
  | variant v =>
    have htarget : pipeline.toolchain.target? = none := rfl
    simp only [Pipeline.step, Pipeline.stageCommand, Toolchain.variantCommand, htarget,
      Toolchain.wordsOf, List.append_nil, List.map_append, List.mem_append, List.map_cons,
      List.map_nil, List.mem_cons, List.not_mem_nil, or_false, Option.map_none,
      Option.getD_none] at hmem
    rcases hmem with (((h | h) | h) | h) | h | h
    · exact absurd h (hoption _ (by simp [options]))
    · obtain ⟨option, ho, rfl⟩ := List.mem_map.1 h
      exact absurd rfl (hoption option (List.mem_append_right _ ho))
    · exact .inr ⟨.bytecode v.flavor, rfl, h⟩
    · exact .inl h
    · exact absurd h (hoption _ (by simp [options]))
    · exact absurd h houtput

/-- The tools read inputs only. -/
theorem toolsConfined (hp : p ∈ programs) : pipeline.ToolsConfined p tools := by
  intro sources stage hst
  refine Tools.confined_reading fun q hq => ?_
  obtain ⟨word, hword, rfl⟩ := List.mem_map.1 hq
  obtain ⟨hmem, hread⟩ := List.mem_filter.1 hword
  rw [Bool.and_eq_true, bne_iff_ne, bne_iff_ne] at hread
  have hoption : ∀ option ∈ options p, word ≠ Bytes.ofString option := by
    have hdash : ∀ p ∈ programs, ∀ option ∈ options p,
        (Bytes.ofString option).head? = some 45 := by
      decide
    rintro option hoption rfl
    exact hread.1 (hdash p hp option hoption)
  have houtput : word ≠ Bytes.ofString (stage.outputName p.name) := by
    obtain ⟨front, hfront⟩ := pipeline.arguments_step p sources hst
    rintro rfl
    refine hread.2 ?_
    rw [hfront, List.getLast?_append]
    rfl
  rcases input_of_word hp hst hmem hoption houtput with h | ⟨stage', hstage', rfl⟩
  · exact List.mem_append_left _ (List.mem_map_of_mem (List.mem_append_right _ h))
  · refine List.mem_append_right _ ?_
    rw [hstage']
    exact List.mem_singleton.2 rfl

/-- The places of the outputs. -/
theorem eq_of_mem_places (hp : p ∈ programs) {x : Location} (hx : x ∈ pipeline.places p world) :
    ∃ stage : Stage, x = location ["b", p.name, "bin"] ++ [p.outputFile stage] := by
  obtain ⟨R, v, B, stage, hdir, hmake, hB, -, hx⟩ := hx
  obtain ⟨hcurrent, hlinks⟩ := Pipeline.withDirectory_keeps hdir hmake
  obtain rfl := seen_bin hp (fun loc => hlinks loc (hasNoLink_world loc)) hcurrent hB
  exact ⟨stage, Pipeline.place_eq_ok hx⟩

/-- The machine after a build of `a` that has left a module. -/
def built : World :=
  { world with files := world.files.insert (location ["b", "a", "bin", "a.wasm"]) text }

/-- The module stands at the place of an output. -/
theorem mem_places : location ["b", "a", "bin", "a.wasm"] ∈
    pipeline.places { name := "a" } world := by
  have hdir : world.files.seen [] (pipeline.dir { name := "a" }) =
      .ok (location ["b", "a"], .directory 0) :=
    (FileSystem.seen_of_directories (by decide) (by decide) (by decide)
      (by decide) (by decide) true).2
  have hbin : world.files.locate [] (pipeline.bin { name := "a" }) false =
      .ok (location ["b", "a", "bin"]) ∧ world.files.seen [] (pipeline.bin { name := "a" }) =
      .ok (location ["b", "a", "bin"], .directory 0) :=
    FileSystem.seen_of_directories (by decide) (by decide) (by decide)
      (by decide) (by decide) false
  have hnode : world.files.node? (location ["b", "a", "bin"]) = some (.directory 0) := by
    decide
  refine ⟨_, world, _, .wasm, hdir, ?_, hbin.2, Stage.noConfusion, by decide⟩
  rw [World.withDirectory_eq, show world.files.locate world.current _ false = _ from hbin.1]
  simp only
  rw [hnode, FileSystem.isDirectory_eq, show world.files.seen world.current _ = _ from hbin.2]
  rfl

end Sample

/-! ### Builds on stale outputs -/

/-- **No stage uses a stale output.**  Let the tools be confined on the commands
of a checked program, and let the program be sheltered from the places of its
outputs.  Then on any two machines that differ, times aside, at most in what
stands at those places, where no directory stands on one of them only, its build
gives the same artifacts and the same failures, and afterwards the same is read
at the path of every artifact. -/
theorem Pipeline.build_uses_no_stale_output (pl : Pipeline) (p : Program) (tools : Tools)
    (s s' : Session) (hp : p.fault? = none) (ht : pl.ToolsConfined p tools)
    (hshelter : pl.Sheltered p (pl.places p s.world) s.world)
    (halike : World.Alike (pl.places p s.world) s.world s'.world)
    (hdirs : ∀ x ∈ pl.places p s.world,
      s'.world.files.HasDirectory x ↔ s.world.files.HasDirectory x) :
    let r := (pl.build tools p).run s
    let r' := (pl.build tools p).run s'
    r'.1.artifacts = r.1.artifacts ∧ r'.1.failures = r.1.failures ∧
      ∀ a ∈ r.1.artifacts, r'.2.world.content? a.path = r.2.world.content? a.path := by
  intro r r'
  have hg := pl.grounded_build p tools
  have hbuild : (deed (pl.build tools p) s'.world).result =
        (deed (pl.build tools p) s.world).result ∧
      ∀ a ∈ (deed (pl.build tools p) s.world).result.artifacts,
        (deed (pl.build tools p) s'.world).world.content? a.path =
          (deed (pl.build tools p) s.world).world.content? a.path := by
    obtain ⟨hresult, -⟩ := hshelter.prepare_agrees halike
    rw [deed_build, deed_build]
    simp only [Deed.andThen, hresult]
    cases hprep : (deed (pl.prepare p) s.world).result with
    | error e =>
      rw [deed_buildStages_error, deed_buildStages_error]
      exact ⟨rfl, fun a ha => absurd ha List.not_mem_nil⟩
    | ok sources =>
      obtain ⟨B, hlock⟩ := lockstep_of_prepared hshelter halike hdirs hprep
      exact hlock.stages hp ht
  rw [show r.1 = _ from hg.result s, show r'.1 = _ from hg.result s',
    show r.2.world = _ from hg.world s, show r'.2.world = _ from hg.world s', hbuild.1]
  exact ⟨rfl, rfl, hbuild.2⟩

/-- The build of a program of which one output is left from an earlier build. -/
theorem Sample.build_after_build :
    let p : Program := { name := "a" }
    let r := (Sample.pipeline.build Sample.tools p).run (.ofWorld Sample.world)
    let r' := (Sample.pipeline.build Sample.tools p).run (.ofWorld Sample.built)
    r'.1.artifacts = r.1.artifacts ∧ r'.1.failures = r.1.failures ∧
      ∀ a ∈ r.1.artifacts, r'.2.world.content? a.path = r.2.world.content? a.path := by
  have hp : ({ name := "a" } : Program) ∈ Sample.programs := List.mem_cons_self
  have hspared : ∀ x ∈ Sample.pipeline.places { name := "a" } Sample.world,
      Sample.spared { name := "a" } x = false := by
    intro x hx
    obtain ⟨stage, rfl⟩ := Sample.eq_of_mem_places hp hx
    simp [Sample.spared, Sample.location]
  have hnode : ∀ loc, loc ≠ Sample.location ["b", "a", "bin", "a.wasm"] →
      Sample.built.files.node? loc = Sample.world.files.node? loc :=
    fun loc hloc => FileSystem.node?_insert_ne _ hloc _
  refine Pipeline.build_uses_no_stale_output Sample.pipeline { name := "a" } Sample.tools
    (.ofWorld Sample.world) (.ofWorld Sample.built) (Sample.fault?_eq_none hp)
    (Sample.toolsConfined hp) (Sample.sheltered hp hspared) ⟨rfl, fun loc hloc => ?_⟩
    fun x hx => ?_
  · refine hnode loc ?_
    rintro rfl
    exact hloc Sample.mem_places
  · by_cases hloc : x = Sample.location ["b", "a", "bin", "a.wasm"]
    · subst hloc
      decide
    · exact iff_of_eq (congrArg (· = some (Node.directory 0)) (hnode x hloc))

end GuardCost
