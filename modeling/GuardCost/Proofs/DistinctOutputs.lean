/-
GuardCost/Proofs/DistinctOutputs.lean

No output stands where another output or a source does.  A suffix does not tell
outputs apart, for a program can be called like the output of another one, and then
a file of each has the same name.  But the path of an output also has the steps

    root of the suite / name / bin / name ++ suffix        (components_outputPath)

so it says which program it belongs to, and with that the suffix says which stage.
A source is a child of the directory of its program and has one step fewer.

Paths that differ can still lead to one file, by links.  Where none of the
directories of the programs and none of their output directories is a link, outputs
and sources have places of their own below the root of the suite (`outputPlace`,
`sourcePlace`), and a step changes nothing but what stands at its output and the
directory of that (`Step.node?_run`), so it keeps every other output and every source
(`keeps_output`, `keeps_source`).
-/
import GuardCost.Proofs.ClearedPaths
import GuardCost.Proofs.SourceListings
import GuardCost.Proofs.SuiteOrder

namespace GuardCost

open GuardCost.Action

/-! ### Children -/

namespace Path

/-- A path with one more step than another one, a name. -/
def IsChildOf (q dir : Path) : Prop := ∃ name, q.components = dir.components ++ [.name name]

variable {q dir dir' : Path} {part rest : Bytes}

theorem isChildOf_join (dir : Path) (h : IsSegment part) : (dir.join ⟨part⟩).IsChildOf dir :=
  ⟨part, components_join_segment dir h⟩

/-- A path is a child of one directory only. -/
theorem IsChildOf.components_eq (h : q.IsChildOf dir) (h' : q.IsChildOf dir') :
    dir.components = dir'.components := by
  obtain ⟨name, hname⟩ := h
  obtain ⟨name', hname'⟩ := h'
  exact List.append_inj_left' (hname.symm.trans hname') rfl

/-- What is parted by a slash may be joined part by part. -/
theorem join_slash (p : Path) (hpart : IsSegment part) (hrest : Path.isAbsolute ⟨rest⟩ = false) :
    p.join ⟨part ++ Bytes.slash :: rest⟩ = (p.join ⟨part⟩).join ⟨rest⟩ := by
  have hwhole := bytes_join p (isAbsolute_of_isSegment hpart (Bytes.slash :: rest))
  have hfront := bytes_join p hpart.isStep.isAbsolute
  have hback := bytes_join (p.join ⟨part⟩) hrest
  -- the first join leaves no slash at the end, so the second one puts it there
  rw [if_neg (not_or.2 ⟨join_isStep_ne_nil p hpart.isStep,
    by simp [endsWithSlash_join_isStep p hpart.isStep]⟩), hfront] at hback
  have hbytes : (p.join ⟨part ++ Bytes.slash :: rest⟩).bytes =
      ((p.join ⟨part⟩).join ⟨rest⟩).bytes := by
    rw [hwhole, hback]
    split <;> simp
  exact congrArg Path.mk hbytes

end Path

/-! ### Outputs -/

/-- The stages that write a file. -/
def Stage.writing : List Stage :=
  [native, wasm, bytecode .checked, bytecode .unchecked] ++ Variant.all.map variant

theorem Stage.mem_writing {stage : Stage} : stage ∈ writing ↔ stage ≠ .sources := by
  cases stage with
  | bytecode flavor => cases flavor <;> decide
  | variant v => cases v <;> decide
  | _ => decide

namespace Registry

variable {r : Registry} {p q : Program} {o o' : Program × Stage}

/-- The outputs of a suite: every program with every stage that writes a file. -/
def outputs (r : Registry) : List (Program × Stage) := r.programs ×ˢ Stage.writing

theorem mem_outputs : o ∈ r.outputs ↔ o.1 ∈ r.programs ∧ o.2 ≠ .sources := by
  rw [outputs, List.mem_product, Stage.mem_writing]

theorem Sound.fault?_eq_none (hr : r.Sound) (hp : p ∈ r.programs) : p.fault? = none :=
  Program.fault?_eq_none_iff.2 (hr.programs p hp)

/-- The name of its program and the name of its file tell an output. -/
theorem Sound.output_ext (hr : r.Sound) (ho : o ∈ r.outputs) (ho' : o' ∈ r.outputs)
    (hname : Bytes.ofString o.1.name = Bytes.ofString o'.1.name)
    (hfile : o.1.outputFile o.2 = o'.1.outputFile o'.2) : o = o' := by
  obtain ⟨hp, hst⟩ := mem_outputs.1 ho
  obtain ⟨hp', hst'⟩ := mem_outputs.1 ho'
  have hprogram : o.1 = o'.1 := hr.eq_of_name_eq hp hp' (Bytes.ofString_injective hname)
  rw [hprogram] at hfile
  exact Prod.ext hprogram (Program.outputFile_inj hst hst' hfile)

end Registry

namespace Pipeline

variable (pl : Pipeline) {r : Registry} {p q : Program} {o : Program × Stage}

/-- The output of a stage is joined to the output directory. -/
theorem outputPath_eq {stage : Stage} (hp : p.fault? = none) (hst : stage ≠ .sources) :
    pl.outputPath p stage = (pl.bin p).join ⟨p.outputFile stage⟩ := by
  have hfile := (Program.isSegment_outputFile hp stage).isStep.isAbsolute
  rw [outputPath, Path.child, Path.ofString, ofString_outputName p hst,
    Path.join_slash _ isSegment_outputDir hfile]
  rfl

theorem components_bin (hr : r.Sound) (hp : p ∈ r.programs) :
    (pl.bin p).components = pl.layout.benchRoot.components ++
      [.name (Bytes.ofString p.name), .name (Bytes.ofString Stage.outputDir)] := by
  have hbin : (pl.bin p).components =
      (pl.dir p).components ++ [.name (Bytes.ofString Stage.outputDir)] :=
    Path.components_join_segment _ isSegment_outputDir
  rw [hbin, dir, hr.components_programDir pl.layout hp, List.append_assoc]
  rfl

/-- **The steps to an output.** -/
theorem components_outputPath (hr : r.Sound) (ho : o ∈ r.outputs) :
    (pl.outputPath o.1 o.2).components = pl.layout.benchRoot.components ++
      [.name (Bytes.ofString o.1.name), .name (Bytes.ofString Stage.outputDir),
        .name (o.1.outputFile o.2)] := by
  obtain ⟨hp, hst⟩ := Registry.mem_outputs.1 ho
  have hfault := hr.fault?_eq_none hp
  rw [pl.outputPath_eq hfault hst,
    Path.components_join_segment _ (Program.isSegment_outputFile hfault o.2),
    pl.components_bin hr hp, List.append_assoc]
  rfl

theorem isChildOf_bin (hr : r.Sound) (ho : o ∈ r.outputs) :
    (pl.outputPath o.1 o.2).IsChildOf (pl.bin o.1) := by
  obtain ⟨hp, hst⟩ := Registry.mem_outputs.1 ho
  have hfault := hr.fault?_eq_none hp
  rw [pl.outputPath_eq hfault hst]
  exact Path.isChildOf_join _ (Program.isSegment_outputFile hfault o.2)

/-- An output is deeper down than what stands in the directory of any program. -/
theorem not_isChildOf_dir (hr : r.Sound) (ho : o ∈ r.outputs) (hq : q ∈ r.programs) :
    ¬(pl.outputPath o.1 o.2).IsChildOf (pl.dir q) := by
  intro hchild
  have hsteps := (pl.isChildOf_bin hr ho).components_eq hchild
  rw [pl.components_bin hr (Registry.mem_outputs.1 ho).1, dir,
    hr.components_programDir pl.layout hq] at hsteps
  exact absurd (congrArg List.length hsteps) (by simp)

/-- **The outputs of a suite have paths of their own.** -/
theorem nodup_outputs (hr : r.Sound) :
    (r.outputs.map fun o => (pl.outputPath o.1 o.2).components).Nodup := by
  have hstages : Stage.writing.Nodup := by decide
  refine (hr.names.of_map.product hstages).map_on fun o ho o' ho' h => ?_
  rw [pl.components_outputPath hr ho, pl.components_outputPath hr ho'] at h
  have hsteps := List.append_cancel_left h
  simp only [List.cons.injEq, Component.name.injEq, and_true, true_and] at hsteps
  exact hr.output_ext ho ho' hsteps.1 hsteps.2

end Pipeline

/-! ### Sources -/

/-- No name of a file has a slash in it. -/
def FileSystem.WellNamed (fs : FileSystem) : Prop :=
  ∀ entry ∈ fs.entries, ∀ name ∈ entry.1, Bytes.slash ∉ name

namespace FileSystem

variable {fs : FileSystem}

theorem WellNamed.no_slash (h : fs.WellNamed) {current : Location} {dir : Path}
    {names : List Bytes} (hlist : fs.list current dir = .ok names) {name : Bytes}
    (hname : name ∈ names) : Bytes.slash ∉ name := by
  rw [list_eq] at hlist
  split at hlist
  · next R t hdir =>
    cases hlist
    obtain ⟨node, hnode⟩ := Option.ne_none_iff_exists'.1 (mem_children.1 hname)
    obtain ⟨node', hentry, -⟩ := mem_entries_of_node? (by simp) hnode
    exact h _ hentry name (by simp)
  · cases hlist
  · cases hlist

end FileSystem

namespace Program

variable {p : Program} {w : World} {dir : Path} {s : String}

/-- A text is found among the sources of a program. -/
def Finds (p : Program) (w : World) (dir : Path) (s : String) : Prop :=
  ∃ sources, p.findSources w dir = .ok sources ∧ s ∈ sources

theorem Finds.isSource (h : p.Finds w dir s) :
    ∃ names, w.files.list w.current dir = .ok names ∧ p.IsSource w dir names s := by
  obtain ⟨sources, hfound, hs⟩ := h
  cases hlist : w.files.list w.current dir with
  | error cause =>
    rw [findSources, hlist] at hfound
    cases hfound
  | ok names =>
    obtain ⟨rfl, -⟩ := (findSources_eq_ok_iff hlist).1 hfound
    exact ⟨names, rfl, mem_selectSources.1 hs⟩

/-- A source has a dot in its name. -/
theorem Finds.dot_mem (h : p.Finds w dir s) : Bytes.dot ∈ Bytes.ofString s := by
  obtain ⟨names, -, hsource⟩ := h.isSource
  obtain ⟨ext, -, stem, -, -, hname⟩ := hsource.ending
  rw [hname]
  simp

/-- The name of a source is the name of a file. -/
theorem Finds.isSegment (h : p.Finds w dir s) (hw : w.files.WellNamed) :
    IsSegment (Bytes.ofString s) := by
  obtain ⟨names, hlist, hsource⟩ := h.isSource
  obtain ⟨ext, hext, stem, hstem, -, hname⟩ := hsource.ending
  have hne : Bytes.ofString ext ≠ [] := fun hnil =>
    ne_empty_of_mem_sourceExtensions hext (Bytes.ofString_injective hnil)
  -- something stands on both sides of the dot
  have hlength : 2 < (Bytes.ofString s).length := by
    have hfront := List.length_pos_iff.2 hstem
    have hback := List.length_pos_iff.2 hne
    rw [hname, List.length_append, List.length_cons]
    omega
  refine ⟨⟨?_, ?_, ?_⟩, hw.no_slash hlist hsource.listed⟩ <;>
    · intro heq
      simp [heq] at hlength

end Program

/-! ### Steps -/

/-- A command whose tool writes no file but the one that the command names as its
output. -/
structure Command.Framed (c : Command) (tools : Tools) : Prop where
  frame : ∀ w loc, w.files.locate w.current c.output true ≠ .ok loc →
    (tools c w).2.files.node? loc = w.files.node? loc
  current : ∀ w, (tools c w).2.current = w.current

theorem Command.Confined.framed {tools : Tools} {c : Command} {inputs : List Path}
    {reply : List (Option Node) → Reply} (h : c.Confined tools inputs reply) : c.Framed tools :=
  ⟨h.frame, h.current⟩

namespace Step

variable {s : Step} {tools : Tools} {w c : World} {x : Location}

section

variable (name : String) (ht : s.command.Framed tools)
include ht

theorem current_run : (deed (s.run tools name) w).world.current = w.current := by
  rw [deed_run]
  cases hclear : w.cleared s.output with
  | error cause => rfl
  | ok c => exact (ht.current c).trans (World.current_of_cleared hclear)

variable (houtput : s.command.output = s.output)
include houtput

/-- The tool writes where the output was cleared, if anywhere. -/
theorem node?_of_cleared (hclear : w.cleared s.output = .ok c)
    (hx : w.files.locate w.current s.output false ≠ .ok x) :
    (deed (s.run tools name) w).world.files.node? x = c.files.node? x := by
  rw [deed_run, hclear]
  refine ht.frame c x fun hwritten => ?_
  rw [houtput] at hwritten
  exact hx (World.locate_of_cleared hclear hwritten)

/-- Nothing changes but what stands at the output of a step, and its directory. -/
theorem node?_run
    (hx : ∀ loc, w.files.locate w.current s.output false = .ok loc → x ≠ loc ∧ x ≠ loc.dropLast) :
    (deed (s.run tools name) w).world.files.node? x = w.files.node? x := by
  cases hclear : w.cleared s.output with
  | error cause =>
    rw [deed_run, hclear]
    rfl
  | ok c =>
    rw [node?_of_cleared name ht houtput hclear fun hloc => (hx x hloc).1 rfl]
    by_cases hloc : ∃ loc, w.files.locate w.current s.output false = .ok loc
    · obtain ⟨loc, hloc⟩ := hloc
      exact (World.emptied_of_cleared hclear hloc).same x (hx loc hloc).1 (hx loc hloc).2
    · rw [World.eq_of_cleared hclear (not_exists.1 hloc)]

/-- A step makes no link but at its output. -/
theorem hasNoLink_run (hx : w.files.locate w.current s.output false ≠ .ok x)
    (hl : w.files.HasNoLink x) : (deed (s.run tools name) w).world.files.HasNoLink x := by
  cases hclear : w.cleared s.output with
  | error cause =>
    rw [deed_run, hclear]
    exact hl
  | ok c =>
    intro target
    rw [node?_of_cleared name ht houtput hclear hx]
    exact World.hasNoLink_of_cleared hclear hl target

end

end Step

/-- What stands where a path leads on one machine stands there on the other, too. -/
def World.Keeps (w w' : World) (path : Path) : Prop :=
  ∀ x, w.files.locate w.current path false = .ok x → w'.files.node? x = w.files.node? x

namespace Pipeline

variable {pl : Pipeline} {r : Registry} {p q : Program} {o o' : Program × Stage} {w : World}
  {tools : Tools} {x R : Location} {s : String}

/-- A machine on which the directories of some programs, and their output
directories, are no links. -/
def Unlinked (pl : Pipeline) (programs : List Program) (w : World) : Prop :=
  ∀ p ∈ programs, ∀ R, pl.RootAt w R →
    w.files.HasNoLink (R ++ [Bytes.ofString p.name]) ∧
      w.files.HasNoLink (binPlace (R ++ [Bytes.ofString p.name]))

/-- The place of an output, given the root of its suite. -/
def outputPlace (R : Location) (o : Program × Stage) : Location :=
  binPlace (R ++ [Bytes.ofString o.1.name]) ++ [o.1.outputFile o.2]

theorem length_outputPlace (R : Location) (o : Program × Stage) :
    (outputPlace R o).length = R.length + 3 := by
  simp [outputPlace, binPlace]

theorem outputPlace_ne_binPlace (R : Location) (o : Program × Stage) (p : Program) :
    outputPlace R o ≠ binPlace (R ++ [Bytes.ofString p.name]) := by
  intro heq
  exact absurd (congrArg List.length heq) (by simp [length_outputPlace, binPlace])

/-- Different outputs have different places. -/
theorem outputPlace_inj (hr : r.Sound) (ho : o ∈ r.outputs) (ho' : o' ∈ r.outputs)
    (h : outputPlace R o = outputPlace R o') : o = o' := by
  rw [outputPlace, outputPlace, binPlace, binPlace] at h
  simp only [List.append_assoc, List.append_cancel_left_eq, List.cons_append, List.nil_append,
    List.cons.injEq, and_true, true_and] at h
  exact hr.output_ext ho ho' h.1 h.2

/-- Where the path of an output leads. -/
theorem eq_of_locate_output (hr : r.Sound) (hw : pl.Unlinked r.programs w) (ho : o ∈ r.outputs)
    (h : w.files.locate w.current (pl.outputPath o.1 o.2) false = .ok x) :
    ∃ R, pl.RootAt w R ∧ x = outputPlace R o := by
  obtain ⟨hp, hst⟩ := Registry.mem_outputs.1 ho
  have hfault := hr.fault?_eq_none hp
  have hwalk := FileSystem.walk_of_locate h
  rw [(last_outputPath hfault hst).2, startOf_outputPath _ hst, names_outputPath pl hfault hst]
    at hwalk
  obtain ⟨B, hB, hx⟩ :=
    FileSystem.walk_of_snoc (Program.isSegment_outputFile hfault o.2).toIsName hwalk
  rw [startOf_bin, names_bin] at hB
  obtain ⟨D, hD, hlast⟩ := FileSystem.walk_of_snoc isSegment_outputDir.toIsName hB
  obtain ⟨R, hR, rfl⟩ := walk_dir_below hfault (fun R hR => (hw _ hp R hR).1) hD
  obtain rfl := hlast fun _ => (hw _ hp R hR).2
  exact ⟨R, hR, hx (by simp)⟩

/-- The place of a source, given the root of its suite. -/
def sourcePlace (R : Location) (q : Program) (s : String) : Location :=
  R ++ [Bytes.ofString q.name] ++ [Bytes.ofString s]

theorem sourcePlace_ne_outputPlace (R : Location) (q : Program) (s : String)
    (o : Program × Stage) : sourcePlace R q s ≠ outputPlace R o := by
  intro heq
  exact absurd (congrArg List.length heq) (by simp [sourcePlace, length_outputPlace])

/-- The output directory has no dot in its name. -/
theorem sourcePlace_ne_binPlace {dir : Path} (hs : q.Finds w dir s) (R : Location) (p : Program) :
    sourcePlace R q s ≠ binPlace (R ++ [Bytes.ofString p.name]) := by
  intro heq
  have hname := List.append_inj_right' heq rfl
  have hdot := hs.dot_mem
  rw [List.singleton_inj.1 hname] at hdot
  exact absurd hdot (by decide)

/-- Where the path of a source leads; the source itself may be a link. -/
theorem eq_of_locate_source (hr : r.Sound) (hw : pl.Unlinked r.programs w) (hq : q ∈ r.programs)
    (hs : IsSegment (Bytes.ofString s))
    (h : w.files.locate w.current ((pl.dir q).child s) false = .ok x) :
    ∃ R, pl.RootAt w R ∧ x = sourcePlace R q s := by
  have hwalk := FileSystem.walk_of_locate h
  have habs := hs.isStep.isAbsolute
  rw [Path.child, Path.ofString, Path.endsWithSlash_join_isStep _ hs.isStep, FileSystem.startOf,
    Path.isAbsolute_join _ habs, ← FileSystem.startOf, Path.names_join _ habs,
    Path.names_of_isSegment hs] at hwalk
  obtain ⟨D, hD, hx⟩ := FileSystem.walk_of_snoc hs.toIsName hwalk
  obtain ⟨R, hR, rfl⟩ :=
    walk_dir_below (hr.fault?_eq_none hq) (fun R hR => (hw _ hq R hR).1) hD
  exact ⟨R, hR, hx (by simp)⟩

section

variable (hr : r.Sound) (hw : pl.Unlinked r.programs w) (ho : o ∈ r.outputs)
  (sources : List String) (ht : (pl.step o.1 sources o.2).command.Framed tools)
include hr hw ho ht

/-- A step changes nothing but its output and the directory of that. -/
theorem node?_step (hR : pl.RootAt w R) (houtput : x ≠ outputPlace R o)
    (hbin : x ≠ binPlace (R ++ [Bytes.ofString o.1.name])) :
    (deed ((pl.step o.1 sources o.2).run tools o.1.name) w).world.files.node? x =
      w.files.node? x := by
  refine Step.node?_run _ ht (pl.output_step o.1 sources (Registry.mem_outputs.1 ho).2) ?_
  intro loc hloc
  obtain ⟨R', hR', rfl⟩ := eq_of_locate_output hr hw ho hloc
  obtain rfl := hR'.eq hR
  refine ⟨houtput, ?_⟩
  rwa [outputPlace, List.dropLast_concat]

/-- **A step keeps every other output.** -/
theorem keeps_output (ho' : o' ∈ r.outputs) (hne : o' ≠ o) :
    w.Keeps (deed ((pl.step o.1 sources o.2).run tools o.1.name) w).world
      (pl.outputPath o'.1 o'.2) := by
  intro x hx
  obtain ⟨R, hR, rfl⟩ := eq_of_locate_output hr hw ho' hx
  exact node?_step hr hw ho sources ht hR (fun heq => hne (outputPlace_inj hr ho' ho heq))
    (outputPlace_ne_binPlace R o' o.1)

/-- **A step keeps every source.** -/
theorem keeps_source (hnamed : w.files.WellNamed) (hq : q ∈ r.programs)
    (hs : q.Finds w (pl.dir q) s) :
    w.Keeps (deed ((pl.step o.1 sources o.2).run tools o.1.name) w).world
      ((pl.dir q).child s) := by
  intro x hx
  obtain ⟨R, hR, rfl⟩ := eq_of_locate_source hr hw hq (hs.isSegment hnamed) hx
  exact node?_step hr hw ho sources ht hR (sourcePlace_ne_outputPlace R q s o)
    (sourcePlace_ne_binPlace hs R o.1)

end

end Pipeline

end GuardCost
