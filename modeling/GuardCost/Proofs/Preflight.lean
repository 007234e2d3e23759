/-
GuardCost/Proofs/Preflight.lean

What is checked before a build.  A pipeline needs some directories and files
(`Pipeline.needs`), and its check is the check of these needs one after the other:

    validate = Need.check needs,

which passes if and only if all of them are met, and otherwise names the first
one that is not (`check_eq_ok_iff`, `check_eq_error_iff`).

Every word of a planned command past its tool is an option, a flag or a source of
the program, the output of a stage, or else names something outside of the
directories of the programs (`word_of_mem_arguments`).  What is named there is among
the needs, with one exception: the marker source, which every module is compiled
with, is not looked for (`validate_misses_marker`).
-/
import GuardCost.Proofs.StaleOutputs
import Mathlib

namespace GuardCost

/-! ### Needs -/

/-- A directory or a file that a build cannot do without. -/
inductive Need where
  | directory (path : Path)
  | file (path : Path)
  deriving DecidableEq, Repr

namespace Need

/-- Whether it is there. -/
def isMet (w : World) : Need → Bool
  | directory path => w.files.isDirectory w.current path
  | file path => w.files.isFile w.current path

/-- The error that names it. -/
def error : Need → ConfigError
  | directory path => .missingDirectory path
  | file path => .missingFile path

/-- Check needs in order. -/
def check (w : World) (needs : List Need) : Except ConfigError Unit :=
  match needs.find? fun n => !n.isMet w with
  | some n => .error n.error
  | none => .ok ()

variable {w : World}

theorem check_cons (n : Need) (needs : List Need) :
    check w (n :: needs) = if n.isMet w then check w needs else .error n.error := by
  unfold check
  rw [List.find?_cons]
  cases n.isMet w <;> rfl

theorem check_append (needs more : List Need) :
    check w (needs ++ more) = check w needs >>= fun _ => check w more := by
  unfold check
  rw [List.find?_append]
  cases needs.find? fun n => !n.isMet w <;> rfl

theorem check_eq_ok_iff {needs : List Need} :
    check w needs = .ok () ↔ ∀ n ∈ needs, n.isMet w = true := by
  have hnone : (needs.find? fun n => !n.isMet w) = none ↔ ∀ n ∈ needs, n.isMet w = true := by
    simp
  rw [← hnone, check]
  cases needs.find? fun n => !n.isMet w <;> simp

theorem check_eq_error_iff {needs : List Need} {e : ConfigError} :
    check w needs = .error e ↔ ∃ before n after, needs = before ++ n :: after ∧
      (∀ m ∈ before, m.isMet w = true) ∧ n.isMet w = false ∧ e = n.error := by
  have hsome : ∀ n, (needs.find? fun n => !n.isMet w) = some n ↔
      n.isMet w = false ∧ ∃ before after, needs = before ++ n :: after ∧
        ∀ m ∈ before, m.isMet w = true := by
    intro n
    rw [List.find?_eq_some_iff_append]
    simp
  unfold check
  constructor
  · intro h
    cases hfind : needs.find? fun n => !n.isMet w with
    | none =>
      rw [hfind] at h
      cases h
    | some n =>
      rw [hfind] at h
      cases h
      obtain ⟨hunmet, before, after, heq, hmet⟩ := (hsome n).1 hfind
      exact ⟨before, n, after, heq, hmet, hunmet, rfl⟩
  · rintro ⟨before, n, after, heq, hmet, hunmet, rfl⟩
    rw [(hsome n).2 ⟨hunmet, before, after, heq, hmet⟩]

end Need

/-! ### What a pipeline needs -/

/-- The directories that a layout is to have. -/
def Layout.needs (l : Layout) : List Need := [.directory l.benchRoot, .directory l.runtimeDir]

/-- The compiler, if it is not a bare name, and its system root. -/
def Toolchain.needs (t : Toolchain) : List Need :=
  (if t.wasmCc.hasDirectoryPart then [.file t.wasmCc] else []) ++ [.directory t.wasmSysroot]

namespace Pipeline

/-- What the check of a pipeline looks for, in order. -/
def needs (pl : Pipeline) : List Need :=
  pl.layout.needs ++ (pl.toolchain.needs ++
    (pl.plan.variants.flatMap pl.layout.runtimeSources).map .file)

end Pipeline

variable (w : World)

theorem Layout.validate_eq (l : Layout) : l.validate w = Need.check w l.needs := by
  have hfind : l.validate w =
      if w.files.isDirectory w.current l.benchRoot then
        if w.files.isDirectory w.current l.runtimeDir then .ok ()
        else .error (.missingDirectory l.runtimeDir)
      else .error (.missingDirectory l.benchRoot) := by
    unfold Layout.validate
    rw [List.find?_cons, List.find?_cons]
    cases w.files.isDirectory w.current l.benchRoot <;>
      cases w.files.isDirectory w.current l.runtimeDir <;> rfl
  rw [hfind, Layout.needs, Need.check_cons, Need.check_cons]
  rfl

theorem Layout.validate_eq_ok_iff {l : Layout} :
    l.validate w = .ok () ↔ ∀ n ∈ l.needs, n.isMet w = true := by
  rw [Layout.validate_eq]
  exact Need.check_eq_ok_iff

theorem Layout.validate_eq_error_iff {l : Layout} {e : ConfigError} :
    l.validate w = .error e ↔ ∃ before n after, l.needs = before ++ n :: after ∧
      (∀ m ∈ before, m.isMet w = true) ∧ n.isMet w = false ∧ e = n.error := by
  rw [Layout.validate_eq]
  exact Need.check_eq_error_iff

theorem Toolchain.validate_eq (t : Toolchain) : t.validate w = Need.check w t.needs := by
  have hsysroot : Need.check w [.directory t.wasmSysroot] =
      if !w.files.isDirectory w.current t.wasmSysroot then .error (.missingDirectory t.wasmSysroot)
      else .ok () := by
    rw [Need.check_cons, Need.isMet]
    cases w.files.isDirectory w.current t.wasmSysroot <;> rfl
  rw [Toolchain.validate, Toolchain.needs, Need.check_append, hsysroot]
  cases t.wasmCc.hasDirectoryPart with
  | false => rfl
  | true =>
    rw [if_pos rfl, Need.check_cons, Need.isMet]
    cases w.files.isFile w.current t.wasmCc <;> rfl

/-- **The check of a pipeline is the check of its needs in order.** -/
theorem Pipeline.validate_eq (pl : Pipeline) : pl.validate w = Need.check w pl.needs := by
  have hunmet : (fun n => !Need.isMet w n) ∘ Need.file =
      fun source => !w.files.isFile w.current source := rfl
  rw [needs, Need.check_append, Need.check_append, ← Layout.validate_eq, ← Toolchain.validate_eq]
  unfold validate Need.check
  rw [List.find?_map, hunmet]
  cases (pl.plan.variants.flatMap pl.layout.runtimeSources).find? fun source =>
    !w.files.isFile w.current source <;> rfl

theorem Pipeline.validate_eq_ok_iff {pl : Pipeline} :
    pl.validate w = .ok () ↔ ∀ n ∈ pl.needs, n.isMet w = true := by
  rw [Pipeline.validate_eq]
  exact Need.check_eq_ok_iff

theorem Pipeline.validate_eq_error_iff {pl : Pipeline} {e : ConfigError} :
    pl.validate w = .error e ↔ ∃ before n after, pl.needs = before ++ n :: after ∧
      (∀ m ∈ before, m.isMet w = true) ∧ n.isMet w = false ∧ e = n.error := by
  rw [Pipeline.validate_eq]
  exact Need.check_eq_error_iff

/-! ### The words of the planned commands -/

namespace Pipeline

variable (pl : Pipeline) (p : Program)

/-- The options of a stage's command. -/
def options : Stage → List String
  | .sources => []
  | .native => ["-lm", "-o"] ++ pl.toolchain.optimising p
  | .wasm =>
    [Toolchain.linkerOptions p.stackSize, "--target=wasm32-unknown-unknown-wasm",
      "-nostartfiles", "-O3", "-flto", "-o"]
  | .bytecode _ =>
    ["-u", "-o"] ++ (pl.toolchain.target?.map fun target => ["--target", target.text]).getD []
  | .variant _ =>
    ["-lm", "-o"] ++ pl.toolchain.optimising p ++
      (pl.toolchain.target?.map fun target => ["-target", target.text]).getD []

/-- The words of a stage's command that are given by the program or by the
stages: options, flags and sources, the output, and that of an earlier stage. -/
def innerWords (sources : List String) (stage : Stage) : List String :=
  pl.options p stage ++ p.flags ++ sources ++
    (stage :: stage.chained?.toList).map (·.outputName p.name)

/-- The marker source. -/
def marker : Need := .file (pl.layout.benchRoot.child "dummy.c")

/-- What the words of a stage's command name outside of the directories of the
programs: each such word, and what is to be there. -/
def outerWords : Stage → List (Bytes × Need)
  | .sources => []
  | .native => []
  | .wasm =>
    (if pl.toolchain.wasmCc.hasDirectoryPart then
      [(pl.toolchain.wasmCc.bytes, .file pl.toolchain.wasmCc)] else []) ++
    [(Bytes.ofString "--sysroot=" ++ pl.toolchain.wasmSysroot.bytes,
        .directory pl.toolchain.wasmSysroot),
      (Bytes.ofString Toolchain.markerSource, pl.marker)]
  | .bytecode _ => []
  | .variant v => (pl.layout.runtimeSources v).map fun source => (source.bytes, .file source)

/-- Every word of a command but the tool is given by the program or by the
stages, or names something outside. -/
theorem word_of_mem_arguments (sources : List String) {stage : Stage} {word : Bytes}
    (h : word ∈ (pl.step p sources stage).command.arguments) :
    word ∈ Toolchain.wordsOf (pl.innerWords p sources stage) ∨
      ∃ n, (word, n) ∈ pl.outerWords stage := by
  cases stage with
  | sources => cases h
  | native =>
    left
    simp only [step, stageCommand, Toolchain.nativeCommand, Toolchain.wordsOf, innerWords, options,
      List.map_append, List.map_cons, List.map_nil, List.mem_append, List.mem_cons] at h ⊢
    tauto
  | wasm =>
    -- two words are not given as text by the program: the marker source and the system root
    by_cases hmarker : word = Bytes.ofString Toolchain.markerSource
    · right
      exact ⟨pl.marker, by simp [outerWords, hmarker]⟩
    by_cases hsysroot : word = Bytes.ofString "--sysroot=" ++ pl.toolchain.wasmSysroot.bytes
    · right
      exact ⟨.directory pl.toolchain.wasmSysroot, by simp [outerWords, hsysroot]⟩
    left
    simp only [step, stageCommand, Toolchain.wasmCommand, Toolchain.wordsOf, innerWords, options,
      List.map_append, List.map_cons, List.map_nil, List.mem_append, List.mem_cons,
      List.not_mem_nil, hmarker, hsysroot] at h ⊢
    tauto
  | bytecode flavor =>
    left
    simp only [step, stageCommand, Toolchain.bytecodeCommand, Toolchain.wordsOf, innerWords,
      options, Stage.chained?, List.map_append, List.map_cons, List.map_nil, List.mem_append,
      List.mem_cons, Option.toList_some] at h ⊢
    cases flavor <;>
      simp only [reduceCtorEq, if_true, if_false, List.map_cons, List.map_nil, List.mem_cons,
        List.not_mem_nil] at h ⊢ <;>
      tauto
  | variant v =>
    by_cases hsource : ∃ source ∈ pl.layout.runtimeSources v, source.bytes = word
    · obtain ⟨source, hmem, rfl⟩ := hsource
      right
      exact ⟨.file source, List.mem_map_of_mem hmem⟩
    · left
      have hsource' : word ∉ (pl.layout.runtimeSources v).map Path.bytes := by
        simpa using hsource
      simp only [step, stageCommand, Toolchain.variantCommand, Toolchain.wordsOf, innerWords,
        options, Stage.chained?, List.map_append, List.map_cons, List.map_nil, List.mem_append,
        List.mem_cons, Option.toList_some, hsource'] at h ⊢
      tauto

/-- A word that names something outside is a word of the command. -/
theorem mem_words_of_outerWords (sources : List String) {stage : Stage} {word : Bytes} {n : Need}
    (h : (word, n) ∈ pl.outerWords stage) :
    word ∈ (pl.step p sources stage).command.words := by
  cases stage with
  | sources => cases h
  | native => cases h
  | wasm =>
    rcases List.mem_append.1 h with htool | h
    · split at htool
      · obtain ⟨rfl, -⟩ := Prod.mk.inj (List.mem_singleton.1 htool)
        exact List.mem_cons_self
      · cases htool
    · refine List.mem_cons_of_mem _ ?_
      simp only [List.mem_cons, Prod.mk.injEq, List.not_mem_nil, or_false] at h
      show word ∈ (Toolchain.wasmCommand ..).arguments
      rcases h with ⟨rfl, -⟩ | ⟨rfl, -⟩ <;>
        simp [Toolchain.wasmCommand, Toolchain.wordsOf]
  | bytecode flavor => cases h
  | variant v =>
    obtain ⟨source, hsource, heq⟩ := List.mem_map.1 h
    obtain ⟨rfl, -⟩ := Prod.mk.inj heq
    refine List.mem_cons_of_mem _ (List.mem_append_left _ (List.mem_append_right _ ?_))
    exact List.mem_map_of_mem hsource

/-- What a planned command names outside is among the needs, but for the marker
source. -/
theorem mem_needs_of_outerWords {stage : Stage} {word : Bytes} {n : Need}
    (hstage : stage ∈ pl.frontStages ++ pl.variantStages) (h : (word, n) ∈ pl.outerWords stage) :
    n ∈ pl.needs ∨ n = pl.marker := by
  cases stage with
  | sources => cases h
  | native => cases h
  | wasm =>
    rcases List.mem_append.1 h with htool | h
    · split at htool
      · next hpart =>
        obtain ⟨-, rfl⟩ := Prod.mk.inj (List.mem_singleton.1 htool)
        left
        simp [needs, Toolchain.needs, hpart]
      · cases htool
    · simp only [List.mem_cons, Prod.mk.injEq, List.not_mem_nil, or_false] at h
      rcases h with ⟨-, rfl⟩ | ⟨-, rfl⟩
      · left
        simp [needs, Toolchain.needs]
      · exact .inr rfl
  | bytecode flavor => cases h
  | variant v =>
    left
    obtain ⟨source, hsource, heq⟩ := List.mem_map.1 h
    obtain ⟨-, rfl⟩ := Prod.mk.inj heq
    have hv : v ∈ pl.plan.variants := by
      rcases List.mem_append.1 hstage with hfront | hvariant
      · exact absurd rfl (pl.not_variant_of_mem_front (List.mem_cons_of_mem _ hfront) v)
      · unfold variantStages at hvariant
        split at hvariant
        · cases hvariant
        · simpa using hvariant
    refine List.mem_append_right _ (List.mem_append_right _ ?_)
    exact List.mem_map_of_mem (List.mem_flatMap.2 ⟨v, hv, hsource⟩)

/-- **The check of a pipeline covers all that its commands name outside of the
programs, but for the marker source.**  It passes if and only if every need is
met, and otherwise names the first that is not. -/
theorem validate_covers_all_but_marker (w : World) :
    (pl.validate w = .ok () ↔ ∀ n ∈ pl.needs, n.isMet w = true) ∧
    (∀ e, pl.validate w = .error e ↔ ∃ before n after, pl.needs = before ++ n :: after ∧
      (∀ m ∈ before, m.isMet w = true) ∧ n.isMet w = false ∧ e = n.error) ∧
    ∀ (p : Program) (sources : List String), ∀ stage ∈ pl.frontStages ++ pl.variantStages,
      (∀ word ∈ (pl.step p sources stage).command.arguments,
        word ∈ Toolchain.wordsOf (pl.innerWords p sources stage) ∨
          ∃ n, (word, n) ∈ pl.outerWords stage) ∧
      ∀ word n, (word, n) ∈ pl.outerWords stage →
        word ∈ (pl.step p sources stage).command.words ∧ (n ∈ pl.needs ∨ n = pl.marker) := by
  refine ⟨validate_eq_ok_iff w, fun _ => validate_eq_error_iff w, ?_⟩
  intro p sources stage hstage
  refine ⟨fun word hword => pl.word_of_mem_arguments p sources hword, fun word n hword => ?_⟩
  exact ⟨pl.mem_words_of_outerWords p sources hword, pl.mem_needs_of_outerWords hstage hword⟩

end Pipeline

namespace Sample

/-- The machine of the sample without the marker source. -/
def unmarked : World :=
  { world with files := .ofEntries (entries.filter (·.1 ≠ location ["b", "dummy.c"]) ++
    [(location ["w"], .directory 0)]) }

/-- The check passes on a machine without the marker source, which the wasm
command names. -/
theorem validate_misses_marker :
    pipeline.validate unmarked = .ok () ∧ .wasm ∈ pipeline.frontStages ∧
      (Bytes.ofString Toolchain.markerSource, pipeline.marker) ∈ pipeline.outerWords .wasm ∧
      Bytes.ofString Toolchain.markerSource ∈
        (pipeline.step { name := "a" } ["m.c"] .wasm).command.words ∧
      pipeline.marker.isMet unmarked = false := by
  refine ⟨?_, ?_, ?_, ?_, ?_⟩
  · cbv
  · decide
  · decide
  · decide
  · cbv

end Sample

end GuardCost
