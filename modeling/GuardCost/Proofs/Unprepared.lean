/-
GuardCost/Proofs/Unprepared.lean

Builds and runs that cannot be prepared.  A preparation goes through eight steps,
each of which can be where it ends: the suite is read and narrowed, the layout is
made absolute and looked for, the lowering tool is chosen and looked for, the
other tools are made absolute, and what the pipeline needs is looked for.
`Hindrance` lists what can be in the way, with the error that is given for it:

    prepare = error e  ↔  Hindrance e            (prepare_eq_error_iff)

A path has no absolute form if it is empty, or if it is relative and nobody knows
the current directory (`Path.Unplaced`).  Of paths that are made absolute one after
the other, the first such path is the one in the way (`FirstUnplaced`); tools with
a bare name are not asked for theirs.

A command line that cannot be prepared says so in two notices and ends with one;
the machine stays as it is and nothing is started (`unprepared_leaves_machine`).
-/
import GuardCost.Proofs.CompileOnly
import GuardCost.Proofs.Preflight
import GuardCost.Proofs.SoundSuites

namespace GuardCost

/-! ### Suites -/

namespace Registry

/-- A text is read from a file. -/
structure Reads (w : World) (path : Path) (content : Bytes) (text : String) : Prop where
  read : w.files.read w.current path = .ok content
  decode : Bytes.decode? content = some text

/-- What can be wrong with a file that a suite is read from. -/
inductive LoadFault (w : World) (path : Path) : ConfigError → Prop
  | unreadable {cause : SystemError} : w.files.read w.current path = .error cause →
      LoadFault w path (.registryRead path cause)
  | notText {content : Bytes} : w.files.read w.current path = .ok content →
      Bytes.decode? content = none → LoadFault w path (.registryRead path .notText)
  | malformed {content : Bytes} {text : String} : Reads w path content text →
      Toml.parse? text = none → LoadFault w path (.registryParse path .malformed)
  | unfit {content : Bytes} {text : String} {entries : List (String × Toml.Value)}
      {fault : Toml.Fault} : Reads w path content text → Toml.parse? text = some entries →
      decodePrograms [] entries = .error fault →
        LoadFault w path (.registryParse path (.unfit fault))
  | offender {content : Bytes} {text : String} {entries : List (String × Toml.Value)}
      {before after : List Program} {p : Program} {e : ConfigError} : Reads w path content text →
      Toml.parse? text = some entries → decodePrograms [] entries = .ok (before ++ p :: after) →
      Sound ⟨before⟩ → p.Offends (before.map (·.name)) e → LoadFault w path e

variable {w : World} {path : Path} {e : ConfigError}

theorem load_eq_error_iff : load w path = .error e ↔ LoadFault w path e := by
  constructor
  · intro h
    unfold load at h
    split at h
    · next cause hread =>
      cases h
      exact .unreadable hread
    · next content hread =>
      split at h
      · next hdecode =>
        cases h
        exact .notText hread hdecode
      · next text hdecode =>
        have htext : Reads w path content text := ⟨hread, hdecode⟩
        unfold ofDocument at h
        split at h
        · next hparse =>
          cases h
          exact .malformed htext hparse
        · next entries hparse =>
          split at h
          · next fault hprograms =>
            cases h
            exact .unfit htext hparse hprograms
          · next programs hprograms =>
            obtain ⟨before, p, after, rfl, hsound, hoffends⟩ := ofPrograms_eq_error_iff.1 h
            exact .offender htext hparse hprograms hsound hoffends
  · intro h
    unfold load
    cases h with
    | unreadable hread => rw [hread]
    | notText hread hdecode => simp only [hread, hdecode]
    | malformed htext hparse => simp only [htext.read, htext.decode, ofDocument, hparse]
    | unfit htext hparse hprograms =>
      simp only [htext.read, htext.decode, ofDocument, hparse, hprograms]
    | offender htext hparse hprograms hsound hoffends =>
      simp only [htext.read, htext.decode, ofDocument, hparse, hprograms]
      exact ofPrograms_eq_error_iff.2 ⟨_, _, _, rfl, hsound, hoffends⟩

/-- A suite cannot be narrowed for the first name that no program has. -/
theorem retain_eq_error_iff {r : Registry} {names : List String} :
    r.retain names = .error e ↔ ∃ before name after, names = before ++ name :: after ∧
      (∀ known ∈ before, known ∈ r.names) ∧ name ∉ r.names ∧ e = .unknownProgram name := by
  have hnone : ∀ name, (r.find? name).isNone = true ↔ name ∉ r.names := by
    intro name
    simp [find?, Registry.names]
  have hsome : ∀ name, (names.find? fun name => (r.find? name).isNone) = some name ↔
      name ∉ r.names ∧ ∃ before after, names = before ++ name :: after ∧
        ∀ known ∈ before, known ∈ r.names := by
    intro name
    rw [List.find?_eq_some_iff_append, hnone]
    simp only [Bool.not_eq_true', ← Bool.not_eq_true, hnone, not_not]
  unfold retain
  constructor
  · intro h
    split at h
    · next name hfind =>
      cases h
      obtain ⟨hunknown, before, after, heq, hknown⟩ := (hsome name).1 hfind
      exact ⟨before, name, after, heq, hknown, hunknown, rfl⟩
    · cases h
  · rintro ⟨before, name, after, heq, hknown, hunknown, rfl⟩
    rw [(hsome name).2 ⟨hunknown, before, after, heq, hknown⟩]

end Registry

namespace Cli

/-- The suite that is asked for, before it is narrowed. -/
def SuiteOptions.whole (o : SuiteOptions) (w : World) : Except ConfigError Registry :=
  match o.programs? with
  | some path => Registry.load w path
  | none => .ok .standard

/-- What can be wrong with the suite that is asked for: its file, or a name that
it is to be narrowed to. -/
inductive SuiteFault (w : World) (o : SuiteOptions) : ConfigError → Prop
  | file {path : Path} {e : ConfigError} : o.programs? = some path →
      Registry.LoadFault w path e → SuiteFault w o e
  | unknownName {r : Registry} {before after : List String} {name : String} :
      o.whole w = .ok r → o.only = before ++ name :: after →
      (∀ known ∈ before, known ∈ r.names) → name ∉ r.names →
        SuiteFault w o (.unknownProgram name)

variable {w : World} {e : ConfigError}

theorem SuiteOptions.whole_eq_error_iff {o : SuiteOptions} :
    o.whole w = .error e ↔ ∃ path, o.programs? = some path ∧ Registry.LoadFault w path e := by
  unfold whole
  cases o.programs? with
  | none => simp
  | some path => simp [Registry.load_eq_error_iff]

theorem SuiteOptions.registry_eq_error_iff {o : SuiteOptions} :
    o.registry w = .error e ↔ SuiteFault w o e := by
  have hregistry : o.registry w = o.whole w >>= fun r =>
      if o.only = [] then .ok r else r.retain o.only := by
    unfold registry whole
    cases o.programs? <;> rfl
  rw [hregistry, bind_eq_error_iff, whole_eq_error_iff]
  constructor
  · rintro (⟨path, hpath, hfault⟩ | ⟨r, hr, h⟩)
    · exact .file hpath hfault
    · split at h
      · cases h
      · obtain ⟨before, name, after, heq, hknown, hunknown, rfl⟩ := Registry.retain_eq_error_iff.1 h
        exact .unknownName hr heq hknown hunknown
  · intro h
    cases h with
    | file hpath hfault => exact .inl ⟨_, hpath, hfault⟩
    | unknownName hr heq hknown hunknown =>
      have hne : o.only ≠ [] := by simp [heq]
      right
      refine ⟨_, hr, ?_⟩
      rw [if_neg hne]
      exact Registry.retain_eq_error_iff.2 ⟨_, _, _, heq, hknown, hunknown, rfl⟩

end Cli

/-! ### Paths -/

/-- Why a path has no absolute form, given what is known of the current directory. -/
inductive Path.Unplaced (current : Except SystemError Path) (p : Path) : SystemError → Prop
  | empty : p.bytes = [] → Unplaced current p .emptyPath
  | relative {cause : SystemError} : p.bytes ≠ [] → p.isAbsolute = false →
      current = .error cause → Unplaced current p cause

/-- Whether a path has an absolute form. -/
def Path.IsPlaced (current : Except SystemError Path) (p : Path) : Prop :=
  ∀ cause, ¬ p.Unplaced current cause

section
variable {current : Except SystemError Path} {p : Path} {e : ConfigError}

/-- Nothing else is in the way of an absolute form. -/
theorem Path.absolute_eq_error_iff {cause : SystemError} :
    p.absolute current = .error cause ↔ p.Unplaced current cause := by
  unfold Path.absolute
  constructor
  · intro h
    split at h
    · next hempty =>
      cases h
      exact .empty hempty
    · next hne =>
      -- only a relative path asks for the current directory
      cases habs : p.isAbsolute with
      | true =>
        rw [habs] at h
        cases h
      | false =>
        rw [habs] at h
        cases hcurrent : current with
        | ok here =>
          rw [hcurrent] at h
          cases h
        | error cause' =>
          rw [hcurrent] at h
          cases h
          exact .relative hne habs rfl
  · rintro (hempty | ⟨hne, hrelative, rfl⟩)
    · rw [if_pos hempty]
    · rw [if_neg hne, hrelative]
      rfl

theorem absolutePath_eq_error_iff :
    absolutePath current p = .error e ↔
      ∃ cause, p.Unplaced current cause ∧ e = .invalidPath p cause := by
  simp only [← Path.absolute_eq_error_iff]
  unfold absolutePath
  cases p.absolute current with
  | ok q => simp
  | error cause => simp [eq_comm]

theorem Path.IsPlaced.absolutePath (h : p.IsPlaced current) :
    ∃ q, GuardCost.absolutePath current p = .ok q := by
  cases hp : GuardCost.absolutePath current p with
  | ok q => exact ⟨q, rfl⟩
  | error e =>
    obtain ⟨cause, hunplaced, -⟩ := absolutePath_eq_error_iff.1 hp
    exact absurd hunplaced (h cause)

theorem Path.isPlaced_of_ok {q : Path} (h : GuardCost.absolutePath current p = .ok q) :
    p.IsPlaced current := by
  intro cause hunplaced
  rw [absolutePath_eq_error_iff.2 ⟨cause, hunplaced, rfl⟩] at h
  cases h

/-- Where the current directory is known, only the empty path has no absolute form. -/
theorem Path.isPlaced_of_ne (hp : p.bytes ≠ []) (here : Path) : p.IsPlaced (.ok here) := by
  rintro cause (hempty | ⟨-, -, h⟩)
  · exact hp hempty
  · cases h

theorem Path.isPlaced_of_isAbsolute (hp : p.isAbsolute = true) : p.IsPlaced current := by
  rintro cause (hempty | ⟨-, hrelative, -⟩)
  · rw [Path.isAbsolute, hempty] at hp
    cases hp
  · rw [hp] at hrelative
    cases hrelative

/-- Of paths that are made absolute one after the other, one has no absolute form, and
all before it have one. -/
def FirstUnplaced (current : Except SystemError Path) (paths : List Path) (e : ConfigError) :
    Prop :=
  ∃ before p after cause, paths = before ++ p :: after ∧ (∀ q ∈ before, q.IsPlaced current) ∧
    p.Unplaced current cause ∧ e = .invalidPath p cause

theorem not_firstUnplaced {paths : List Path} (h : ∀ p ∈ paths, p.IsPlaced current) :
    ¬ FirstUnplaced current paths e := by
  rintro ⟨before, p, after, cause, rfl, -, hunplaced, -⟩
  exact h p (by simp) cause hunplaced

theorem firstUnplaced_cons {paths : List Path} :
    FirstUnplaced current (p :: paths) e ↔
      (∃ cause, p.Unplaced current cause ∧ e = .invalidPath p cause) ∨
        p.IsPlaced current ∧ FirstUnplaced current paths e := by
  constructor
  · rintro ⟨before, q, after, cause, hsplit, hplaced, hunplaced, rfl⟩
    cases before with
    | nil =>
      obtain ⟨rfl, -⟩ := List.cons.inj hsplit
      exact .inl ⟨cause, hunplaced, rfl⟩
    | cons first rest =>
      obtain ⟨rfl, hrest⟩ := List.cons.inj hsplit
      obtain ⟨hfirst, hplaced⟩ := List.forall_mem_cons.1 hplaced
      exact .inr ⟨hfirst, rest, q, after, cause, hrest, hplaced, hunplaced, rfl⟩
  · rintro (⟨cause, hunplaced, rfl⟩ | ⟨hp, before, q, after, cause, rfl, hplaced, hunplaced, rfl⟩)
    · exact ⟨[], p, paths, cause, rfl, nofun, hunplaced, rfl⟩
    · exact ⟨p :: before, q, after, cause, rfl, List.forall_mem_cons.2 ⟨hp, hplaced⟩, hunplaced,
        rfl⟩

section
variable {α : Type} {paths : List Path} {f : Path → Except ConfigError α}

theorem absolutePath_bind_eq_error_iff (hf : ∀ q, f q = .error e ↔ FirstUnplaced current paths e) :
    (absolutePath current p >>= f) = .error e ↔ FirstUnplaced current (p :: paths) e := by
  rw [bind_eq_error_iff, absolutePath_eq_error_iff, firstUnplaced_cons]
  refine or_congr_right ⟨?_, ?_⟩
  · rintro ⟨q, hq, h⟩
    exact ⟨Path.isPlaced_of_ok hq, (hf q).1 h⟩
  · rintro ⟨hp, h⟩
    obtain ⟨q, hq⟩ := hp.absolutePath
    exact ⟨q, hq, (hf q).2 h⟩

/-- The path that is made absolute for a tool: none, if it is a bare name. -/
def Toolchain.asked (tool : Path) : List Path := if tool.hasDirectoryPart then [tool] else []

theorem absoluteTool_bind_eq_error_iff {tool : Path}
    (hf : ∀ q, f q = .error e ↔ FirstUnplaced current paths e) :
    (Toolchain.absoluteTool current tool >>= f) = .error e ↔
      FirstUnplaced current (Toolchain.asked tool ++ paths) e := by
  unfold Toolchain.absoluteTool Toolchain.asked
  split
  · exact absolutePath_bind_eq_error_iff hf
  · exact hf tool

end

/-- The directories of a layout, in the order in which they are made absolute. -/
def Layout.directories (l : Layout) : List Path :=
  [l.root, l.benchRoot, l.runtimeDir, l.wasmToolchain]

theorem Layout.absolute_eq_error_iff {l : Layout} :
    l.absolute current = .error e ↔ FirstUnplaced current l.directories e := by
  refine absolutePath_bind_eq_error_iff fun root => ?_
  refine absolutePath_bind_eq_error_iff fun benchRoot => ?_
  refine absolutePath_bind_eq_error_iff fun runtimeDir => ?_
  refine absolutePath_bind_eq_error_iff fun wasmToolchain => ?_
  exact ⟨nofun, fun h => absurd h (not_firstUnplaced (by simp))⟩

namespace Toolchain

/-- The paths of tools, in the order in which they are made absolute. -/
def paths (t : Toolchain) : List Path :=
  asked (.ofString t.cc) ++ (asked (.ofString t.cxx) ++
    (asked t.wasmCc ++ t.wasmSysroot :: (asked t.loweringTool ++ [])))

theorem absolute_eq_error_iff {t : Toolchain} :
    t.absolute current = .error e ↔ FirstUnplaced current t.paths e := by
  refine absoluteTool_bind_eq_error_iff fun cc => ?_
  refine absoluteTool_bind_eq_error_iff fun cxx => ?_
  refine absoluteTool_bind_eq_error_iff fun wasmCc => ?_
  refine absolutePath_bind_eq_error_iff fun wasmSysroot => ?_
  refine absoluteTool_bind_eq_error_iff fun loweringTool => ?_
  exact ⟨nofun, fun h => absurd h (not_firstUnplaced (by simp))⟩

end Toolchain

end

/-! ### The lowering tool -/

namespace ToolChoice

variable {w : World} {root : Path} {toolName : String} {e : ConfigError}

theorem ofFlags_eq_error_iff {release debug : Bool} {tool? : Option Path} :
    ofFlags release debug tool? = .error e ↔
      release = true ∧ debug = true ∧ e = .conflictingProfiles := by
  cases release <;> cases debug <;> cases tool? <;> simp [ofFlags, eq_comm]

/-- The file that is chosen, whether it exists or not. -/
def file (choice : ToolChoice) (w : World) (root : Path) (toolName : String) :
    Except ConfigError Path :=
  match choice with
  | explicit path => .ok path
  | release => .ok (releasePath root toolName)
  | debug => .ok (debugPath root toolName)
  | newest => newer w (releasePath root toolName) (debugPath root toolName)

/-- How no lowering tool is found: neither profile was built, or what is chosen is
no file, or a file whose path has no absolute form. -/
inductive Lacks (w : World) (root : Path) (toolName : String) (choice : ToolChoice) :
    ConfigError → Prop
  | unbuilt : choice = .newest → w.files.modified? w.current (releasePath root toolName) = none →
      w.files.modified? w.current (debugPath root toolName) = none →
        Lacks w root toolName choice
          (.noToolProfile (releasePath root toolName) (debugPath root toolName))
  | notFound {path : Path} : choice.file w root toolName = .ok path →
      w.files.isFile w.current path = false → Lacks w root toolName choice (.toolNotFound path)
  | unplaced {path : Path} {cause : SystemError} : choice.file w root toolName = .ok path →
      w.files.isFile w.current path = true → path.Unplaced w.currentPath cause →
        Lacks w root toolName choice (.invalidPath path cause)

theorem newer_eq_error_iff {first second : Path} :
    newer w first second = .error e ↔ w.files.modified? w.current first = none ∧
      w.files.modified? w.current second = none ∧ e = .noToolProfile first second := by
  unfold newer
  cases w.files.modified? w.current first <;> cases w.files.modified? w.current second <;>
    simp [eq_comm]

theorem file_eq_error_iff {choice : ToolChoice} :
    choice.file w root toolName = .error e ↔ choice = .newest ∧
      w.files.modified? w.current (releasePath root toolName) = none ∧
      w.files.modified? w.current (debugPath root toolName) = none ∧
      e = .noToolProfile (releasePath root toolName) (debugPath root toolName) := by
  cases choice <;> simp [file, newer_eq_error_iff]

theorem resolve_eq_error_iff {choice : ToolChoice} :
    choice.resolve w root toolName = .error e ↔ Lacks w root toolName choice e := by
  have hresolve : choice.resolve w root toolName =
      choice.file w root toolName >>= fun path =>
        if w.files.isFile w.current path then absolutePath w.currentPath path
        else .error (.toolNotFound path) := by
    cases choice <;> rfl
  rw [hresolve, bind_eq_error_iff, file_eq_error_iff]
  constructor
  · rintro (⟨hchoice, hrelease, hdebug, rfl⟩ | ⟨path, hpath, h⟩)
    · exact .unbuilt hchoice hrelease hdebug
    · split at h
      · next hfile =>
        obtain ⟨cause, hunplaced, rfl⟩ := absolutePath_eq_error_iff.1 h
        exact .unplaced hpath hfile hunplaced
      · next hfile =>
        cases h
        exact .notFound hpath (by simpa using hfile)
  · intro h
    cases h with
    | unbuilt hchoice hrelease hdebug => exact .inl ⟨hchoice, hrelease, hdebug, rfl⟩
    | notFound hpath hfile =>
      right
      refine ⟨_, hpath, ?_⟩
      rw [hfile]
      rfl
    | unplaced hpath hfile hunplaced =>
      right
      refine ⟨_, hpath, ?_⟩
      rw [hfile]
      exact absolutePath_eq_error_iff.2 ⟨_, hunplaced, rfl⟩

end ToolChoice

/-! ### Preparations -/

namespace Cli

/-- What can be in the way of a build or a run, with the error that is given for
it.  What comes first is in the way first. -/
inductive Hindrance (w : World) (suite : SuiteOptions) (host : HostOptions)
    (options : ToolOptions) : ConfigError → Prop
  | suite {e : ConfigError} : SuiteFault w suite e → Hindrance w suite host options e
  | path {r : Registry} {e : ConfigError} : suite.registry w = .ok r →
      FirstUnplaced w.currentPath options.layout.directories e → Hindrance w suite host options e
  | directory {r : Registry} {l : Layout} {before after : List Need} {n : Need} :
      suite.registry w = .ok r → options.layout.absolute w.currentPath = .ok l →
      l.needs = before ++ n :: after → (∀ m ∈ before, m.isMet w = true) → n.isMet w = false →
        Hindrance w suite host options n.error
  | profiles {r : Registry} {l : Layout} :
      suite.registry w = .ok r → options.layout.absolute w.currentPath = .ok l →
      (∀ n ∈ l.needs, n.isMet w = true) → options.release = true → options.debug = true →
        Hindrance w suite host options .conflictingProfiles
  | loweringTool {r : Registry} {l : Layout} {choice : ToolChoice} {e : ConfigError} :
      suite.registry w = .ok r → options.layout.absolute w.currentPath = .ok l →
      (∀ n ∈ l.needs, n.isMet w = true) →
      ToolChoice.ofFlags options.release options.debug options.tool? = .ok choice →
      choice.Lacks w l.root options.toolName e → Hindrance w suite host options e
  | toolPath {r : Registry} {l : Layout} {choice : ToolChoice} {tool : Path} {e : ConfigError} :
      suite.registry w = .ok r → options.layout.absolute w.currentPath = .ok l →
      (∀ n ∈ l.needs, n.isMet w = true) →
      ToolChoice.ofFlags options.release options.debug options.tool? = .ok choice →
      choice.resolve w l.root options.toolName = .ok tool →
      FirstUnplaced w.currentPath (options.toolchain l tool host.host.target?).paths e →
        Hindrance w suite host options e
  | input {r : Registry} {l : Layout} {choice : ToolChoice} {tool : Path} {t : Toolchain}
      {before after : List Need} {n : Need} :
      suite.registry w = .ok r → options.layout.absolute w.currentPath = .ok l →
      (∀ n ∈ l.needs, n.isMet w = true) →
      ToolChoice.ofFlags options.release options.debug options.tool? = .ok choice →
      choice.resolve w l.root options.toolName = .ok tool →
      (options.toolchain l tool host.host.target?).absolute w.currentPath = .ok t →
      (⟨l, t, .ofHost host.host, options.jobs⟩ : Pipeline).needs = before ++ n :: after →
      (∀ m ∈ before, m.isMet w = true) → n.isMet w = false →
        Hindrance w suite host options n.error

section

variable {w : World} {suite : SuiteOptions} {host : HostOptions} {options : ToolOptions}
  {e : ConfigError}

/-- **A preparation fails if and only if something is in the way.** -/
theorem prepare_eq_error_iff :
    prepare w suite host options = .error e ↔ Hindrance w suite host options e := by
  rw [prepare_eq]
  constructor
  · -- the chain is taken apart from the front; where it goes on, the step is a premise
    intro h
    rcases bind_eq_error_iff.1 h with h | ⟨r, hr, h⟩
    · exact .suite (SuiteOptions.registry_eq_error_iff.1 h)
    rcases bind_eq_error_iff.1 h with h | ⟨l, hl, h⟩
    · exact .path hr (Layout.absolute_eq_error_iff.1 h)
    rcases bind_eq_error_iff.1 h with h | ⟨_, hneeds, h⟩
    · obtain ⟨before, n, after, heq, hmet, hunmet, rfl⟩ := (Layout.validate_eq_error_iff w).1 h
      exact .directory hr hl heq hmet hunmet
    rw [Layout.validate_eq_ok_iff] at hneeds
    rcases bind_eq_error_iff.1 h with h | ⟨choice, hchoice, h⟩
    · obtain ⟨hrelease, hdebug, rfl⟩ := ToolChoice.ofFlags_eq_error_iff.1 h
      exact .profiles hr hl hneeds hrelease hdebug
    rcases bind_eq_error_iff.1 h with h | ⟨tool, htool, h⟩
    · exact .loweringTool hr hl hneeds hchoice (ToolChoice.resolve_eq_error_iff.1 h)
    rcases bind_eq_error_iff.1 h with h | ⟨t, ht, h⟩
    · exact .toolPath hr hl hneeds hchoice htool (Toolchain.absolute_eq_error_iff.1 h)
    rcases bind_eq_error_iff.1 h with h | ⟨_, -, h⟩
    · obtain ⟨before, n, after, heq, hmet, hunmet, rfl⟩ := (Pipeline.validate_eq_error_iff w).1 h
      exact .input hr hl hneeds hchoice htool ht heq hmet hunmet
    · cases h
  · intro h
    simp only [bind_eq_error_iff]
    cases h with
    | suite hfault => exact .inl (SuiteOptions.registry_eq_error_iff.2 hfault)
    | path hr hfirst => exact .inr ⟨_, hr, .inl (Layout.absolute_eq_error_iff.2 hfirst)⟩
    | directory hr hl heq hmet hunmet =>
      refine .inr ⟨_, hr, .inr ⟨_, hl, .inl ?_⟩⟩
      exact (Layout.validate_eq_error_iff w).2 ⟨_, _, _, heq, hmet, hunmet, rfl⟩
    | profiles hr hl hneeds hrelease hdebug =>
      rw [← Layout.validate_eq_ok_iff] at hneeds
      refine .inr ⟨_, hr, .inr ⟨_, hl, .inr ⟨_, hneeds, .inl ?_⟩⟩⟩
      exact ToolChoice.ofFlags_eq_error_iff.2 ⟨hrelease, hdebug, rfl⟩
    | loweringTool hr hl hneeds hchoice hlacks =>
      rw [← Layout.validate_eq_ok_iff] at hneeds
      refine .inr ⟨_, hr, .inr ⟨_, hl, .inr ⟨_, hneeds, .inr ⟨_, hchoice, .inl ?_⟩⟩⟩⟩
      exact ToolChoice.resolve_eq_error_iff.2 hlacks
    | toolPath hr hl hneeds hchoice htool hfirst =>
      rw [← Layout.validate_eq_ok_iff] at hneeds
      refine .inr ⟨_, hr, .inr ⟨_, hl, .inr ⟨_, hneeds, .inr ⟨_, hchoice, .inr
        ⟨_, htool, .inl ?_⟩⟩⟩⟩⟩
      exact Toolchain.absolute_eq_error_iff.2 hfirst
    | input hr hl hneeds hchoice htool ht heq hmet hunmet =>
      rw [← Layout.validate_eq_ok_iff] at hneeds
      refine .inr ⟨_, hr, .inr ⟨_, hl, .inr ⟨_, hneeds, .inr ⟨_, hchoice, .inr
        ⟨_, htool, .inr ⟨_, ht, .inl ?_⟩⟩⟩⟩⟩⟩
      exact (Pipeline.validate_eq_error_iff w).2 ⟨_, _, _, heq, hmet, hunmet, rfl⟩

/-- A compiler with a directory part is in the way once the current directory is gone. -/
example : prepare { Sample.equipped with current := GuardCost.Sample.location ["gone"] }
    ⟨none, []⟩ Sample.host { Sample.toolOptions with cc := "./cc" } =
      .error (.invalidPath (.ofString "./cc") .notFound) := by
  cbv

/-! ### Command lines -/

/-- What is said about an error, as an event and as a notice. -/
def refusal (within : String) (e : ConfigError) : List Notice :=
  [{ mark := .event .error, text := eventText within e.message [] },
    { mark := .failure, text := e.message }]

theorem run_refuse (e : ConfigError) (s : Session) :
    (refuse e).run s =
      (1, { s with console.notices := s.console.notices ++ refusal s.console.within e }) := by
  -- errors are shown whatever the threshold
  have hevent : ∀ c : Console, c.report .error e.message [] =
      c.add { mark := .event .error, text := eventText c.within e.message [] } := by
    intro c
    exact if_pos (Nat.zero_le _)
  have hrun : (refuse e).run s =
      (1, { s with
        console := (s.console.report .error e.message []).add ⟨.failure, e.message, false⟩ }) :=
    rfl
  rw [hrun, hevent]
  simp [Console.add, refusal]

variable (tools : Tools) (workers : Workers) {i : Invocation} {s : Session}

theorem run_request_of_unprepared
    (hrequest : i.request = .build suite host options ∨
      ∃ bench, i.request = .run suite host options bench)
    (hfail : prepare s.world suite host options = .error e) :
    (i.request.perform tools workers).run s = (refuse e).run s := by
  rcases hrequest with hrequest | ⟨bench, hrequest⟩
  · rw [hrequest]
    refine run_buildSuite.trans ?_
    rw [hfail]
    rfl
  · rw [hrequest]
    refine (run_runSuite bench).trans ?_
    rw [hfail]
    rfl

theorem notices_printMetrics (s : Session) :
    (printMetrics.run s).2.console.notices = s.console.notices := by
  obtain ⟨world, started, metrics, console⟩ := s
  cases metrics <;> rfl

theorem notices_after (i : Invocation) (code : Nat) (s : Session) :
    ((i.after code).run s).2.console.notices = s.console.notices := by
  rw [Invocation.after]
  split
  · exact notices_printMetrics s
  · rfl

/-- Around the request, a command line that cannot be prepared adds nothing to
the notices. -/
theorem run_perform_of_unprepared
    (hrequest : i.request = .build suite host options ∨
      ∃ bench, i.request = .run suite host options bench)
    (hfail : prepare s.world suite host options = .error e) :
    let out := (i.perform tools workers).run s
    out.1 = 1 ∧ out.2.world = s.world ∧ out.2.started = s.started ∧
      out.2.console.notices = s.console.notices ++ refusal s.console.within e := by
  have hrun : ∀ s₁ : Session, s₁.world = s.world →
      (i.request.perform tools workers).run s₁ = (1, { s₁ with
        console.notices := s₁.console.notices ++ refusal s₁.console.within e }) := by
    intro s₁ hworld
    rw [run_request_of_unprepared tools workers hrequest (hworld ▸ hfail), run_refuse]
  intro out
  have hout : out = (1, ((i.after 1).run { i.before s with
      console.notices :=
        (i.before s).console.notices ++ refusal (i.before s).console.within e }).2) := by
    show (i.perform tools workers).run s = _
    rw [i.run_perform_eq, hrun _ (i.world_before s)]
  have hbefore : (i.before s).console.notices = s.console.notices ∧
      (i.before s).console.within = s.console.within := by
    rw [Invocation.before]
    split <;> exact ⟨rfl, rfl⟩
  rw [hout]
  refine ⟨rfl, ?_, ?_, ?_⟩
  · exact ((i.quiet_after 1) _).1.trans (i.world_before s)
  · exact ((i.quiet_after 1) _).2.trans (i.started_before s)
  · rw [← hbefore.1, ← hbefore.2]
    exact notices_after i 1 _

end

/-- **A command line that cannot be prepared leaves the machine alone.**  Take any
words that ask for a build or a run, and any machine on which the preparation
fails.  The exit code is one, the files are what they were and nothing was
started; two notices give the error, and it is the error of the only thing that
is in the way. -/
theorem unprepared_leaves_machine (tools : Tools) (workers : Workers) {words : List Bytes}
    {i : Invocation} {suite : SuiteOptions} {host : HostOptions} {options : ToolOptions}
    {e : ConfigError} (s : Session) (hparse : Invocation.parse words = .ok i)
    (hrequest : i.request = .build suite host options ∨
      ∃ bench, i.request = .run suite host options bench)
    (hfail : prepare s.world suite host options = .error e) :
    let out := (perform tools workers words).run s
    out.1 = 1 ∧ out.2.world = s.world ∧ out.2.started = s.started ∧
      out.2.console.notices = s.console.notices ++ refusal s.console.within e ∧
      ∀ e', Hindrance s.world suite host options e' ↔ e' = e := by
  intro out
  have hout : out = (i.perform tools workers).run s := run_perform_of_parse tools workers hparse s
  obtain ⟨hcode, hworld, hstarted, hnotices⟩ :=
    run_perform_of_unprepared tools workers hrequest hfail
  rw [hout]
  refine ⟨hcode, hworld, hstarted, hnotices, fun e' => ?_⟩
  rw [← prepare_eq_error_iff, hfail]
  exact ⟨fun h => (Except.error.inj h).symm, fun h => h ▸ rfl⟩

namespace Sample
open GuardCost.Sample

/-- The build of the sample with a wasm compiler that is not there. -/
def lostWords : List Bytes := words.dropLast ++ [Bytes.ofString "/w/clang"]

def lostOptions : ToolOptions := { toolOptions with wasmCc? := some (.ofString "/w/clang") }

theorem parse_lostWords : Invocation.parse lostWords =
    .ok ⟨false, false, false, .build ⟨none, []⟩ host lostOptions⟩ := by
  decide +kernel

theorem prepare_lostOptions : prepare equipped ⟨none, []⟩ host lostOptions =
    .error (.missingFile (.ofString "/w/clang")) := by
  have hlayout : lostOptions.layout.absolute equipped.currentPath = .ok layout := by decide
  have hneeds : ∀ n ∈ layout.needs, n.isMet equipped = true := by
    rw [← Need.check_eq_ok_iff]
    cbv
  have htool : (ToolChoice.explicit (.ofString "/lower")).resolve equipped (.ofString "/")
      "silverfish" = .ok (.ofString "/lower") := by
    cbv
  have htoolchain : (lostOptions.toolchain layout (.ofString "/lower") host.host.target?).absolute
      equipped.currentPath =
        .ok { toolchain host.host.target? with wasmCc := .ofString "/w/clang" } := by
    decide
  have hlost : (Need.file (.ofString "/w/clang")).isMet equipped = false := by cbv
  refine prepare_eq_error_iff.2 ?_
  have hsplit : (⟨layout, { toolchain host.host.target? with wasmCc := .ofString "/w/clang" },
      .ofHost host.host, 0⟩ : Pipeline).needs = layout.needs ++ Need.file (.ofString "/w/clang") ::
        [.directory (.ofString "/w/sysroot")] := by
    decide
  exact .input rfl hlayout hneeds rfl htool htoolchain hsplit hneeds hlost

/-- The build of the sample with a wasm compiler that is not there. -/
theorem build_without_compiler :
    let out := (perform tools (.unlimited 1) lostWords).run (.ofWorld equipped)
    out.1 = 1 ∧ out.2.world = equipped ∧ out.2.started = [] ∧
      out.2.console.notices = refusal "" (.missingFile (.ofString "/w/clang")) ∧
      ∀ e, Hindrance equipped ⟨none, []⟩ host lostOptions e ↔
        e = .missingFile (.ofString "/w/clang") :=
  unprepared_leaves_machine tools (.unlimited 1) (.ofWorld equipped) parse_lostWords (.inl rfl)
    prepare_lostOptions

end Sample

end Cli

end GuardCost
