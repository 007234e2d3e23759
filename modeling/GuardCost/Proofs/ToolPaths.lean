/-
GuardCost/Proofs/ToolPaths.lean

Which program a stage starts.  A tool is given by a bare name, which is looked for
along the search path, or by a path, which is made absolute because stages run in
the directories of their programs.  What decides between the two is not whether
there is a slash but whether there is more than one component:

    clang           one     kept, a bare name
    ./clang         two     made absolute
    clang/          one     kept, although it is neither bare nor absolute

So a tool is rooted, that is bare or absolute, except in the last case, and a
rooted tool is looked for at absolute paths only (`Process.start_congr`).  An
absolute tool names what the given one names, but the native drivers are kept as
texts, and what is no text becomes another path.
-/
import GuardCost.Build.Run
import GuardCost.Process.Program
import GuardCost.Proofs.TextPaths

namespace GuardCost

/-! ### Bare names -/

namespace Path

/-- A name that is looked for along a search path. -/
def IsBare (p : Path) : Prop := Bytes.slash ∉ p.bytes

instance (p : Path) : Decidable p.IsBare := inferInstanceAs (Decidable (_ ∉ _))

/-- A path that does not depend on a current directory. -/
def IsRooted (p : Path) : Prop := p.IsBare ∨ p.isAbsolute = true

instance (p : Path) : Decidable p.IsRooted := inferInstanceAs (Decidable (_ ∨ _))

/-- A bare name has no directory part. -/
theorem IsBare.hasDirectoryPart {p : Path} (h : p.IsBare) : p.hasDirectoryPart = false := by
  have hparts : p.parts = [p.bytes] := partsAt_of_notMem h
  have habs : p.isAbsolute = false := by
    rw [isAbsolute, beq_eq_false_iff_ne]
    intro hhead
    exact h (List.mem_of_head? hhead)
  -- a text without a slash is one part, which makes one component at most
  have hlength : p.components.length ≤ 1 := by
    unfold components
    rw [habs, hparts]
    by_cases hdot : p.bytes = [Bytes.dot]
    · rw [hdot]
      decide
    · have hhead : [p.bytes].head? ≠ some [Bytes.dot] := by simpa using hdot
      rw [if_neg Bool.false_ne_true, if_neg hhead]
      exact List.length_filterMap_le _ _
  exact decide_eq_false (Nat.not_lt.2 hlength)

end Path

namespace Process

/-- Along the search path only absolute files are tried. -/
theorem isAbsolute_of_mem_candidates {program : Bytes} (h : Bytes.slash ∉ program) :
    ∀ file ∈ candidates searchPath program, file.isAbsolute = true := by
  have hdirs : ∀ dir ∈ partsAt ':' searchPath.toList,
      Path.isAbsolute ⟨Bytes.narrow (String.ofList dir)⟩ = true := by
    decide
  have hbare : Path.isAbsolute ⟨program⟩ = false := by
    rw [Path.isAbsolute, beq_eq_false_iff_ne]
    exact fun hhead => h (List.mem_of_head? hhead)
  intro file hfile
  obtain ⟨dir, hdir, rfl⟩ := List.mem_map.1 hfile
  rw [Path.isAbsolute_join _ hbare]
  exact hdirs dir hdir

variable {attempt attempt' : Path → Except SystemError Loaded}

theorem firstLoaded_congr {files : List Path} (seen : SystemError)
    (h : ∀ file ∈ files, attempt file = attempt' file) :
    firstLoaded attempt seen files = firstLoaded attempt' seen files := by
  induction files generalizing seen with
  | nil => rfl
  | cons file rest ih =>
    have hrest := fun seen => ih seen fun f hf => h f (List.mem_cons_of_mem _ hf)
    rw [firstLoaded, firstLoaded, h file List.mem_cons_self]
    simp only [hrest]

/-- **A rooted program is looked for at absolute paths only.** -/
theorem start_congr {tool : Path} (htool : tool.IsRooted)
    (h : ∀ file : Path, file.isAbsolute = true → attempt file = attempt' file) :
    start attempt searchPath tool.bytes = start attempt' searchPath tool.bytes := by
  unfold start
  split
  · rfl
  · split
    · next hslash =>
      exact h tool (htool.resolve_left fun hbare => hbare hslash)
    · next hslash =>
      have habs := isAbsolute_of_mem_candidates hslash
      exact firstLoaded_congr _ fun file hfile => h file (habs file hfile)

end Process

/-! ### Tools -/

/-- The tools of a toolchain. -/
inductive Tool where
  | cc
  | cxx
  | wasmCc
  | loweringTool
  deriving DecidableEq, Repr

namespace Tool

/-- Whether a tool is one of the native drivers, which are kept as texts. -/
def isDriver : Tool → Bool
  | cc => true
  | cxx => true
  | wasmCc => false
  | loweringTool => false

/-- A path as it is kept for a tool. -/
def kept (k : Tool) (p : Path) : Path := if k.isDriver then .ofString p.text else p

/-- A driver is kept as it is if it is a text. -/
theorem kept_eq_iff {k : Tool} {p : Path} :
    k.kept p = p ↔ k.isDriver = false ∨ p.bytes.IsText := by
  unfold kept
  cases k.isDriver with
  | false => simp
  | true =>
    simp only [if_true, Bool.true_eq_false, false_or]
    rw [← Bytes.ofString_lossy_iff]
    exact ⟨congrArg Path.bytes, congrArg Path.mk⟩

theorem kept_of_isText {k : Tool} {p : Path} (h : k.isDriver = true → p.bytes.IsText) :
    k.kept p = p := by
  rw [kept_eq_iff]
  cases hdriver : k.isDriver with
  | false => exact .inl rfl
  | true => exact .inr (h hdriver)

theorem isAbsolute_kept {k : Tool} {p : Path} (h : p.isAbsolute = true) :
    (k.kept p).isAbsolute = true := by
  unfold kept
  split
  · exact beq_iff_eq.2 (Bytes.head?_ofString_lossy (beq_iff_eq.1 h))
  · exact h

end Tool

namespace Toolchain

/-- The path of a tool. -/
def tool (t : Toolchain) : Tool → Path
  | .cc => .ofString t.cc
  | .cxx => .ofString t.cxx
  | .wasmCc => t.wasmCc
  | .loweringTool => t.loweringTool

variable {t t' : Toolchain} {current : Except SystemError Path}

theorem isText_tool (t : Toolchain) {k : Tool} (h : k.isDriver = true) :
    (t.tool k).bytes.IsText := by
  cases k with
  | cc => exact ⟨t.cc, rfl⟩
  | cxx => exact ⟨t.cxx, rfl⟩
  | wasmCc => cases h
  | loweringTool => cases h

/-- What the absolute form of each tool is. -/
theorem tool_of_absolute (h : t.absolute current = .ok t') (k : Tool) :
    ∃ q, absoluteTool current (t.tool k) = .ok q ∧ t'.tool k = k.kept q := by
  unfold absolute at h
  obtain ⟨cc, hcc, h⟩ := bind_eq_ok_iff.1 h
  obtain ⟨cxx, hcxx, h⟩ := bind_eq_ok_iff.1 h
  obtain ⟨wasmCc, hwasmCc, h⟩ := bind_eq_ok_iff.1 h
  obtain ⟨wasmSysroot, -, h⟩ := bind_eq_ok_iff.1 h
  obtain ⟨loweringTool, hloweringTool, h⟩ := bind_eq_ok_iff.1 h
  cases h
  cases k with
  | cc => exact ⟨cc, hcc, rfl⟩
  | cxx => exact ⟨cxx, hcxx, rfl⟩
  | wasmCc => exact ⟨wasmCc, hwasmCc, rfl⟩
  | loweringTool => exact ⟨loweringTool, hloweringTool, rfl⟩

/-- A tool without a directory part is left as it is. -/
theorem tool_unchanged (h : t.absolute current = .ok t') {k : Tool}
    (hk : (t.tool k).hasDirectoryPart = false) : t'.tool k = t.tool k := by
  obtain ⟨q, hq, hkept⟩ := tool_of_absolute h k
  rw [absoluteTool, hk, if_neg Bool.false_ne_true] at hq
  obtain rfl := Except.ok.inj hq
  rw [hkept, Tool.kept_of_isText fun hdriver => t.isText_tool hdriver]

/-- A tool with a directory part is made absolute. -/
theorem tool_absolute (h : t.absolute current = .ok t') {k : Tool}
    (hk : (t.tool k).hasDirectoryPart = true) :
    ∃ q, absolutePath current (t.tool k) = .ok q ∧ t'.tool k = k.kept q := by
  obtain ⟨q, hq, hkept⟩ := tool_of_absolute h k
  rw [absoluteTool, if_pos hk] at hq
  exact ⟨q, hq, hkept⟩

end Toolchain

/-- The tool that a stage starts. -/
def Stage.tool (multiLanguage : Bool) : Stage → Tool
  | sources => .cc
  | native => if multiLanguage then .cxx else .cc
  | wasm => .wasmCc
  | bytecode _ => .loweringTool
  | variant _ => .cc

theorem Pipeline.program_step (pl : Pipeline) (p : Program) (sources : List String)
    {stage : Stage} (h : stage ≠ .sources) : (pl.step p sources stage).command.program =
      (pl.toolchain.tool (stage.tool p.multiLanguage)).bytes := by
  cases stage with
  | sources => exact absurd rfl h
  | native =>
    show Bytes.ofString (pl.toolchain.driver p.multiLanguage) = _
    rw [Stage.tool, Toolchain.driver]
    cases p.multiLanguage <;> rfl
  | wasm => rfl
  | bytecode flavor => rfl
  | variant v => rfl

namespace Process

/-- How a tool is started from some directory: what is made of a file that is tried
depends on what stands there. -/
def startFrom (fs : FileSystem)
    (load : Path → Except SystemError (Location × Node) → Except SystemError Loaded)
    (here : Location) (tool : Path) : Except SystemError Loaded :=
  start (fun file => load file (fs.find here file)) searchPath tool.bytes

/-- A rooted tool is the same one from every directory. -/
theorem startFrom_of_isRooted (fs : FileSystem)
    (load : Path → Except SystemError (Location × Node) → Except SystemError Loaded)
    (here here' : Location) {tool : Path} (h : tool.IsRooted) :
    startFrom fs load here tool = startFrom fs load here' tool := by
  refine start_congr h fun file hfile => ?_
  rw [FileSystem.find_of_isAbsolute hfile here here']

/-- Any other tool is what it names in the directory it is started from. -/
theorem startFrom_of_not_isRooted (fs : FileSystem)
    (load : Path → Except SystemError (Location × Node) → Except SystemError Loaded)
    (here : Location) {tool : Path} (h : ¬tool.IsRooted) :
    startFrom fs load here tool = load tool (fs.find here tool) := by
  have hslash : Bytes.slash ∈ tool.bytes := by
    by_contra hbare
    exact h (.inl hbare)
  have hne : tool.bytes ≠ [] := List.ne_nil_of_mem hslash
  rw [startFrom, start, if_neg hne, if_pos hslash]

end Process

namespace Toolchain

variable {t t' : Toolchain}

end Toolchain

/-! ### A machine with two directories -/

namespace Sample

/-- A machine with the directory `/b/a`, seen from there. -/
def bench : World where
  files := .ofEntries
    [([Bytes.ofString "b"], .directory 0),
      ([Bytes.ofString "b", Bytes.ofString "a"], .directory 0)]
  current := [Bytes.ofString "b", Bytes.ofString "a"]
  now := 0

theorem stands_bench : bench.files.Stands bench.current where
  names := by
    have hnames : ∀ name ∈ bench.current, IsName name ∧ Bytes.slash ∉ name ∧
        (0 : UInt8) ∉ name ∧ name.length ≤ FileSystem.longestName := by
      decide
    intro name hname
    obtain ⟨hisName, hslash, hrest⟩ := hnames name hname
    exact ⟨⟨hisName, hslash⟩, hrest⟩
  directories := by
    have hdirs : ∀ front ∈ bench.current.inits, bench.files.HasDirectory front := by
      decide
    exact fun front hfront => hdirs front ((List.mem_inits _ _).2 hfront)

/-- Tools of all kinds: a bare name, one in the current directory, one above it, and
an absolute path. -/
def crooked : Toolchain where
  cc := "gcc"
  cxx := "./g++"
  wasmCc := .ofString "../clang"
  wasmSysroot := .ofString "sysroot"
  loweringTool := .ofString "/x/.//lower"
  target? := none
  debugSymbols := false
  limit? := none

/-- The same tools in their absolute forms. -/
def straight : Toolchain :=
  { crooked with
    cxx := "/b/a/g++"
    wasmCc := .ofString "/b/a/../clang"
    wasmSysroot := .ofString "/b/a/sysroot"
    loweringTool := .ofString "/x/lower" }

/-- The path of a directory whose name is no text. -/
def unnamed : Path := Location.path [[0xff]]

end Sample

end GuardCost
