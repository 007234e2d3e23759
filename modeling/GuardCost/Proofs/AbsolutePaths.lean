/-
GuardCost/Proofs/AbsolutePaths.lean

Options with absolute directories.  A preparation makes the directories of the
options absolute, the ones by default after they are joined to the root, and then
makes the wasm compiler and its system root absolute once more.  None of this
depends on when it is done: a path that was made absolute stays as it is
(`absolutePath_of_absolutePath`), and so do its children, which come out the same
whichever is done first (`absolutePath_child`).  So it makes no difference to a
preparation whether the directories are given as they are or in their absolute
forms (`prepare_absolute`).
-/
import GuardCost.Proofs.Chains
import GuardCost.Proofs.Spellings

namespace GuardCost

open GuardCost.Path

/-! ### Paths -/

/-- The path of a location spells its names. -/
theorem Location.path_eq_spelled (here : Location) : here.path = spelled false here false := by
  cases here <;> simp [Location.path, spelled, stem]

theorem absolutePath_eq_ok_iff {current : Except SystemError Path} {p q : Path} :
    absolutePath current p = .ok q ↔ p.absolute current = .ok q := by
  unfold absolutePath
  cases p.absolute current <;> simp

section
variable {here : Location} (hhere : ∀ name ∈ here, IsStep name) {p q : Path}
  (h : absolutePath (.ok here.path) p = .ok q)
include hhere h

theorem eq_spelled_of_absolutePath :
    q = spelled p.hasDoubleRoot (p.allSteps here) p.endsWithSlash := by
  rw [absolutePath_eq_ok_iff, Location.path_eq_spelled] at h
  rw [absolute_eq (ne_nil_of_absolute h) hhere] at h
  exact (Except.ok.inj h).symm

theorem isAbsolute_of_absolutePath : q.isAbsolute = true := by
  rw [eq_spelled_of_absolutePath hhere h]
  exact isAbsolute_spelled _ _ _

/-- **What was made absolute stays as it is.** -/
theorem absolutePath_of_absolutePath : absolutePath (.ok here.path) q = .ok q := by
  rw [absolutePath_eq_ok_iff, Location.path_eq_spelled, eq_spelled_of_absolutePath hhere h]
  exact absolute_spelled hhere (isStep_of_mem_allSteps hhere)

/-- **A child may be made absolute before or after it is joined.** -/
theorem absolutePath_child {name : String} (hname : IsSegment (Bytes.ofString name)) :
    absolutePath (.ok here.path) (p.child name) = .ok (q.child name) := by
  rw [absolutePath_eq_ok_iff, Location.path_eq_spelled] at h ⊢
  exact absolute_join hhere hname h

end

/-! ### Layouts -/

/-- The directories that stand below a root by default. -/
def Layout.defaults : List String := ["code_benches", "runtime", "wasmception"]

theorem Layout.isSegment_defaults : ∀ name ∈ Layout.defaults, IsSegment (Bytes.ofString name) := by
  intro name hname
  simp only [Layout.defaults, List.mem_cons, List.not_mem_nil, or_false] at hname
  rcases hname with rfl | rfl | rfl <;> exact ⟨⟨by decide, by decide, by decide⟩, by decide⟩

theorem Layout.absolute_eq_ok_iff {l l' : Layout} {current : Except SystemError Path} :
    l.absolute current = .ok l' ↔ absolutePath current l.root = .ok l'.root ∧
      absolutePath current l.benchRoot = .ok l'.benchRoot ∧
      absolutePath current l.runtimeDir = .ok l'.runtimeDir ∧
      absolutePath current l.wasmToolchain = .ok l'.wasmToolchain := by
  obtain ⟨root', benchRoot', runtimeDir', wasmToolchain'⟩ := l'
  unfold Layout.absolute
  constructor
  · intro h
    obtain ⟨root, hroot, h⟩ := bind_eq_ok_iff.1 h
    obtain ⟨benchRoot, hbenchRoot, h⟩ := bind_eq_ok_iff.1 h
    obtain ⟨runtimeDir, hruntimeDir, h⟩ := bind_eq_ok_iff.1 h
    obtain ⟨wasmToolchain, hwasmToolchain, h⟩ := bind_eq_ok_iff.1 h
    cases h
    exact ⟨hroot, hbenchRoot, hruntimeDir, hwasmToolchain⟩
  · rintro ⟨hroot, hbenchRoot, hruntimeDir, hwasmToolchain⟩
    rw [hroot, hbenchRoot, hruntimeDir, hwasmToolchain]
    rfl

/-- Making a layout absolute once is enough. -/
theorem Layout.absolute_of_absolute {here : Location} (hhere : ∀ name ∈ here, IsStep name)
    {l l' : Layout} (h : l.absolute (.ok here.path) = .ok l') :
    l'.absolute (.ok here.path) = .ok l' := by
  obtain ⟨hroot, hbenchRoot, hruntimeDir, hwasmToolchain⟩ := Layout.absolute_eq_ok_iff.1 h
  exact Layout.absolute_eq_ok_iff.2 ⟨absolutePath_of_absolutePath hhere hroot,
    absolutePath_of_absolutePath hhere hbenchRoot, absolutePath_of_absolutePath hhere hruntimeDir,
    absolutePath_of_absolutePath hhere hwasmToolchain⟩

/-- The directories of a layout that was made absolute are absolute. -/
theorem Layout.isAbsolute_of_absolute {here : Location} (hhere : ∀ name ∈ here, IsStep name)
    {l l' : Layout} (h : l.absolute (.ok here.path) = .ok l') :
    ∀ dir ∈ l'.directories, dir.isAbsolute = true := by
  obtain ⟨hroot, hbenchRoot, hruntimeDir, hwasmToolchain⟩ := Layout.absolute_eq_ok_iff.1 h
  intro dir hdir
  simp only [Layout.directories, List.mem_cons, List.not_mem_nil, or_false] at hdir
  rcases hdir with rfl | rfl | rfl | rfl
  · exact isAbsolute_of_absolutePath hhere hroot
  · exact isAbsolute_of_absolutePath hhere hbenchRoot
  · exact isAbsolute_of_absolutePath hhere hruntimeDir
  · exact isAbsolute_of_absolutePath hhere hwasmToolchain

/-! ### Tools -/

theorem Toolchain.of_absolute {t t' : Toolchain} {current : Except SystemError Path}
    (h : t.absolute current = .ok t') : absoluteTool current t.wasmCc = .ok t'.wasmCc ∧
      absolutePath current t.wasmSysroot = .ok t'.wasmSysroot := by
  unfold Toolchain.absolute at h
  obtain ⟨cc, -, h⟩ := bind_eq_ok_iff.1 h
  obtain ⟨cxx, -, h⟩ := bind_eq_ok_iff.1 h
  obtain ⟨wasmCc, hwasmCc, h⟩ := bind_eq_ok_iff.1 h
  obtain ⟨wasmSysroot, hwasmSysroot, h⟩ := bind_eq_ok_iff.1 h
  obtain ⟨loweringTool, -, h⟩ := bind_eq_ok_iff.1 h
  cases h
  exact ⟨hwasmCc, hwasmSysroot⟩

theorem Toolchain.ne_nil_of_mem_asked {tool p : Path} (h : p ∈ asked tool) : p.bytes ≠ [] := by
  unfold asked at h
  split at h
  · next hpart =>
    obtain rfl := List.mem_singleton.1 h
    intro hempty
    obtain rfl : p = ⟨[]⟩ := congrArg Path.mk hempty
    revert hpart
    decide
  · cases h

/-- Where the current directory is known, tools have absolute forms. -/
theorem Toolchain.exists_absolute {t : Toolchain} (h : t.wasmSysroot.bytes ≠ []) (here : Path) :
    ∃ t', t.absolute (.ok here) = .ok t' := by
  have hplaced : ∀ p ∈ t.paths, p.IsPlaced (.ok here) := by
    intro p hp
    refine Path.isPlaced_of_ne ?_ here
    simp only [paths, List.mem_append, List.mem_cons, List.not_mem_nil, or_false] at hp
    rcases hp with hp | hp | hp | rfl | hp
    · exact ne_nil_of_mem_asked hp
    · exact ne_nil_of_mem_asked hp
    · exact ne_nil_of_mem_asked hp
    · exact h
    · exact ne_nil_of_mem_asked hp
  cases ht : t.absolute (.ok here) with
  | ok t' => exact ⟨t', rfl⟩
  | error e => exact absurd (absolute_eq_error_iff.1 ht) (not_firstUnplaced hplaced)

theorem Toolchain.absoluteTool_of_absolutePath {current : Except SystemError Path} {tool : Path}
    (h : absolutePath current tool = .ok tool) : absoluteTool current tool = .ok tool := by
  unfold absoluteTool
  split
  · exact h
  · rfl

namespace Cli.ToolOptions

variable {here : Location} (hhere : ∀ name ∈ here, IsStep name)

include hhere in
/-- The tools below an absolute directory do not change when they are made absolute
once more. -/
theorem toolchain_of_absolute (o : ToolOptions) {l : Layout}
    (hl : l.absolute (.ok here.path) = .ok l) {tool : Path} {target? : Option Triple} {t : Toolchain}
    (ht : (o.toolchain l tool target?).absolute (.ok here.path) = .ok t) :
    t.wasmSysroot = l.wasmToolchain.child "sysroot" ∧
      (o.wasmCc? = none →
        t.wasmCc = ((l.wasmToolchain.child "dist").child "bin").child "clang") := by
  obtain ⟨-, -, -, hwasm⟩ := Layout.absolute_eq_ok_iff.1 hl
  obtain ⟨hwasmCc, hwasmSysroot⟩ := Toolchain.of_absolute ht
  have hchild : ∀ name ∈ ["sysroot", "dist", "bin", "clang"], ∀ p,
      absolutePath (.ok here.path) p = .ok p →
        absolutePath (.ok here.path) (p.child name) = .ok (p.child name) := by
    intro name hname p hp
    refine absolutePath_child hhere hp ?_
    simp only [List.mem_cons, List.not_mem_nil, or_false] at hname
    rcases hname with rfl | rfl | rfl | rfl <;> exact ⟨⟨by decide, by decide, by decide⟩, by decide⟩
  constructor
  · have hsame := hchild "sysroot" (by simp) _ hwasm
    exact Except.ok.inj (hwasmSysroot.symm.trans hsame)
  · intro hnone
    have hdist := hchild "dist" (by simp) _ hwasm
    have hclang := hchild "clang" (by simp) _ (hchild "bin" (by simp) _ hdist)
    have hgiven : (o.toolchain l tool target?).wasmCc =
        ((l.wasmToolchain.child "dist").child "bin").child "clang" := by
      show o.wasmCc?.getD _ = _
      rw [hnone]
      rfl
    rw [hgiven, Toolchain.absoluteTool_of_absolutePath hclang] at hwasmCc
    exact (Except.ok.inj hwasmCc).symm

/-! ### Options -/

/-- The directories that are given. -/
def directories (o : ToolOptions) : List Path :=
  o.root :: (o.benchRoot?.toList ++ o.runtimeDir?.toList ++ o.wasmToolchain?.toList)

/-- The options with the absolute form of each directory that is given. -/
def absolute (o : ToolOptions) (current : Except SystemError Path) :
    Except ConfigError ToolOptions := do
  let root ← absolutePath current o.root
  let benchRoot? ← o.benchRoot?.mapM (absolutePath current)
  let runtimeDir? ← o.runtimeDir?.mapM (absolutePath current)
  let wasmToolchain? ← o.wasmToolchain?.mapM (absolutePath current)
  return { o with root, benchRoot?, runtimeDir?, wasmToolchain? }

include hhere in
/-- A directory that may be given, below the root by default: its absolute form is
the same before and after what is given is made absolute. -/
theorem absolutePath_given {given? : Option Path} (hgiven : ∀ dir ∈ given?, dir.bytes ≠ [])
    {root root' : Path} (hroot : absolutePath (.ok here.path) root = .ok root') {name : String}
    (hname : IsSegment (Bytes.ofString name)) :
    ∃ given'? dir, given?.mapM (absolutePath (.ok here.path)) = .ok given'? ∧
      absolutePath (.ok here.path) (given?.getD (root.child name)) = .ok dir ∧
      absolutePath (.ok here.path) (given'?.getD (root'.child name)) = .ok dir := by
  cases given? with
  | none =>
    -- the default is joined to the root or to its absolute form, which is its own
    have hroot' := absolutePath_of_absolutePath hhere hroot
    exact ⟨none, root'.child name, rfl, absolutePath_child hhere hroot hname,
      absolutePath_child hhere hroot' hname⟩
  | some given =>
    obtain ⟨dir, hdir⟩ := (Path.isPlaced_of_ne (hgiven given rfl) here.path).absolutePath
    refine ⟨some dir, dir, ?_, hdir, absolutePath_of_absolutePath hhere hdir⟩
    rw [Option.mapM_some, hdir]
    rfl

include hhere in
/-- The layout of options is the same before and after what is given is made
absolute. -/
theorem layout_absolute (o : ToolOptions) (hgiven : ∀ dir ∈ o.directories, dir.bytes ≠ []) :
    ∃ root benchRoot? runtimeDir? wasmToolchain? l,
      let o' := { o with root, benchRoot?, runtimeDir?, wasmToolchain? }
      o.absolute (.ok here.path) = .ok o' ∧ o.layout.absolute (.ok here.path) = .ok l ∧
        o'.layout.absolute (.ok here.path) = .ok l := by
  simp only [directories, List.mem_cons, List.mem_append, Option.mem_toList] at hgiven
  obtain ⟨root, hroot⟩ := (Path.isPlaced_of_ne (hgiven o.root (.inl rfl)) here.path).absolutePath
  have hname := Layout.isSegment_defaults
  obtain ⟨benchRoot?, benchRoot, hbenchRoot?, hbenchRoot, hbenchRoot'⟩ :=
    absolutePath_given hhere (fun dir hdir => hgiven dir (.inr (.inl (.inl hdir)))) hroot
      (hname "code_benches" (by decide))
  obtain ⟨runtimeDir?, runtimeDir, hruntimeDir?, hruntimeDir, hruntimeDir'⟩ :=
    absolutePath_given hhere (fun dir hdir => hgiven dir (.inr (.inl (.inr hdir)))) hroot
      (hname "runtime" (by decide))
  obtain ⟨wasmToolchain?, wasmToolchain, hwasm?, hwasm, hwasm'⟩ :=
    absolutePath_given hhere (fun dir hdir => hgiven dir (.inr (.inr hdir))) hroot
      (hname "wasmception" (by decide))
  refine ⟨root, benchRoot?, runtimeDir?, wasmToolchain?,
    ⟨root, benchRoot, runtimeDir, wasmToolchain⟩, ?_, ?_, ?_⟩
  · refine bind_eq_ok_iff.2 ⟨root, hroot, ?_⟩
    refine bind_eq_ok_iff.2 ⟨benchRoot?, hbenchRoot?, ?_⟩
    refine bind_eq_ok_iff.2 ⟨runtimeDir?, hruntimeDir?, ?_⟩
    exact bind_eq_ok_iff.2 ⟨wasmToolchain?, hwasm?, rfl⟩
  · exact Layout.absolute_eq_ok_iff.2 ⟨hroot, hbenchRoot, hruntimeDir, hwasm⟩
  · exact Layout.absolute_eq_ok_iff.2
      ⟨absolutePath_of_absolutePath hhere hroot, hbenchRoot', hruntimeDir', hwasm'⟩

end Cli.ToolOptions

/-- **It makes no difference whether directories are given in their absolute form.**
Let the directories of the options be any paths but the empty one, seen from a
current directory that is known and has no dots among its names.  Then each has an
absolute form, and a preparation with these comes to the very same: the layout of
absolute directories, which making it absolute again leaves as it is, and so the
directories of programs and the runtime sources; the wasm compiler and its system root,
which stand below the wasm toolchain as it is in the layout; and all else.  A default
directory may be joined to the root before or after they are made absolute. -/
theorem Cli.prepare_absolute (w : World) (suite : SuiteOptions) (host : HostOptions)
    (o : ToolOptions) (hknown : w.currentPath = .ok w.current.path)
    (hcurrent : ∀ name ∈ w.current, IsStep name)
    (hgiven : ∀ dir ∈ o.directories, dir.bytes ≠ []) :
    ∃ o' l, o.absolute w.currentPath = .ok o' ∧
      o.layout.absolute w.currentPath = .ok l ∧ o'.layout.absolute w.currentPath = .ok l ∧
      (∀ dir ∈ l.directories, dir.isAbsolute = true) ∧
      (∀ tool target?, ∃ t, (o.toolchain l tool target?).absolute w.currentPath = .ok t ∧
        (o'.toolchain l tool target?).absolute w.currentPath = .ok t ∧
        t.wasmSysroot = l.wasmToolchain.child "sysroot" ∧
        (o.wasmCc? = none →
          t.wasmCc = ((l.wasmToolchain.child "dist").child "bin").child "clang")) ∧
      prepare w suite host o' = prepare w suite host o ∧
      (∀ l l' : Layout, l.absolute w.currentPath = .ok l' → l'.absolute w.currentPath = .ok l') ∧
      ∀ root root', absolutePath w.currentPath root = .ok root' →
        ∀ name ∈ ["code_benches", "runtime", "wasmception"],
          absolutePath w.currentPath (root.child name) = .ok (root'.child name) := by
  rw [hknown]
  obtain ⟨root, benchRoot?, runtimeDir?, wasmToolchain?, l, ho', hl, hl'⟩ :=
    ToolOptions.layout_absolute hcurrent o hgiven
  have hlayout : ∀ l l' : Layout, l.absolute (.ok w.current.path) = .ok l' →
      l'.absolute (.ok w.current.path) = .ok l' :=
    fun _ _ h => Layout.absolute_of_absolute hcurrent h
  refine ⟨_, l, ho', hl, hl', Layout.isAbsolute_of_absolute hcurrent hl, fun tool target? => ?_, ?_,
    hlayout, ?_⟩
  · -- the system root is joined below the layout, so that it is never empty
    have hsysroot : (o.toolchain l tool target?).wasmSysroot.bytes ≠ [] :=
      join_isStep_ne_nil l.wasmToolchain ⟨by decide, by decide, by decide⟩
    obtain ⟨t, ht⟩ := Toolchain.exists_absolute hsysroot w.current.path
    exact ⟨t, ht, ht, ToolOptions.toolchain_of_absolute hcurrent o (hlayout _ _ hl) ht⟩
  · -- from the layout on, the two preparations are the same
    rw [prepare_eq, prepare_eq, hknown, hl, hl']
    rfl
  · intro root root' hroot name hname
    exact absolutePath_child hcurrent hroot (Layout.isSegment_defaults name hname)

namespace Cli.Sample
open GuardCost.Sample

/-- The machine of the sample with a wasm toolchain at the usual place, seen from the
directory `/b/a`. -/
def inside : World where
  files := .ofEntries (entries ++
    [(location ["b", "custom_memcmp"], .directory 0),
      (location ["b", "custom_memcmp", "m.c"], GuardCost.Sample.text),
      (location ["wasmception"], .directory 0),
      (location ["wasmception", "sysroot"], .directory 0),
      (location ["wasmception", "dist"], .directory 0),
      (location ["wasmception", "dist", "bin"], .directory 0),
      (location ["wasmception", "dist", "bin", "clang"], GuardCost.Sample.text),
      (location ["lower"], GuardCost.Sample.text)])
  current := location ["b", "a"]
  now := 0

/-- Directories with dots and slashes of all kinds. -/
def crookedOptions : ToolOptions :=
  { toolOptions with
    root := .ofString "./../..//"
    benchRoot? := some (.ofString "//b/")
    runtimeDir? := some (.ofString "/.//r/.")
    wasmToolchain? := none
    tool? := some (.ofString "../../lower")
    wasmCc? := none }

/-- What is prepared from them. -/
def crookedLayout : Layout :=
  ⟨.ofString "/b/a/../../", .ofString "//b/", .ofString "/r", .ofString "/b/a/../../wasmception"⟩

def crookedToolchain : Toolchain :=
  { toolchain none with
    wasmCc := .ofString "/b/a/../../wasmception/dist/bin/clang"
    wasmSysroot := .ofString "/b/a/../../wasmception/sysroot"
    loweringTool := .ofString "/b/a/../../lower" }

def crookedSetup : Setup :=
  ⟨.standard, hostHere.host, ⟨crookedLayout, crookedToolchain, .ofHost hostHere.host, 0⟩⟩

theorem prepare_crookedOptions :
    prepare inside ⟨none, []⟩ hostHere crookedOptions = .ok crookedSetup := by
  have hlayout : crookedOptions.layout.absolute inside.currentPath = .ok crookedLayout := by cbv
  have hdirectories : crookedLayout.validate inside = .ok () := by cbv
  have htool : (ToolChoice.explicit (.ofString "../../lower")).resolve inside
      (.ofString "/b/a/../../") "silverfish" = .ok (.ofString "/b/a/../../lower") := by
    cbv
  have htoolchain : (crookedOptions.toolchain crookedLayout (.ofString "/b/a/../../lower")
      hostHere.host.target?).absolute inside.currentPath = .ok crookedToolchain := by
    cbv
  have hplan : Plan.ofHost hostHere.host = ⟨.full,
      [.noProtectionUnsafe, .noProtection, .boundsChecked, .mpx, .virtualMemory, .cortexM]⟩ := by
    decide
  have hpipeline : Pipeline.validate ⟨crookedLayout, crookedToolchain, ⟨.full,
      [.noProtectionUnsafe, .noProtection, .boundsChecked, .mpx, .virtualMemory, .cortexM]⟩, 0⟩
        inside = .ok () := by
    cbv
  rw [← hplan] at hpipeline
  exact prepare_of_checks rfl hlayout hdirectories rfl htool htoolchain hpipeline

/-- With crooked directories and with their absolute forms the same is prepared. -/
theorem prepare_crooked :
    ∃ o', crookedOptions.absolute inside.currentPath = .ok o' ∧
      o'.directories = [.ofString "/b/a/../../", .ofString "//b/", .ofString "/r"] ∧
      prepare inside ⟨none, []⟩ hostHere crookedOptions = .ok crookedSetup ∧
      prepare inside ⟨none, []⟩ hostHere o' = .ok crookedSetup := by
  have hknown : inside.currentPath = .ok inside.current.path := by cbv
  have hcurrent : ∀ name ∈ inside.current, IsStep name := by
    intro name hname
    simp only [inside, location, List.map_cons, List.map_nil, List.mem_cons, List.not_mem_nil,
      or_false] at hname
    rcases hname with rfl | rfl <;> exact ⟨by decide, by decide, by decide⟩
  have hgiven : ∀ dir ∈ crookedOptions.directories, dir.bytes ≠ [] := by decide
  obtain ⟨o', l, ho', -, -, -, -, hprepare, -⟩ :=
    prepare_absolute inside ⟨none, []⟩ hostHere crookedOptions hknown hcurrent hgiven
  have hdirectories : crookedOptions.absolute inside.currentPath = .ok { crookedOptions with
      root := .ofString "/b/a/../../"
      benchRoot? := some (.ofString "//b/")
      runtimeDir? := some (.ofString "/r") } := by
    decide
  rw [hdirectories] at ho'
  obtain rfl := Except.ok.inj ho'
  exact ⟨_, hdirectories, rfl, prepare_crookedOptions, hprepare.trans prepare_crookedOptions⟩

end Cli.Sample

end GuardCost
