/-
GuardCost/Proofs/NewestProfile.lean

Which build of the lowering tool counts as the newest.  The times of the two
profiles are compared first, and only then is the chosen one asked to be a file.
A directory has a time as well, so it can be chosen, and hides the other profile
(`ToolChoice.Hides`).  Where nothing is hidden the tool that is found is the file
that was changed last, the release one on a tie, and there is none only if neither
profile is a file (`ToolChoice.resolve_newest`):

    hidden     →  resolve = error (toolNotFound other)
    otherwise  →  resolve = the absolute form of the newest file

What is missing counts as older than everything.
-/
import GuardCost.Proofs.NamedFiles
import Mathlib.Order.WithBot

namespace GuardCost

namespace ToolChoice

variable {w : World} {root path other release debug : Path} {toolName : String}

/-- When the file or directory of a profile was last changed; what is missing is
older than everything. -/
def changed (w : World) (path : Path) : WithBot Time :=
  match w.files.modified? w.current path with
  | some time => time
  | none => ⊥

/-- The file of two profiles that was changed last, the release one on a tie; what
is no file counts as missing. -/
structure IsNewest (w : World) (release debug path : Path) : Prop where
  file : w.files.isFile w.current path = true
  chosen :
    path = release ∧
        (w.files.isFile w.current debug = true → changed w debug ≤ changed w release) ∨
      path = debug ∧
        (w.files.isFile w.current release = true → changed w release < changed w debug)

/-- What stands at one profile and is no file is chosen over the file of the other
one. -/
inductive Hides (w : World) (release debug : Path) : Path → Path → Prop
  | release : w.files.isFile w.current release = false → w.files.isFile w.current debug = true →
      changed w debug ≤ changed w release → Hides w release debug release debug
  | debug : w.files.isFile w.current debug = false → w.files.isFile w.current release = true →
      changed w release < changed w debug → Hides w release debug debug release

theorem changed_eq_bot : changed w path = ⊥ ↔ w.files.modified? w.current path = none := by
  unfold changed
  cases w.files.modified? w.current path <;> simp

theorem bot_lt_changed (h : w.files.isFile w.current path = true) : ⊥ < changed w path := by
  refine bot_lt_iff_ne_bot.2 fun hbot => ?_
  rw [changed_eq_bot, FileSystem.modified?] at hbot
  unfold FileSystem.isFile at h
  split at h
  · next hfind =>
    rw [hfind] at hbot
    cases hbot
  · cases h

/-- The path that is chosen by its time. -/
def latest (w : World) (release debug : Path) : Path :=
  if changed w release < changed w debug then debug else release

theorem newer_eq_latest (h : ⊥ < changed w release ∨ ⊥ < changed w debug) :
    newer w release debug = .ok (latest w release debug) := by
  -- where one is missing, the other is ranked above it
  unfold newer latest
  unfold changed at h ⊢
  cases hr : w.files.modified? w.current release <;>
    cases hd : w.files.modified? w.current debug <;> simp [hr, hd] at h ⊢

/-- What is chosen is one of the two profiles. -/
theorem eq_or_eq_of_newer (h : newer w release debug = .ok path) :
    path = release ∨ path = debug := by
  unfold newer at h
  split at h
  · cases h
  · obtain rfl := Except.ok.inj h
    split
    · exact .inr rfl
    · exact .inl rfl
  · exact .inr (Except.ok.inj h).symm
  · exact .inl (Except.ok.inj h).symm

theorem resolve_newest_eq (w : World) (root : Path) (toolName : String) :
    newest.resolve w root toolName =
      newer w (releasePath root toolName) (debugPath root toolName) >>= fun path =>
        if w.files.isFile w.current path then absolutePath w.currentPath path
        else .error (.toolNotFound path) := rfl

/-- A hidden file is passed over. -/
theorem Hides.latest_eq (h : Hides w release debug other path) :
    latest w release debug = other ∧ w.files.isFile w.current other = false ∧
      w.files.isFile w.current path = true := by
  cases h with
  | release hother hpath hle => exact ⟨if_neg (not_lt.2 hle), hother, hpath⟩
  | debug hother hpath hlt => exact ⟨if_pos hlt, hother, hpath⟩

/-- If nothing is hidden, the newest file is chosen. -/
theorem IsNewest.latest_eq (h : IsNewest w release debug path)
    (hhides : ∀ other path, ¬Hides w release debug other path) :
    latest w release debug = path := by
  obtain ⟨hfile, ⟨rfl, hle⟩ | ⟨rfl, hlt⟩⟩ := h
  · refine if_neg fun hlt => ?_
    -- a directory that was changed later would hide the file
    cases hdebug : w.files.isFile w.current debug with
    | false => exact hhides _ _ (.debug hdebug hfile hlt)
    | true => exact absurd hlt (not_lt.2 (hle hdebug))
  · refine if_pos (not_le.1 fun hle => ?_)
    cases hrelease : w.files.isFile w.current release with
    | false => exact hhides _ _ (.release hrelease hfile hle)
    | true => exact absurd (hlt hrelease) (not_lt.2 hle)

/-- There is a newest file if there is any. -/
theorem exists_isNewest_iff : (∃ path, IsNewest w release debug path) ↔
    w.files.isFile w.current release = true ∨ w.files.isFile w.current debug = true := by
  constructor
  · rintro ⟨path, hfile, ⟨rfl, -⟩ | ⟨rfl, -⟩⟩
    · exact .inl hfile
    · exact .inr hfile
  · intro h
    by_cases hr : w.files.isFile w.current release = true
    · by_cases hlt : w.files.isFile w.current debug = true ∧ changed w release < changed w debug
      · exact ⟨debug, hlt.1, .inr ⟨rfl, fun _ => hlt.2⟩⟩
      · exact ⟨release, hr, .inl ⟨rfl, fun hd => not_lt.1 fun h => hlt ⟨hd, h⟩⟩⟩
    · exact ⟨debug, h.resolve_left hr, .inr ⟨rfl, fun h => absurd h hr⟩⟩

theorem resolve_of_isFile
    (h : w.files.isFile w.current (releasePath root toolName) = true ∨
      w.files.isFile w.current (debugPath root toolName) = true)
    (hlatest : latest w (releasePath root toolName) (debugPath root toolName) = path) :
    newest.resolve w root toolName =
      if w.files.isFile w.current path then absolutePath w.currentPath path
      else .error (.toolNotFound path) := by
  rw [resolve_newest_eq, newer_eq_latest (h.imp bot_lt_changed bot_lt_changed), hlatest]
  rfl

/-- A tool that is found is a file of one of the profiles. -/
theorem isFile_of_resolve {q : Path} (h : newest.resolve w root toolName = .ok q) :
    w.files.isFile w.current (releasePath root toolName) = true ∨
      w.files.isFile w.current (debugPath root toolName) = true := by
  rw [resolve_newest_eq] at h
  obtain ⟨path, hpath, hq⟩ := bind_eq_ok_iff.1 h
  split at hq
  · next hfile =>
    rcases eq_or_eq_of_newer hpath with rfl | rfl
    · exact .inl hfile
    · exact .inr hfile
  · cases hq

theorem resolve_of_isNewest
    (h : IsNewest w (releasePath root toolName) (debugPath root toolName) path)
    (habs : path.isAbsolute = true) (hhides : ∀ other path,
      ¬Hides w (releasePath root toolName) (debugPath root toolName) other path) :
    ∃ q, newest.resolve w root toolName = .ok q ∧ absolutePath w.currentPath path = .ok q := by
  obtain ⟨q, hq⟩ := (Path.isPlaced_of_isAbsolute habs).absolutePath
  have hresolve := resolve_of_isFile (exists_isNewest_iff.1 ⟨path, h⟩) (h.latest_eq hhides)
  rw [h.file, if_pos rfl, hq] at hresolve
  exact ⟨q, hresolve, hq⟩

theorem resolve_of_hides
    (h : Hides w (releasePath root toolName) (debugPath root toolName) other path) :
    newest.resolve w root toolName = .error (.toolNotFound other) := by
  obtain ⟨hlatest, hno, hfile⟩ := h.latest_eq
  have hany : w.files.isFile w.current (releasePath root toolName) = true ∨
      w.files.isFile w.current (debugPath root toolName) = true := by
    cases h with
    | release => exact .inr hfile
    | debug => exact .inl hfile
  rw [resolve_of_isFile hany hlatest, hno]
  rfl

/-- What is below an absolute path is absolute. -/
theorem isAbsolute_child {p : Path} (hp : p.isAbsolute = true) (s : String) :
    (p.child s).isAbsolute = true := by
  unfold Path.child
  cases hs : (Path.ofString s).isAbsolute with
  | false => rw [Path.isAbsolute_join p hs, hp]
  | true => rwa [Path.join, if_pos hs]

theorem IsNewest.isAbsolute
    (h : IsNewest w (releasePath root toolName) (debugPath root toolName) path)
    (hroot : root.isAbsolute = true) : path.isAbsolute = true := by
  rcases h.chosen with ⟨rfl, -⟩ | ⟨rfl, -⟩
  · exact isAbsolute_child (isAbsolute_child (isAbsolute_child hroot _) _) _
  · exact isAbsolute_child (isAbsolute_child (isAbsolute_child hroot _) _) _

/-- A file that an absolute path names, its absolute form names too. -/
theorem find_of_isNewest {q : Path} (h : IsNewest w release debug path)
    (habs : path.isAbsolute = true) (hq : absolutePath w.currentPath path = .ok q)
    (here : Location) : w.files.find here q = w.files.find w.current path := by
  cases hfind : w.files.find w.current path with
  | error e =>
    have hfile := h.file
    rw [FileSystem.isFile, hfind] at hfile
    cases hfile
  | ok found => exact FileSystem.find_of_absolute_root habs (absolutePath_eq_ok_iff.1 hq) hfind here

/-- **The newest of two profiles is found unless something else hides it.**  Below
an absolute root let no profile be hidden by one that is no file.  Then a tool is
found if and only if one of the two profiles is a file, and it is the absolute form
of the one that was changed last, the release one on a tie, under which the same
file is found from every directory.  A profile that is hidden is not found, although
it is a file: the error names the other one. -/
theorem resolve_newest (w : World) {root : Path} (hroot : root.isAbsolute = true)
    (toolName : String) :
    let release := releasePath root toolName
    let debug := debugPath root toolName
    ((∀ other path, ¬Hides w release debug other path) →
      ((∃ q, newest.resolve w root toolName = .ok q) ↔
        w.files.isFile w.current release = true ∨ w.files.isFile w.current debug = true) ∧
      ∀ path, IsNewest w release debug path →
        ∃ q, newest.resolve w root toolName = .ok q ∧
          absolutePath w.currentPath path = .ok q ∧ q.isAbsolute = true ∧
          ∀ here, w.files.find here q = w.files.find w.current path) ∧
    (∀ other path, Hides w release debug other path →
      w.files.isFile w.current path = true ∧
        newest.resolve w root toolName = .error (.toolNotFound other)) := by
  intro release debug
  refine ⟨fun hhides => ⟨⟨?_, fun hfile => ?_⟩, fun path hpath => ?_⟩, fun other path hother => ?_⟩
  · rintro ⟨q, hq⟩
    exact isFile_of_resolve hq
  · obtain ⟨path, hpath⟩ := exists_isNewest_iff.2 hfile
    obtain ⟨q, hresolve, -⟩ := resolve_of_isNewest hpath (hpath.isAbsolute hroot) hhides
    exact ⟨q, hresolve⟩
  · have habs := hpath.isAbsolute hroot
    obtain ⟨q, hresolve, hq⟩ := resolve_of_isNewest hpath habs hhides
    exact ⟨q, hresolve, hq, isAbsolute_of_absolute_root habs (absolutePath_eq_ok_iff.1 hq),
      find_of_isNewest hpath habs hq⟩
  · exact ⟨hother.latest_eq.2.2, resolve_of_hides hother⟩

end ToolChoice

/-! ### Two profiles -/

namespace Sample

/-- A machine with two tools: `lower` was built in both profiles at one time, and
of `raise` the release profile holds a directory. -/
def workshop : World where
  files := .ofEntries <|
    [(["t"], .directory 0), (["t", "target"], .directory 0),
      (["t", "target", "release"], .directory 9), (["t", "target", "debug"], .directory 9),
      (["t", "target", "release", "lower"], .file [] Rights.program 5),
      (["t", "target", "debug", "lower"], .file [] Rights.program 5),
      (["t", "target", "release", "raise"], .directory 9),
      (["t", "target", "debug", "raise"], .file [] Rights.program 5)].map
        fun entry => (entry.1.map Bytes.ofString, entry.2)
  current := []
  now := 9

open ToolChoice in
theorem release_on_a_tie : (Path.ofString "/t").isAbsolute = true ∧
    newest.resolve workshop (.ofString "/t") "lower" =
      .ok (.ofString "/t/target/release/lower") := by
  have hroot : (Path.ofString "/t").isAbsolute = true := by decide
  have hrelease : workshop.files.isFile workshop.current
      (releasePath (.ofString "/t") "lower") = true := by cbv
  have hdebug : workshop.files.isFile workshop.current
      (debugPath (.ofString "/t") "lower") = true := by cbv
  have htimes : workshop.files.modified? workshop.current (debugPath (.ofString "/t") "lower") =
      workshop.files.modified? workshop.current (releasePath (.ofString "/t") "lower") := by cbv
  have hnewest : IsNewest workshop (releasePath (.ofString "/t") "lower")
      (debugPath (.ofString "/t") "lower") (releasePath (.ofString "/t") "lower") := by
    refine ⟨hrelease, .inl ⟨rfl, fun _ => le_of_eq ?_⟩⟩
    rw [changed, changed, htimes]
  have hhides : ∀ other path, ¬Hides workshop (releasePath (.ofString "/t") "lower")
      (debugPath (.ofString "/t") "lower") other path := by
    intro other path hother
    cases hother with
    | release hno => exact absurd hrelease (by simp [hno])
    | debug hno => exact absurd hdebug (by simp [hno])
  have hsame : absolutePath workshop.currentPath (releasePath (.ofString "/t") "lower") =
      .ok (.ofString "/t/target/release/lower") := by cbv
  obtain ⟨q, hresolve, hq, -⟩ := ((resolve_newest workshop hroot "lower").1 hhides).2 _ hnewest
  rw [hsame] at hq
  exact ⟨hroot, Except.ok.inj hq ▸ hresolve⟩

theorem hidden_by_a_directory :
    workshop.files.isFile workshop.current (ToolChoice.debugPath (.ofString "/t") "raise") = true ∧
      ToolChoice.newest.resolve workshop (.ofString "/t") "raise" =
        .error (.toolNotFound (ToolChoice.releasePath (.ofString "/t") "raise")) := by
  constructor <;> cbv

end Sample

end GuardCost
