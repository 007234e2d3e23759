/-
GuardCost/Proofs/NamedFiles.lean

What the absolute form of a path names.  The absolute form is walked from the
root, through the names of the current directory and then along the steps of the
path; dots are left out.  So if the current directory is one whose names lead
there from the root (`FileSystem.Stands`), a path and its absolute form name the
same (`find_of_absolute`), and from then on the current directory has no say:

    fs.find here p = .ok found,  p.absolute (.ok here.path) = .ok q
      →  fs.find here' q = .ok found              for every directory here'

Only the length of a path has a limit, which an absolute form can pass if the
path itself is relative.  The other direction fails for a dot at the end, which
asks for a directory and is left out.
-/
import GuardCost.Proofs.AbsolutePaths

namespace GuardCost

open GuardCost.Path

/-! ### Parts of spelled paths -/

/-- With a slash before each, the parts of a path are the path behind a slash. -/
theorem flatMap_partsAt {α : Type} [DecidableEq α] (sep : α) (xs : List α) :
    (partsAt sep xs).flatMap (fun part => sep :: part) = sep :: xs := by
  induction xs with
  | nil => rfl
  | cons x rest ih =>
    obtain ⟨part, parts, hp⟩ := List.exists_cons_of_ne_nil (partsAt_ne_nil sep rest)
    rw [hp, List.flatMap_cons] at ih
    simp only [partsAt, hp]
    split
    · next hx =>
      rw [List.flatMap_cons, List.flatMap_cons, ih, hx]
      rfl
    · rw [List.flatMap_cons]
      simpa using ih

namespace Path

variable {double slash : Bool} {steps : List Bytes}

theorem parts_stem (hsteps : ∀ step ∈ steps, IsStep step) :
    parts ⟨stem double steps⟩ = (if double then [[], []] else [[]]) ++ steps := by
  induction steps using List.reverseRecOn with
  | nil => cases double <;> rfl
  | append_singleton init last ih =>
    have hlast := hsteps last (by simp)
    have hinit := ih fun step hmem => hsteps step (List.mem_append_left _ hmem)
    rw [parts] at hinit ⊢
    rw [stem_snoc, partsAt_append, hinit, partsAt_of_notMem hlast.no_slash, List.append_assoc]

/-- The names of a spelled path are its steps. -/
theorem names_spelled (hsteps : ∀ step ∈ steps, IsStep step) :
    (spelled double steps slash).names = steps := by
  have hkept : steps.filter (fun part => part != []) = steps :=
    List.filter_eq_self.2 fun step hmem => by simpa using (hsteps step hmem).ne_nil
  have hparts : parts ⟨stem double steps⟩ = _ := parts_stem hsteps
  by_cases h : slash ∨ steps = []
  · rw [spelled_closed h, names, parts, partsAt_append]
    rw [parts] at hparts
    rw [hparts, List.filter_append, List.filter_append, hkept]
    cases double <;> simp [partsAt]
  · obtain ⟨hslash, hne⟩ := not_or.1 h
    rw [Bool.not_eq_true] at hslash
    rw [hslash, spelled_open hne, names, hparts, List.filter_append, hkept]
    cases double <;> rfl

theorem steps_eq_filter_names (p : Path) :
    p.steps = p.names.filter fun part => part ≠ [] ∧ part ≠ [Bytes.dot] := by
  rw [steps, names, List.filter_filter]
  refine List.filter_congr fun part _ => ?_
  by_cases h : part = [] <;> simp [h]

/-- The bytes of a step are bytes of the path. -/
theorem mem_of_mem_steps {p : Path} {part : Bytes} (hpart : part ∈ p.steps) {b : UInt8}
    (hb : b ∈ part) : b ∈ p.bytes := by
  have hmem : b ∈ Bytes.slash :: p.bytes := by
    rw [← flatMap_partsAt]
    exact List.mem_flatMap.2 ⟨part, (List.mem_filter.1 hpart).1, List.mem_cons_of_mem _ hb⟩
  refine (List.mem_cons.1 hmem).resolve_left ?_
  rintro rfl
  exact (isStep_of_mem_steps hpart).no_slash hb

theorem mem_spelled {b : UInt8} (h : b ∈ (spelled double steps slash).bytes) :
    b = Bytes.slash ∨ ∃ step ∈ steps, b ∈ step := by
  simp only [spelled, stem, List.mem_append, List.mem_flatMap, List.mem_cons] at h
  rcases h with (h | ⟨step, hstep, rfl | h⟩) | h
  · split at h
    · exact .inl (List.mem_singleton.1 h)
    · cases h
  · exact .inl rfl
  · exact .inr ⟨step, hstep, h⟩
  · split at h
    · exact .inl (List.mem_singleton.1 h)
    · cases h

/-! ### Lengths -/

theorem length_stem (double : Bool) (steps : List Bytes) :
    (stem double steps).length = (stem false steps).length + if double then 1 else 0 := by
  cases double <;> simp [stem, Nat.add_comm]

/-- Leaving out parts makes no path longer. -/
theorem length_stem_steps (bytes : Bytes) :
    (stem false (Path.steps ⟨bytes⟩)).length ≤ bytes.length + 1 := by
  have hsub : (stem false (Path.steps ⟨bytes⟩)).Sublist (Bytes.slash :: bytes) := by
    rw [← flatMap_partsAt]
    exact List.filter_sublist.flatMap _
  simpa using hsub.length_le

/-- Spelling the path behind one slash anew makes it no longer. -/
theorem length_spelled_root (double : Bool) {rest : Bytes} {slash : Bool}
    (hslash : slash = true → rest ≠ [] → rest.getLast? = some Bytes.slash) :
    (spelled double (Path.steps ⟨rest⟩) slash).bytes.length ≤
      rest.length + 1 + if double then 1 else 0 := by
  have hlength := length_stem_steps rest
  have hdouble := length_stem double (Path.steps ⟨rest⟩)
  by_cases hsteps : Path.steps ⟨rest⟩ = []
  · cases double <;> simp [spelled, stem, hsteps]
  · cases slash with
    | false =>
      rw [spelled_open hsteps]
      show (stem double _).length ≤ _
      omega
    | true =>
      have hne : rest ≠ [] := by
        rintro rfl
        exact hsteps rfl
      -- the final slash stands for a part that is left out
      obtain ⟨front, rfl⟩ := List.getLast?_eq_some_iff.1 (hslash rfl hne)
      have hfront : Path.steps ⟨front ++ [Bytes.slash]⟩ = Path.steps ⟨front⟩ := by
        rw [steps_append_slash]
        exact List.append_nil _
      have hlength := length_stem_steps front
      rw [hfront] at hdouble
      rw [spelled_closed (.inl rfl), hfront]
      simp only [List.length_append, List.length_cons, List.length_nil]
      omega

/-- Spelling an absolute path anew makes it no longer. -/
theorem length_spelled_le {p : Path} (hp : p.isAbsolute = true) :
    (spelled p.hasDoubleRoot p.steps p.endsWithSlash).bytes.length ≤ p.bytes.length := by
  obtain ⟨rest, hrest⟩ : ∃ rest, p.bytes = Bytes.slash :: rest := by
    simpa [isAbsolute, List.head?_eq_some_iff] using hp
  have hends : ∀ (front : Bytes) {rest : Bytes}, p.bytes = front ++ rest → p.endsWithSlash = true →
      rest ≠ [] → rest.getLast? = some Bytes.slash := by
    intro front rest hbytes hslash hne
    rw [endsWithSlash, hbytes, List.getLast?_append_of_ne_nil _ hne] at hslash
    exact beq_iff_eq.1 hslash
  have hsteps : ∀ (front : Bytes) {rest : Bytes}, p.bytes = front ++ Bytes.slash :: rest →
      p.steps = Path.steps ⟨front⟩ ++ Path.steps ⟨rest⟩ := by
    intro front rest hbytes
    rw [← steps_append_slash, ← hbytes]
  cases hdouble : p.hasDoubleRoot with
  | false =>
    have hlength := length_spelled_root false (hends [Bytes.slash] hrest)
    rw [hsteps [] hrest, hrest]
    exact hlength
  | true =>
    obtain ⟨rest, hrest, -⟩ := hasDoubleRoot_iff.1 hdouble
    have hlength := length_spelled_root true (hends [Bytes.slash, Bytes.slash] hrest)
    rw [hsteps [Bytes.slash] hrest, hrest]
    exact hlength

end Path

namespace FileSystem

variable {fs : FileSystem}

/-! ### Walks without dots -/

/-- Parts of a path of which some may be left out that lead nowhere. -/
inductive Thinned : List Bytes → List Bytes → Prop
  | nil : Thinned [] []
  | keep (part : Bytes) {xs ys : List Bytes} : Thinned xs ys → Thinned (part :: xs) (part :: ys)
  | drop {part : Bytes} {xs ys : List Bytes} :
      part = [] ∨ part = [Bytes.dot] → Thinned xs ys → Thinned (part :: xs) ys

namespace Thinned

theorem append_left (front : List Bytes) {xs ys : List Bytes} (h : Thinned xs ys) :
    Thinned (front ++ xs) (front ++ ys) := by
  induction front with
  | nil => exact h
  | cons x front ih => exact .keep x ih

theorem filter (xs : List Bytes) :
    Thinned xs (xs.filter fun part => part ≠ [] ∧ part ≠ [Bytes.dot]) := by
  induction xs with
  | nil => exact .nil
  | cons x xs ih =>
    by_cases hx : x = [] ∨ x = [Bytes.dot]
    · rw [List.filter_cons_of_neg (by simpa [or_iff_not_imp_left] using hx)]
      exact .drop hx ih
    · rw [List.filter_cons_of_pos (by simpa [not_or] using hx)]
      exact .keep x ih

theorem eq_nil {ys : List Bytes} (h : Thinned [] ys) : ys = [] := by
  cases h
  rfl

/-- Only parts that lead nowhere can go. -/
theorem cons {part : Bytes} {xs ys : List Bytes} (h : Thinned (part :: xs) ys) :
    (∃ zs, ys = part :: zs ∧ Thinned xs zs) ∨
      ((part = [] ∨ part = [Bytes.dot]) ∧ Thinned xs ys) := by
  cases h with
  | keep _ h => exact .inl ⟨_, rfl, h⟩
  | drop hpart h => exact .inr ⟨hpart, h⟩

end Thinned

/-- **A walk to something leads there as well without the parts that lead
nowhere.**  A missing file and one that is no directory have nothing after them,
so nothing is left out there. -/
theorem walk_thinned {n : Nat} {here : Location} {todo todo' : List Bytes} {loc : Location}
    (h : Thinned todo todo') (hw : fs.walk true n here todo = .ok loc) :
    fs.walk true n here todo' = .ok loc := by
  -- along the walk, whatever it has left to do may be thinned
  induction n, here, todo using walk_induction generalizing todo' with
  | nil n here =>
    rw [h.eq_nil]
    exact hw
  | skip n here part rest hp ih =>
    rw [walk_skip fs true n here rest hp] at hw
    rcases h.cons with ⟨rest', rfl, hrest⟩ | ⟨-, hrest⟩
    · rw [walk_skip fs true n here rest' hp]
      exact ih hrest hw
    · exact ih hrest hw
  | up n here rest ih =>
    rw [walk_up] at hw
    rcases h.cons with ⟨rest', rfl, hrest⟩ | ⟨hp, -⟩
    · rw [walk_up]
      exact ih hrest hw
    · exact absurd hp (by decide)
  | name n here part rest hp ihd ihl =>
    -- a name is no part that leads nowhere, so it was kept
    obtain ⟨rest', rfl, hrest⟩ := h.cons.resolve_right fun hskip =>
      hskip.1.elim hp.ne_nil hp.ne_dot
    obtain ⟨hlong, ⟨rfl, -, -⟩ | ⟨hd, hw'⟩ | ⟨m, target, rfl, hlink, hw'⟩⟩ := walk_name_cases hp hw
    · rw [hrest.eq_nil]
      exact hw
    · rw [walk_into fs true n rest' hp hlong hd]
      exact ihd hrest hw'
    · rw [walk_link fs m hp hlong hlink (by simp)]
      -- what a link names is walked in full, ahead of what was thinned
      exact ihl m target rfl (hrest.append_left _) hw'

/-! ### Directories with a path -/

/-- A location that its names lead to from the root. -/
structure Stands (fs : FileSystem) (here : Location) : Prop where
  names : ∀ name ∈ here, IsSegment name ∧ (0 : UInt8) ∉ name ∧ name.length ≤ longestName
  directories : ∀ front, front <+: here → fs.HasDirectory front

theorem Stands.isStep {here : Location} (h : fs.Stands here) : ∀ name ∈ here, IsStep name :=
  fun name hmem => (h.names name hmem).1.isStep

theorem stands_root (fs : FileSystem) : fs.Stands [] where
  names := fun _ h => nomatch h
  directories := by
    intro front h
    rw [List.prefix_nil.1 h]
    exact fs.node?_root

/-- From the root the names of a directory lead there. -/
theorem Stands.walk {here : Location} (h : fs.Stands here) (fl : Bool) (n : Nat)
    (rest : List Bytes) : fs.walk fl n [] (here ++ rest) = fs.walk fl n here rest := by
  have hfrom : ∀ after before, before ++ after = here →
      fs.walk fl n before (after ++ rest) = fs.walk fl n here rest := by
    intro after
    induction after with
    | nil =>
      intro before hsplit
      rw [← hsplit, List.append_nil]
      rfl
    | cons name after ih =>
      intro before hsplit
      obtain ⟨hname, -, hlong⟩ := h.names name (hsplit ▸ by simp)
      have hd : fs.HasDirectory (before ++ [name]) := by
        refine h.directories _ ⟨after, ?_⟩
        rw [← hsplit, List.append_assoc]
        rfl
      rw [List.cons_append, walk_into fs fl n _ hname.toIsName hlong hd]
      exact ih (before ++ [name]) (by rw [← hsplit, List.append_assoc]; rfl)
  exact hfrom here [] rfl

/-! ### What a path names -/

theorem eq_of_settle {p : Path} {loc loc' : Location} (h : fs.settle p loc' = .ok loc) :
    loc' = loc := by
  unfold settle at h
  split at h <;> (try split at h) <;> cases h <;> rfl

theorem locate_eq_ok_iff {here : Location} {p : Path} {fl : Bool} {loc : Location} :
    fs.locate here p fl = .ok loc ↔
      (p.bytes ≠ [] ∧ (0 : UInt8) ∉ p.bytes ∧ p.bytes.length ≤ longestPath) ∧
      fs.walk (fl || p.endsWithSlash) linkAllowance (startOf here p) p.names = .ok loc ∧
      fs.settle p loc = .ok loc := by
  rw [locate_eq]
  by_cases hnil : p.bytes = []
  · simp [hnil]
  by_cases hzero : (0 : UInt8) ∈ p.bytes
  · simp [hzero, hnil]
  by_cases hlong : longestPath < p.bytes.length
  · simp [hzero, hnil, hlong]
  rw [if_neg hnil, if_neg hzero, if_neg hlong]
  constructor
  · intro h
    obtain ⟨loc', hw, hsettle⟩ := bind_eq_ok_iff.1 h
    obtain rfl := eq_of_settle hsettle
    exact ⟨⟨hnil, hzero, Nat.not_lt.1 hlong⟩, hw, hsettle⟩
  · rintro ⟨-, hw, hsettle⟩
    exact bind_eq_ok_iff.2 ⟨loc, hw, hsettle⟩

theorem find_eq_ok_iff {here : Location} {p : Path} {loc : Location} {node : Node} :
    fs.find here p = .ok (loc, node) ↔
      fs.locate here p true = .ok loc ∧ fs.lookup? loc = some node := by
  unfold find
  constructor
  · intro h
    obtain ⟨loc', hloc, h⟩ := bind_eq_ok_iff.1 h
    split at h
    · next hnode =>
      cases h
      exact ⟨hloc, hnode⟩
    · cases h
  · rintro ⟨hloc, hnode⟩
    refine bind_eq_ok_iff.2 ⟨loc, hloc, ?_⟩
    rw [hnode]

/-- A directory with a path that is too long cannot be listed. -/
theorem list_ne_ok {here : Location} {p : Path} (h : longestPath < p.bytes.length)
    (names : List Bytes) : fs.list here p ≠ .ok names := by
  intro hlist
  obtain ⟨⟨loc, node⟩, hfind, -⟩ := bind_eq_ok_iff.1 hlist
  have hfits := (locate_eq_ok_iff.1 (find_eq_ok_iff.1 hfind).1).1.2.2
  exact Nat.not_lt_of_le hfits h

/-- The current directory has no say in what an absolute path names. -/
theorem find_of_isAbsolute {p : Path} (hp : p.isAbsolute = true) (here here' : Location) :
    fs.find here p = fs.find here' p := by
  have hlocate : fs.locate here p true = fs.locate here' p true := by
    rw [locate_eq, locate_eq, startOf, startOf, if_pos hp, if_pos hp]
  rw [find, find, hlocate]

/-- A slash at the end of another path asks for no more than one at the end of
this path does, or for what the root is. -/
theorem settle_of_slash {p q : Path} {loc : Location} (h : fs.settle p loc = .ok loc)
    (hslash : q.endsWithSlash = true → p.endsWithSlash = true ∨ loc = []) :
    fs.settle q loc = .ok loc := by
  cases hq : q.endsWithSlash with
  | false => exact settle_of_not_endsWithSlash fs hq loc
  | true =>
    rcases hslash hq with hp | rfl
    · rw [settle, hp] at h
      rw [settle, hq]
      exact h
    · rfl

section
variable {here : Location} (hhere : fs.Stands here) {p q : Path}
include hhere

/-- The bytes of an absolute form but its slashes are those of the path and of the
current directory. -/
theorem Stands.zero_notMem (hzero : (0 : UInt8) ∉ p.bytes) {double slash : Bool} :
    (0 : UInt8) ∉ (spelled double (p.allSteps here) slash).bytes := by
  intro hmem
  obtain hslash | ⟨step, hstep, hmem⟩ := mem_spelled hmem
  · revert hslash
    decide
  · unfold allSteps at hstep
    split at hstep
    · exact hzero (mem_of_mem_steps hstep hmem)
    · rcases List.mem_append.1 hstep with hstep | hstep
      · exact (hhere.names step hstep).2.1 hmem
      · exact hzero (mem_of_mem_steps hstep hmem)

/-- A walk along a path is one from the root along all its steps. -/
theorem Stands.walk_allSteps {n : Nat} {loc : Location}
    (hw : fs.walk true n (startOf here p) p.names = .ok loc) :
    fs.walk true n [] (p.allSteps here) = .ok loc := by
  have hthin : Thinned p.names p.steps := by
    rw [steps_eq_filter_names]
    exact .filter _
  have hsteps := walk_thinned hthin hw
  unfold startOf at hsteps
  unfold allSteps
  split
  · next hp => rwa [if_pos hp] at hsteps
  · next hp =>
    rw [if_neg hp] at hsteps
    rwa [hhere.walk]

/-- **What a path names, its absolute form names too, from every directory.** -/
theorem find_of_absolute (hq : p.absolute (.ok here.path) = .ok q)
    (hfits : p.isAbsolute = true ∨ q.bytes.length ≤ longestPath) {found : Location × Node}
    (h : fs.find here p = .ok found) (here' : Location) : fs.find here' q = .ok found := by
  obtain ⟨loc, node⟩ := found
  obtain ⟨hlocate, hnode⟩ := find_eq_ok_iff.1 h
  obtain ⟨⟨-, hzero, hlong⟩, hw, hsettle⟩ := locate_eq_ok_iff.1 hlocate
  have hsteps := isStep_of_mem_allSteps (p := p) hhere.isStep
  have hspelled := eq_spelled_of_absolutePath hhere.isStep (absolutePath_eq_ok_iff.2 hq)
  have hroot := hhere.walk_allSteps hw
  refine find_eq_ok_iff.2 ⟨locate_eq_ok_iff.2 ⟨⟨?_, ?_, ?_⟩, ?_, ?_⟩, hnode⟩
  · rw [hspelled]
    exact spelled_ne_nil
  · rw [hspelled]
    exact hhere.zero_notMem hzero
  · -- only in front of a relative path is the current directory added
    refine hfits.elim (fun hp => ?_) id
    rw [hspelled, allSteps, if_pos hp]
    exact (length_spelled_le hp).trans hlong
  · rw [startOf, if_pos (hspelled ▸ isAbsolute_spelled _ _ _), hspelled, names_spelled hsteps,
      Bool.true_or]
    exact hroot
  · -- a form without steps ends in a slash too, but it names the root
    refine settle_of_slash hsettle fun hends => ?_
    rw [hspelled, endsWithSlash_spelled _ _ hsteps, decide_eq_true_eq] at hends
    refine hends.imp id fun hnil => ?_
    rw [hnil, walk_nil] at hroot
    exact (Except.ok.inj hroot).symm

end

/-- What an absolute path names, its absolute form names too. -/
theorem find_of_absolute_root {p q : Path} {current : Except SystemError Path}
    (hp : p.isAbsolute = true) (hq : p.absolute current = .ok q) {here : Location}
    {found : Location × Node} (h : fs.find here p = .ok found) (here' : Location) :
    fs.find here' q = .ok found := by
  rw [Path.absolute_of_isAbsolute hp current (.ok (Location.path []))] at hq
  rw [find_of_isAbsolute hp here []] at h
  exact find_of_absolute fs.stands_root hq (.inl hp) h here'

end FileSystem

theorem isAbsolute_of_absolute_root {p q : Path} {current : Except SystemError Path}
    (hp : p.isAbsolute = true) (hq : p.absolute current = .ok q) : q.isAbsolute = true := by
  rw [Path.absolute_of_isAbsolute hp current (.ok (Location.path []))] at hq
  exact isAbsolute_of_absolutePath (by simp) (absolutePath_eq_ok_iff.2 hq)

theorem World.eq_of_currentPath {w : World} {here : Path} (h : w.currentPath = .ok here) :
    here = w.current.path := by
  unfold currentPath at h
  split at h
  · exact (Except.ok.inj h).symm
  · cases h

/-- **A path that has an absolute form has it from a directory that its names lead
to:** the current one if it is known, and otherwise the root. -/
theorem exists_stands_of_absolutePath {w : World} {p q : Path}
    (hcurrent : ∀ here, w.currentPath = .ok here → w.files.Stands w.current)
    (hq : absolutePath w.currentPath p = .ok q) :
    ∃ here, w.files.Stands here ∧ absolutePath (.ok here.path) p = .ok q ∧
      w.files.find w.current p = w.files.find here p ∧
      (w.currentPath = .ok here.path ∨ here = []) := by
  cases hknown : w.currentPath with
  | ok here =>
    obtain rfl := World.eq_of_currentPath hknown
    exact ⟨w.current, hcurrent _ hknown, hknown ▸ hq, rfl, .inl rfl⟩
  | error cause =>
    -- without a current directory only absolute paths have absolute forms
    have hp : p.isAbsolute = true := by
      by_contra hrelative
      have hne := Path.ne_nil_of_absolute (absolutePath_eq_ok_iff.1 hq)
      exact Path.isPlaced_of_ok hq cause (.relative hne (by simpa using hrelative) hknown)
    refine ⟨[], w.files.stands_root, ?_, FileSystem.find_of_isAbsolute hp _ _, .inr rfl⟩
    rw [absolutePath_eq_ok_iff, Path.absolute_of_isAbsolute hp _ w.currentPath]
    exact absolutePath_eq_ok_iff.1 hq

end GuardCost
