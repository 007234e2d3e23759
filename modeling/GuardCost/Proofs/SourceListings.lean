/-
GuardCost/Proofs/SourceListings.lean

The sources of a program, whatever its directory holds.  A text is a *source*
if it is listed in the directory, names a file there, links followed, and ends
in one of the extensions of the program (`Program.IsSource`).  The sources that
are found are all of these and nothing else, once each and in the order of their
bytes.  The order of the listing has no say, and the sources in C alone are the
others with some left out.

    extension? name = some ext  ↔  name = stem ++ "." ++ ext,  stem not empty,
                                   no dot in ext                 (HasEnding)

except for the name of two dots, which ends in an empty extension.
-/
import GuardCost.Build.Sources
import GuardCost.Proofs.ByteOrder
import GuardCost.Proofs.Preparation
import GuardCost.Proofs.RunnableTargets
import Mathlib

namespace GuardCost

/-! ### Extensions -/

/-- A name that ends in a dot and an extension.  The dot is the last one of the
name, and not its first byte. -/
def HasEnding (ext name : Bytes) : Prop :=
  ∃ stem, stem ≠ [] ∧ Bytes.dot ∉ ext ∧ name = stem ++ Bytes.dot :: ext

/-- What stands after the last separator is free of it. -/
theorem splitLast?_eq_some {α : Type} [DecidableEq α] {sep : α} {xs before after : List α} :
    splitLast? sep xs = some (before, after) ↔ xs = before ++ sep :: after ∧ sep ∉ after := by
  rw [splitLast?, Option.map_eq_some_iff]
  constructor
  · rintro ⟨⟨back, front⟩, hsplit, hpair⟩
    obtain ⟨hxs, hback⟩ := splitFirst?_eq_some.1 hsplit
    obtain ⟨rfl, rfl⟩ := Prod.mk.inj hpair
    refine ⟨?_, by rwa [List.mem_reverse]⟩
    rw [← List.reverse_reverse xs, hxs]
    simp
  · rintro ⟨rfl, hafter⟩
    refine ⟨(after.reverse, before.reverse), splitFirst?_eq_some.2 ⟨by simp, ?_⟩, by simp⟩
    rwa [List.mem_reverse]

theorem extension?_eq_some {name ext : Bytes} :
    extension? name = some ext ↔ HasEnding ext name ∧ name ≠ [Bytes.dot, Bytes.dot] := by
  unfold extension?
  constructor
  · intro h
    split at h
    · next b bs ext' hsplit =>
      split at h
      · cases h
      · next hdots =>
        obtain ⟨hname, hext⟩ := splitLast?_eq_some.1 hsplit
        cases h
        exact ⟨⟨b :: bs, List.cons_ne_nil _ _, hext, hname⟩, hdots⟩
    · cases h
  · rintro ⟨⟨stem, hstem, hext, hname⟩, hdots⟩
    obtain ⟨b, bs, rfl⟩ := List.exists_cons_of_ne_nil hstem
    rw [splitLast?_eq_some.2 ⟨hname, hext⟩]
    exact if_neg hdots

/-- No program has sources without an extension. -/
theorem Program.ne_empty_of_mem_sourceExtensions {p : Program} {ext : String}
    (h : ext ∈ p.sourceExtensions) : ext ≠ "" := by
  rintro rfl
  unfold sourceExtensions at h
  split at h <;> revert h <;> decide

theorem hasExtension_iff (p : Program) (name : Bytes) :
    hasExtension p.sourceExtensions name = true ↔
      ∃ ext ∈ p.sourceExtensions, HasEnding (Bytes.ofString ext) name := by
  rw [hasExtension, Option.any_eq_true]
  constructor
  · rintro ⟨ext, hext, hany⟩
    obtain ⟨e, he, heq⟩ := List.any_eq_true.1 hany
    obtain rfl := beq_iff_eq.1 heq
    exact ⟨e, he, (extension?_eq_some.1 hext).1⟩
  · rintro ⟨e, he, hending⟩
    refine ⟨Bytes.ofString e, extension?_eq_some.2 ⟨hending, ?_⟩,
      List.any_eq_true.2 ⟨e, he, beq_self_eq_true _⟩⟩
    -- after the last of two dots nothing is left
    rintro rfl
    obtain ⟨stem, hstem, -, hname⟩ := hending
    refine Program.ne_empty_of_mem_sourceExtensions he (Bytes.ofString_injective ?_)
    have hlength := congrArg List.length hname
    have hpos := List.length_pos_iff.2 hstem
    simp only [List.length_append, List.length_cons, List.length_nil] at hlength
    exact List.length_eq_zero_iff.1 (by omega)

/-! ### Texts in ascending order -/

/-- Texts in the strict order of their bytes. -/
def Ascending (texts : List String) : Prop :=
  texts.Pairwise fun s t => Bytes.ofString s < Bytes.ofString t

theorem ascending_iff {texts : List String} : Ascending texts ↔ texts.Pairwise (· < ·) := by
  simp only [Ascending, Bytes.ofString_lt_iff]

theorem ascending_sortTexts {texts : List String} (h : texts.Nodup) :
    Ascending (sortTexts texts) := by
  have hnodup : (sortTexts texts).Nodup := (List.mergeSort_perm _ _).nodup_iff.2 h
  refine ascending_iff.2 ((pairwise_sortTexts texts).imp₂ ?_ hnodup)
  intro s t hle hne
  exact lt_of_le_of_ne hle hne

/-- Of two lists in ascending order, one with fewer members is the other with
some left out. -/
theorem Ascending.sublist {xs ys : List String} (hx : Ascending xs) (hy : Ascending ys)
    (h : xs ⊆ ys) : xs.Sublist ys := by
  have hx' := ascending_iff.1 hx
  exact List.sublist_of_subperm_of_pairwise (List.subperm_of_subset hx'.nodup h) hx'
    (ascending_iff.1 hy)

/-! ### Sources -/

namespace Program

variable {p : Program} {w w' : World} {dir : Path} {names : List Bytes}

/-- A source of a program in a directory with these names. -/
structure IsSource (p : Program) (w : World) (dir : Path) (names : List Bytes) (s : String) :
    Prop where
  listed : Bytes.ofString s ∈ names
  /-- It names a file, links followed. -/
  file : w.files.isFile w.current (dir.child s) = true
  ending : ∃ ext ∈ p.sourceExtensions, HasEnding (Bytes.ofString ext) (Bytes.ofString s)

theorem mem_selectSources {s : String} :
    s ∈ p.selectSources w dir names ↔ p.IsSource w dir names s := by
  rw [selectSources, sortTexts, List.mem_mergeSort, List.mem_filterMap]
  constructor
  · rintro ⟨name, hname, hchosen⟩
    split at hchosen
    · next hcond =>
      obtain rfl := Bytes.ofString_of_decode? hchosen
      obtain ⟨hfile, hext⟩ := Bool.and_eq_true_iff.1 hcond
      exact ⟨hname, hfile, (hasExtension_iff p _).1 hext⟩
    · cases hchosen
  · intro h
    refine ⟨Bytes.ofString s, h.listed, ?_⟩
    have hfile : w.files.isFile w.current (dir.join ⟨Bytes.ofString s⟩) = true := h.file
    rw [hfile, (hasExtension_iff p _).2 h.ending]
    exact Bytes.decode?_ofString s

/-- A name that is listed once makes one source. -/
theorem ascending_selectSources (h : names.Nodup) : Ascending (p.selectSources w dir names) := by
  -- two names that are decoded to one text are the same bytes
  refine ascending_sortTexts (h.filterMap fun name name' s hs hs' => ?_)
  have hname : ∀ {name}, s ∈ (if w.files.isFile w.current (dir.join ⟨name⟩) &&
      hasExtension p.sourceExtensions name then Bytes.decode? name else none) →
        name = Bytes.ofString s := by
    intro name hs
    split at hs
    · exact Bytes.ofString_of_decode? hs
    · cases hs
  rw [hname hs, hname hs']

theorem nodup_of_list (h : w.files.list w.current dir = .ok names) : names.Nodup := by
  rw [FileSystem.list_eq] at h
  split at h
  · cases h
    exact w.files.nodup_children _
  · cases h
  · cases h

theorem selectSources_eq_nil :
    p.selectSources w dir names = [] ↔ ∀ s, ¬p.IsSource w dir names s := by
  simp only [List.eq_nil_iff_forall_not_mem, mem_selectSources]

/-- The order of the listing has no say. -/
theorem selectSources_perm {listing : List Bytes} (h : listing.Perm names) :
    p.selectSources w dir listing = p.selectSources w dir names :=
  sortTexts_perm (h.filterMap _)

/-- A program has at least the sources that it has in C alone. -/
theorem IsSource.of_c {s : String}
    (h : IsSource { p with multiLanguage := false } w dir names s) :
    IsSource { p with multiLanguage := true } w dir names s := by
  obtain ⟨ext, hext, hending⟩ := h.ending
  obtain rfl := List.mem_singleton.1 hext
  exact ⟨h.listed, h.file, "c", List.mem_cons_self, hending⟩

theorem findSources_of_list (h : w.files.list w.current dir = .ok names) :
    p.findSources w dir =
      if p.selectSources w dir names = [] then .error (.noSources p.name dir)
      else .ok (p.selectSources w dir names) := by
  rw [findSources, h]
  dsimp only
  split
  · next hnil => rw [if_pos hnil]
  · next hne => rw [if_neg hne]

theorem findSources_eq_ok_iff (h : w.files.list w.current dir = .ok names)
    {sources : List String} :
    p.findSources w dir = .ok sources ↔
      p.selectSources w dir names = sources ∧ sources ≠ [] := by
  rw [findSources_of_list h]
  split
  · next hnil =>
    refine ⟨nofun, fun ⟨heq, hne⟩ => absurd (heq.symm.trans hnil) hne⟩
  · next hne =>
    refine ⟨fun heq => ?_, fun ⟨heq, _⟩ => congrArg _ heq⟩
    obtain rfl := Except.ok.inj heq
    exact ⟨rfl, hne⟩

/-- Machines with the same files list the same names, each in its own order. -/
theorem list_of_alike (halike : World.Alike ∅ w w')
    (h : w.files.list w.current dir = .ok names) :
    ∃ listing, w'.files.list w'.current dir = .ok listing ∧ listing.Perm names := by
  have hapart : w.Apart ∅ dir := fun loc _ => Set.notMem_empty loc
  rw [FileSystem.list_eq] at h ⊢
  rw [halike.seen hapart]
  split at h
  · next R t hdir =>
    cases h
    refine ⟨_, rfl, (List.perm_ext_iff_of_nodup (w'.files.nodup_children R)
      (w.files.nodup_children R)).2 fun name => ?_⟩
    rw [FileSystem.mem_children, FileSystem.mem_children, halike.node _ (Set.notMem_empty _)]
  · cases h
  · cases h

theorem selectSources_of_alike (halike : World.Alike ∅ w w') :
    p.selectSources w' dir names = p.selectSources w dir names := by
  have hfile : ∀ q, w'.files.isFile w'.current q = w.files.isFile w.current q :=
    fun q => halike.isFile fun loc _ => Set.notMem_empty loc
  simp only [selectSources, hfile]

/-- **The sources that are found are exactly the sources, in ascending order.**
There is an error only where there is none of them.  They are the same in
whatever order the directory is listed, and those in C alone are found among
the others, in the same order. -/
theorem findSources_exact (hlist : w.files.list w.current dir = .ok names) :
    (∃ sources, Ascending sources ∧ (∀ s, s ∈ sources ↔ p.IsSource w dir names s) ∧
      (sources ≠ [] → p.findSources w dir = .ok sources) ∧
      ∀ listing, listing.Perm names → p.selectSources w dir listing = sources) ∧
    (p.findSources w dir = .error (.noSources p.name dir) ↔
      ∀ s, ¬p.IsSource w dir names s) ∧
    (∀ w', World.Alike ∅ w w' → p.findSources w' dir = p.findSources w dir) ∧
    ∀ inC, findSources { p with multiLanguage := false } w dir = .ok inC →
      ∃ inAny, findSources { p with multiLanguage := true } w dir = .ok inAny ∧
        inC.Sublist inAny := by
  have hnodup := nodup_of_list hlist
  refine ⟨⟨p.selectSources w dir names, ascending_selectSources hnodup,
    fun s => mem_selectSources, fun hne => (findSources_eq_ok_iff hlist).2 ⟨rfl, hne⟩,
    fun listing hperm => selectSources_perm hperm⟩, ?_, ?_, ?_⟩
  · rw [findSources_of_list hlist, ← selectSources_eq_nil]
    split
    · next hnil => exact iff_of_true rfl hnil
    · next hne => exact iff_of_false nofun hne
  · intro w' halike
    obtain ⟨listing, hlist', hperm⟩ := list_of_alike halike hlist
    rw [findSources_of_list hlist, findSources_of_list hlist', selectSources_of_alike halike,
      selectSources_perm hperm]
  · intro inC hC
    obtain ⟨rfl, hne⟩ := (findSources_eq_ok_iff hlist).1 hC
    have hsub : (selectSources { p with multiLanguage := false } w dir names).Sublist
        (selectSources { p with multiLanguage := true } w dir names) := by
      refine (ascending_selectSources hnodup).sublist (ascending_selectSources hnodup) ?_
      intro s hs
      exact mem_selectSources.2 (mem_selectSources.1 hs).of_c
    refine ⟨_, (findSources_eq_ok_iff hlist).2 ⟨rfl, ?_⟩, hsub⟩
    intro hnil
    rw [hnil, List.sublist_nil] at hsub
    exact hne hsub

end Program

/-! ### A directory with sources and other files -/

namespace Sample

/-- The names in the directory. -/
def shelved : List Bytes :=
  ["notes.txt", "m.cc", "b.c", ".c", "x..c", "B.c", "old.c"].map Bytes.ofString ++
    [0xff :: Bytes.ofString ".c"]

/-- A machine with the directory; one of the files in it is a directory. -/
def shelf : World where
  files := .ofEntries (([Bytes.ofString "d"], .directory 0) ::
    shelved.map fun name => ([Bytes.ofString "d", name],
      if name = Bytes.ofString "old.c" then .directory 0 else .file [] Rights.plain 0))
  current := []
  now := 0

theorem sources_of_shelf :
    shelf.files.list shelf.current (.ofString "/d") = .ok shelved ∧
      ∀ s, s ∈ ["B.c", "b.c", "x..c"] ↔
        Program.IsSource { name := "p" } shelf (.ofString "/d") shelved s := by
  have hlist : shelf.files.list shelf.current (.ofString "/d") = .ok shelved := by cbv
  have hselect : Program.selectSources { name := "p" } shelf (.ofString "/d") shelved =
      ["B.c", "b.c", "x..c"] := by cbv
  obtain ⟨⟨sources, -, hmem, -, hsame⟩, -⟩ :=
    Program.findSources_exact (p := { name := "p" }) hlist
  rw [← hselect, hsame shelved (.refl _)]
  exact ⟨hlist, hmem⟩

end Sample

end GuardCost
