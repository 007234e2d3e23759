/-
GuardCost/Proofs/Preparation.lean

What the preparation of a program depends on.  A program is *sheltered* from
some locations if they have no say in where its directories and its inputs are:
no way to its directory, to its output directory, to a file that may be one of
its sources or to an input of a stage leads by such a location, and none of them
is a place for a source (`Pipeline.Sheltered`).

Then the preparation comes to the same on machines that are alike outside those
locations (`Sheltered.prepare_agrees`): a listing of a directory is determined
up to order by what stands where, and the sources are sorted.  A preparation
that succeeds leaves a site for the stages (`Sheltered.site`).
-/
import GuardCost.Proofs.Confinement
import Mathlib.Data.List.Nodup
import Mathlib.Data.String.Basic

namespace GuardCost

open GuardCost.Action

/-! ### Listings -/

namespace FileSystem

/-- The name of a file in a directory, given its location. -/
def nameIn? (dir loc : Location) : Option Bytes :=
  match loc.getLast? with
  | some name => if loc.dropLast = dir then some name else none
  | none => none

theorem nameIn?_eq_some {dir loc : Location} {name : Bytes} :
    nameIn? dir loc = some name ↔ loc = dir ++ [name] := by
  constructor
  · intro h
    unfold nameIn? at h
    split at h
    · next last hlast =>
      split at h
      · next hdir =>
        obtain ⟨front, rfl⟩ := List.getLast?_eq_some_iff.1 hlast
        rw [List.dropLast_concat] at hdir
        rw [hdir, Option.some.inj h]
      · cases h
    · cases h
  · rintro rfl
    simp [nameIn?]

theorem children_eq (fs : FileSystem) (dir : Location) :
    fs.children dir = (fs.entries.map Prod.fst).filterMap (nameIn? dir) := by
  rw [List.filterMap_map]
  rfl

/-- No name is listed twice. -/
theorem nodup_children (fs : FileSystem) (dir : Location) : (fs.children dir).Nodup := by
  rw [children_eq]
  refine List.Nodup.filterMap (fun loc loc' name h h' => ?_) fs.distinct
  rw [nameIn?_eq_some.1 h, nameIn?_eq_some.1 h']

/-- A name is listed if something stands there. -/
theorem mem_children {fs : FileSystem} {dir : Location} {name : Bytes} :
    name ∈ fs.children dir ↔ fs.node? (dir ++ [name]) ≠ none := by
  have hlookup : fs.node? (dir ++ [name]) ≠ none ↔ dir ++ [name] ∈ fs.entries.map Prod.fst := by
    rw [node?, lookup?, if_neg (by simp), Ne, Option.map_eq_none_iff, List.lookup_eq_none_iff]
    simp
  rw [children_eq, hlookup, List.mem_filterMap]
  constructor
  · rintro ⟨loc, hloc, h⟩
    rwa [← nameIn?_eq_some.1 h]
  · intro h
    exact ⟨_, h, nameIn?_eq_some.2 rfl⟩

end FileSystem

theorem pairwise_sortTexts (names : List String) : (sortTexts names).Pairwise (· ≤ ·) := by
  have htrans : ∀ a b c : String, (!decide (b < a)) = true → (!decide (c < b)) = true →
      (!decide (c < a)) = true := by
    intro a b c hab hbc
    simp only [Bool.not_eq_true', decide_eq_false_iff_not, not_lt] at hab hbc ⊢
    exact hab.trans hbc
  have htotal : ∀ a b : String, ((!decide (b < a)) || !decide (a < b)) = true := by
    intro a b
    simp only [Bool.or_eq_true, Bool.not_eq_true', decide_eq_false_iff_not, not_lt]
    exact le_total a b
  refine (List.pairwise_mergeSort htrans htotal names).imp fun {a b} h => ?_
  simpa only [Bool.not_eq_true', decide_eq_false_iff_not, not_lt] using h

/-- The order of texts does not depend on the order they are given in. -/
theorem sortTexts_perm {names names' : List String} (h : names.Perm names') :
    sortTexts names = sortTexts names' := by
  have hperm : (sortTexts names).Perm (sortTexts names') :=
    (List.mergeSort_perm _ _).trans (h.trans (List.mergeSort_perm _ _).symm)
  exact List.Perm.eq_of_pairwise (fun _ _ _ _ => le_antisymm) (pairwise_sortTexts names)
    (pairwise_sortTexts names') hperm

/-! ### Sheltered programs -/

namespace Pipeline

variable (pl : Pipeline) (p : Program)

/-- A program that some locations have no say in, except as places of its
outputs. -/
structure Sheltered (X : Set Location) (w : World) : Prop where
  dir : w.Apart X (pl.dir p)
  bin : w.Apart X (pl.bin p)
  /-- No file in the directory that could be a source leads there. -/
  listed : ∀ names, w.files.list w.current (pl.dir p) = .ok names → ∀ name ∈ names,
    hasExtension p.sourceExtensions name → w.Apart X ((pl.dir p).join ⟨name⟩)
  /-- No source can stand there. -/
  unlisted : ∀ R node, w.files.seen w.current (pl.dir p) = .ok (R, node) → ∀ name,
    hasExtension p.sourceExtensions name → R ++ [name] ∉ X
  /-- No input of a stage leads there. -/
  inputs : ∀ sources, (deed (pl.prepare p) w).result = .ok sources → ∀ stage,
    ∀ q ∈ pl.externalInputs p sources stage, (deed (pl.prepare p) w).world.Apart X q

namespace Sheltered

variable {pl p} {X Y : Set Location} {w w' : World}

theorem mono (h : pl.Sheltered p X w) (hYX : Y ⊆ X) : pl.Sheltered p Y w where
  dir loc hloc hY := h.dir loc hloc (hYX hY)
  bin loc hloc hY := h.bin loc hloc (hYX hY)
  listed names hnames name hname hext loc hloc hY :=
    h.listed names hnames name hname hext loc hloc (hYX hY)
  unlisted R node hdir name hext hY := h.unlisted R node hdir name hext (hYX hY)
  inputs sources hprep stage q hq loc hloc hY :=
    h.inputs sources hprep stage q hq loc hloc (hYX hY)

/-- The sources that are found on machines that are alike. -/
theorem findSources (h : pl.Sheltered p X w) (halike : World.Alike X w w') :
    p.findSources w' (pl.dir p) = p.findSources w (pl.dir p) := by
  rw [Program.findSources, Program.findSources, FileSystem.list_eq, FileSystem.list_eq,
    halike.seen h.dir]
  cases hdir : w.files.seen w.current (pl.dir p) with
  | error cause => rfl
  | ok found =>
    obtain ⟨R, node⟩ := found
    cases node with
    | file content rights t => rfl
    | link target => rfl
    | device device => rfl
    | directory t =>
      have hlist : w.files.list w.current (pl.dir p) = .ok (w.files.children R) := by
        rw [FileSystem.list_eq, hdir]
      have hselect : p.selectSources w' (pl.dir p) (w'.files.children R) =
          p.selectSources w (pl.dir p) (w.files.children R) := by
        -- a name with an extension of a source is listed on both machines or on none
        have hnames : ((w'.files.children R).filter (hasExtension p.sourceExtensions ·)).Perm
            ((w.files.children R).filter (hasExtension p.sourceExtensions ·)) := by
          refine (List.perm_ext_iff_of_nodup ((w'.files.nodup_children R).filter _)
            ((w.files.nodup_children R).filter _)).2 fun name => ?_
          rw [List.mem_filter, List.mem_filter, FileSystem.mem_children, FileSystem.mem_children]
          refine and_congr_left fun hext => ?_
          rw [halike.node _ (h.unlisted R _ hdir name hext)]
        have hchoose : ∀ (u : World) (names : List Bytes), names.filterMap (fun name =>
              if u.files.isFile u.current ((pl.dir p).join ⟨name⟩)
                && hasExtension p.sourceExtensions name then Bytes.decode? name else none) =
            (names.filter (hasExtension p.sourceExtensions ·)).filterMap fun name =>
              if u.files.isFile u.current ((pl.dir p).join ⟨name⟩) then Bytes.decode? name
              else none := by
          intro u names
          rw [List.filterMap_filter]
          refine List.filterMap_congr fun name _ => ?_
          cases hasExtension p.sourceExtensions name <;> simp
        rw [Program.selectSources, Program.selectSources]
        refine sortTexts_perm ?_
        rw [hchoose, hchoose]
        refine (hnames.filterMap _).trans (List.Perm.of_eq ?_)
        refine List.filterMap_congr fun name hname => ?_
        obtain ⟨hmem, hext⟩ := List.mem_filter.1 hname
        rw [halike.isFile (h.listed _ hlist name hmem hext)]
      simp only [hselect]

/-- **A sheltered program is prepared in the same way on machines that are
alike.** -/
theorem prepare_agrees (h : pl.Sheltered p X w) (halike : World.Alike X w w') :
    (deed (pl.prepare p) w').result = (deed (pl.prepare p) w).result ∧
      World.Alike X (deed (pl.prepare p) w).world (deed (pl.prepare p) w').world := by
  rw [deed_prepare, deed_prepare, h.findSources halike]
  cases p.findSources w (pl.dir p) with
  | error e => exact ⟨rfl, halike⟩
  | ok sources =>
    rcases halike.withDirectory h.bin with ⟨cause, hw, hw'⟩ | ⟨v, v', hw, hw', hv⟩
    · rw [hw, hw']
      exact ⟨rfl, halike⟩
    · rw [hw, hw']
      exact ⟨rfl, hv⟩

end Sheltered

/-! ### Sites -/

/-- The places of a program's outputs, once its output directory is there. -/
def places (w : World) : Set Location :=
  {x | ∃ R v B stage, w.files.seen w.current (pl.dir p) = .ok (R, .directory 0) ∧
    w.withDirectory (pl.bin p) = .ok v ∧ pl.BinAt p v B ∧ stage ≠ .sources ∧
    pl.place p B stage = .ok x}

variable {pl p} {X : Set Location} {w : World}

theorem seen_dir_of_findSources {sources : List String}
    (h : p.findSources w (pl.dir p) = .ok sources) :
    ∃ R, w.files.seen w.current (pl.dir p) = .ok (R, .directory 0) := by
  rw [Program.findSources, FileSystem.list_eq] at h
  cases hdir : w.files.seen w.current (pl.dir p) with
  | error cause =>
    rw [hdir] at h
    cases h
  | ok found =>
    obtain ⟨R, node⟩ := found
    rw [hdir] at h
    cases node with
    | file content rights t => cases h
    | link target => cases h
    | device device => cases h
    | directory t =>
      have hnode := (FileSystem.of_seen hdir).2.2
      rw [FileSystem.hasDirectory_of_node? hnode] at hnode
      cases hnode
      exact ⟨R, rfl⟩

/-- What a preparation that succeeds has found and made. -/
theorem prepare_ok {sources : List String} (h : (deed (pl.prepare p) w).result = .ok sources) :
    ∃ R, w.files.seen w.current (pl.dir p) = .ok (R, .directory 0) ∧
      w.withDirectory (pl.bin p) = .ok (deed (pl.prepare p) w).world := by
  rw [deed_prepare] at h ⊢
  cases hf : p.findSources w (pl.dir p) with
  | error e =>
    rw [hf] at h
    cases h
  | ok found =>
    obtain ⟨R, hdir⟩ := seen_dir_of_findSources hf
    rw [hf] at h
    refine ⟨R, hdir, ?_⟩
    dsimp only at h ⊢
    cases hw : w.withDirectory (pl.bin p) with
    | error cause =>
      rw [hw] at h
      cases h
    | ok v => rfl

/-- A preparation that fails does nothing. -/
theorem prepare_error {e : BuildError} (h : (deed (pl.prepare p) w).result = .error e) :
    (deed (pl.prepare p) w).world = w := by
  rw [deed_prepare] at h ⊢
  cases hf : p.findSources w (pl.dir p) with
  | error e => rfl
  | ok found =>
    rw [hf] at h
    dsimp only at h ⊢
    cases hw : w.withDirectory (pl.bin p) with
    | error cause => rfl
    | ok v =>
      rw [hw] at h
      cases h

/-- The sources that a preparation finds are files with an extension of a
source in the directory of the program. -/
theorem mem_sources {sources : List String} (h : (deed (pl.prepare p) w).result = .ok sources)
    {source : String} (hsource : source ∈ sources) :
    ∃ R, w.files.seen w.current (pl.dir p) = .ok (R, .directory 0) ∧
      w.files.node? (R ++ [Bytes.ofString source]) ≠ none ∧
      hasExtension p.sourceExtensions (Bytes.ofString source) = true := by
  obtain ⟨R, hdir, -⟩ := prepare_ok h
  have hfound : p.findSources w (pl.dir p) = .ok sources := by
    rw [deed_prepare] at h
    cases hf : p.findSources w (pl.dir p) with
    | error e =>
      rw [hf] at h
      cases h
    | ok found =>
      rw [hf] at h
      dsimp only at h
      split at h
      · cases h
      · exact h
  rw [Program.findSources, FileSystem.list_eq, hdir] at hfound
  have hselect : p.selectSources w (pl.dir p) (w.files.children R) = sources := by
    dsimp only at hfound
    split at hfound
    · cases hfound
    · exact Except.ok.inj hfound
  rw [← hselect, Program.selectSources, sortTexts, List.mem_mergeSort] at hsource
  obtain ⟨name, hname, hchosen⟩ := List.mem_filterMap.1 hsource
  split at hchosen
  · next hcond =>
    obtain rfl := Bytes.ofString_of_decode? hchosen
    exact ⟨R, hdir, FileSystem.mem_children.1 hname, (Bool.and_eq_true_iff.1 hcond).2⟩
  · cases hchosen

/-- Preparing a program makes no link. -/
theorem prepare_keeps (w : World) : (deed (pl.prepare p) w).world.current = w.current ∧
    ∀ loc, w.files.HasNoLink loc → (deed (pl.prepare p) w).world.files.HasNoLink loc := by
  cases hprep : (deed (pl.prepare p) w).result with
  | error e =>
    rw [prepare_error hprep]
    exact ⟨rfl, fun _ hl => hl⟩
  | ok sources =>
    obtain ⟨R, hdir, hmake⟩ := prepare_ok hprep
    exact withDirectory_keeps hdir hmake

/-- A program stays sheltered on machines that are alike. -/
theorem Sheltered.alike {w' : World} (h : pl.Sheltered p X w) (halike : World.Alike X w w') :
    pl.Sheltered p X w' where
  dir := halike.apart h.dir
  bin := halike.apart h.bin
  listed := by
    intro names hnames name hname hext
    refine halike.apart ?_
    rw [FileSystem.list_eq, halike.seen h.dir] at hnames
    cases hdir : w.files.seen w.current (pl.dir p) with
    | error cause =>
      rw [hdir] at hnames
      cases hnames
    | ok found =>
      obtain ⟨R, node⟩ := found
      rw [hdir] at hnames
      cases node with
      | file content rights t => cases hnames
      | link target => cases hnames
      | device device => cases hnames
      | directory t =>
        cases hnames
        refine h.listed (w.files.children R) (by rw [FileSystem.list_eq, hdir]) name ?_ hext
        rw [FileSystem.mem_children] at hname ⊢
        rwa [← halike.node _ (h.unlisted R _ hdir name hext)]
  unlisted R node hdir := h.unlisted R node ((halike.seen h.dir).symm.trans hdir)
  inputs := by
    intro sources hprep stage q hq
    obtain ⟨hresult, hworld⟩ := h.prepare_agrees halike
    exact hworld.apart (h.inputs sources (hresult.symm.trans hprep) stage q hq)

/-- Preparing a sheltered program changes nothing that it is sheltered from. -/
theorem Sheltered.prepare_keeps (h : pl.Sheltered p X w) {x : Location} (hx : x ∈ X) :
    (deed (pl.prepare p) w).world.files.node? x = w.files.node? x := by
  cases hprep : (deed (pl.prepare p) w).result with
  | error e => rw [prepare_error hprep]
  | ok sources =>
    obtain ⟨R, hdir, hmake⟩ := prepare_ok hprep
    rcases withDirectory_bin hdir hmake with ⟨hsame, -⟩ | ⟨hloc, -, halike, -⟩
    · rw [hsame]
    · refine halike.node x ?_
      rintro rfl
      exact h.bin _ (FileSystem.mem_looked_of_walk (FileSystem.walk_of_locate hloc)) hx

/-- A sheltered program that is prepared is ready for its stages. -/
theorem Sheltered.site (h : pl.Sheltered p X w) (hX : pl.places p w ⊆ X)
    {sources : List String} (hprep : (deed (pl.prepare p) w).result = .ok sources) :
    ∃ B, pl.Site p sources X B (deed (pl.prepare p) w).world := by
  obtain ⟨R, hdir, hmake⟩ := prepare_ok hprep
  have hplaces : ∀ B, pl.BinAt p (deed (pl.prepare p) w).world B → ∀ stage x,
      stage ≠ .sources → pl.place p B stage = .ok x → x ∈ X :=
    fun B hB stage x hst hx => hX ⟨R, _, B, stage, hdir, hmake, hB, hst, hx⟩
  rcases withDirectory_bin hdir hmake with ⟨hsame, B, hB⟩ | ⟨hloc, hfree, halike, hmade⟩
  · have hinputs := h.inputs sources hprep
    rw [hsame] at hinputs hplaces ⊢
    exact ⟨B, ⟨hB, h.bin, hinputs, hplaces B hB⟩⟩
  · obtain ⟨hB, hlook⟩ := binAt_made hdir hloc hfree halike hmade
    exact ⟨binPlace R, ⟨hB, fun loc hl => h.bin loc (hlook hl), h.inputs sources hprep,
      hplaces _ hB⟩⟩

end Pipeline

end GuardCost
