/-
GuardCost/Proofs/OutputPlaces.lean

Where the outputs of a program stand.  Once the output directory of a program
stands at a location `B` (`Pipeline.BinAt`), the output of a stage stands at

    B ++ [name of the output]

unless its path is too long to be used (`Pipeline.place`); no other part of the
files has a say in that (`locate_output`).  So clearing an output changes the
machine at that place only (`cleared_of_place`), and what is read of it is what
stands there (`content_output`).  Making the output directory changes the
machine at one location below the program's directory
(`withDirectory_bin`).
-/
import GuardCost.Proofs.Names

namespace GuardCost

/-! ### Changes to files -/

namespace FileSystem

variable (fs : FileSystem) (current : Location) (now : Time)

theorem removeFile_eq (p : Path) :
    fs.removeFile current now p =
      (fs.locate current p false).bind fun loc =>
        match fs.node? loc with
        | none => .error .notFound
        | some (.directory _) => .error .isDirectory
        | some _ => .ok ((fs.touchDirectory loc.dropLast now).erase loc) := by
  unfold removeFile
  refine congrArg _ ?_
  funext loc
  dsimp only [node?]
  cases fs.lookup? loc with
  | none => rfl
  | some node => cases node <;> rfl

theorem createDirectory_eq (p : Path) :
    fs.createDirectory current now p =
      (fs.locate current p false).bind fun loc =>
        match fs.node? loc with
        | some _ => .error .exists_
        | none => .ok (fs.enter loc now (.directory now)) := by
  unfold createDirectory
  refine congrArg _ ?_
  funext loc
  dsimp only [node?]
  cases fs.lookup? loc <;> rfl

theorem node?_enter_self {loc : Location} (hloc : loc ≠ []) (node : Node) :
    (fs.enter loc now node).node? loc = some node.timeless := by
  rw [enter, node?_insert_self _ hloc]

/-- Besides what is entered, only its directory is touched. -/
theorem node?_enter_ne {loc loc' : Location} (h : loc' ≠ loc) (node : Node) :
    (fs.enter loc now node).node? loc' = (fs.touchDirectory loc.dropLast now).node? loc' := by
  rw [enter, node?_insert_ne _ h]

theorem ne_nil_of_node? {loc : Location} (h : fs.node? loc = none) : loc ≠ [] := by
  rintro rfl
  rw [node?_root] at h
  cases h

end FileSystem

/-! ### Clearing a path -/

/-- Clearing a path changes nothing where nothing stands, and otherwise takes away
what stands there, which is no directory. -/
theorem World.cleared_cases {w c : World} {path : Path} (h : w.cleared path = .ok c) :
    (c = w ∧ (w.files.locate w.current path false = .error .notFound ∨
        ∃ loc, w.files.locate w.current path false = .ok loc ∧ w.files.node? loc = none)) ∨
      ∃ loc, w.files.locate w.current path false = .ok loc ∧ ¬w.files.HasDirectory loc ∧
        c = { w with files := (w.files.touchDirectory loc.dropLast w.now).erase loc } := by
  rw [cleared, FileSystem.removeFile_eq] at h
  cases hplace : w.files.locate w.current path false with
  | error cause =>
    simp only [hplace, Except.bind] at h
    split at h
    · next hcause =>
      cases h
      exact .inl ⟨rfl, .inl (congrArg _ hcause)⟩
    · cases h
  | ok loc =>
    simp only [hplace, Except.bind] at h
    cases hnode : w.files.node? loc with
    | none =>
      simp only [hnode, if_true, Except.ok.injEq] at h
      exact .inl ⟨h.symm, .inr ⟨loc, rfl, hnode⟩⟩
    | some node =>
      cases node with
      | directory t =>
        simp only [hnode] at h
        rw [if_neg (by decide)] at h
        cases h
      | _ =>
        simp only [hnode, Except.ok.injEq] at h
        exact .inr ⟨loc, rfl, by simp [FileSystem.HasDirectory, hnode], h.symm⟩

namespace Pipeline

variable (pl : Pipeline) (p : Program)

/-! ### Places -/

/-- The output directory of a program stands at `B`. -/
def BinAt (w : World) (B : Location) : Prop :=
  w.files.seen w.current (pl.bin p) = .ok (B, .directory 0)

/-- Where the output of a stage stands if the output directory stands at `B`,
or why it cannot be used. -/
def place (B : Location) (stage : Stage) : Except SystemError Location :=
  if (0 : UInt8) ∈ (pl.outputPath p stage).bytes then .error .zeroInName
  else if FileSystem.longestPath < (pl.outputPath p stage).bytes.length then .error .nameTooLong
  else if FileSystem.longestName < (p.outputFile stage).length then .error .nameTooLong
  else .ok (B ++ [p.outputFile stage])

variable {pl p} {w : World} {B x : Location} {stage : Stage}

theorem place_eq_ok (h : pl.place p B stage = .ok x) : x = B ++ [p.outputFile stage] := by
  unfold place at h
  split_ifs at h
  exact (Except.ok.inj h).symm

theorem place_ne_notFound {e : SystemError} (h : pl.place p B stage = .error e) :
    e ≠ .notFound := by
  unfold place at h
  split_ifs at h <;> cases h <;> decide

/-- Different stages have different places. -/
theorem place_inj {stage' : Stage} (hst : stage ≠ .sources) (hst' : stage' ≠ .sources)
    (h : pl.place p B stage = .ok x) (h' : pl.place p B stage' = .ok x) : stage = stage' := by
  have heq := (place_eq_ok h).symm.trans (place_eq_ok h')
  have hfile := List.append_cancel_left heq
  exact Program.outputFile_inj hst hst' (List.cons.inj hfile).1

theorem last_outputPath (hp : p.fault? = none) (hst : stage ≠ .sources) :
    (pl.outputPath p stage).bytes ≠ [] ∧ (pl.outputPath p stage).endsWithSlash = false := by
  have hseg := Program.isSegment_outputFile hp stage
  have hlast : (pl.outputPath p stage).bytes.getLast? = (p.outputFile stage).getLast? := by
    rw [outputPath, Path.child, Path.getLast?_join _ (isAbsolute_outputName p hst)]
    · rw [Path.ofString, ofString_outputName p hst, List.getLast?_append, List.getLast?_cons]
      cases h : (p.outputFile stage).getLast? with
      | none => exact absurd (List.getLast?_eq_none_iff.1 h) hseg.ne_nil
      | some b => rfl
    · rw [Path.ofString, ofString_outputName p hst]
      simp
  obtain ⟨b, hb⟩ : ∃ b, (p.outputFile stage).getLast? = some b := by
    rw [← Option.isSome_iff_exists]
    simpa using hseg.ne_nil
  refine ⟨?_, ?_⟩
  · intro hnil
    rw [hnil, hb] at hlast
    cases hlast
  · have hne : b ≠ Bytes.slash := by
      rintro rfl
      exact hseg.no_slash (List.mem_of_getLast? hb)
    rw [Path.endsWithSlash, hlast, hb]
    simpa using hne

theorem startOf_outputPath (current : Location) (hst : stage ≠ .sources) :
    FileSystem.startOf current (pl.outputPath p stage) =
      FileSystem.startOf current (pl.bin p) := by
  rw [FileSystem.startOf, FileSystem.startOf, outputPath, bin, Path.child, Path.child,
    Path.isAbsolute_join _ (isAbsolute_outputName p hst), Path.isAbsolute_join _ rfl]

/-- The path of an output leads to its place. -/
theorem locate_output (hp : p.fault? = none) (hst : stage ≠ .sources) (hB : pl.BinAt p w B)
    {fl : Bool} (hl : fl = true → w.files.HasNoLink (B ++ [p.outputFile stage])) :
    w.files.locate w.current (pl.outputPath p stage) fl = pl.place p B stage := by
  obtain ⟨-, hwalk, hdir⟩ := FileSystem.of_seen hB
  obtain ⟨hne, hend⟩ : (pl.outputPath p stage).bytes ≠ [] ∧
      (pl.outputPath p stage).endsWithSlash = false := last_outputPath hp hst
  have hseg := Program.isSegment_outputFile hp stage
  rw [FileSystem.locate_eq, if_neg hne, hend, Bool.or_false, startOf_outputPath _ hst,
    names_outputPath pl hp hst, FileSystem.walk_snoc hwalk hdir hseg.toIsName hl, place]
  split
  · rfl
  · split
    · rfl
    · split
      · rfl
      · exact FileSystem.settle_of_not_endsWithSlash _ hend _

theorem locate_unfollowed (hp : p.fault? = none) (hst : stage ≠ .sources)
    (hB : pl.BinAt p w B) :
    w.files.locate w.current (pl.outputPath p stage) false = pl.place p B stage :=
  locate_output hp hst hB (by simp)

/-- What is read of an output is what stands at its place. -/
theorem content_output (hp : p.fault? = none) (hst : stage ≠ .sources) (hB : pl.BinAt p w B)
    (hx : pl.place p B stage = .ok x) (hl : w.files.HasNoLink x) :
    w.content? (pl.outputPath p stage) = World.readable (w.files.node? x) := by
  have hloc : w.files.locate w.current (pl.outputPath p stage) true = .ok x := by
    rw [locate_output hp hst hB, hx]
    rw [← place_eq_ok hx]
    exact fun _ => hl
  rw [World.content?, FileSystem.seen, hloc]
  simp only [Except.bind]
  cases w.files.node? x <;> rfl

/-! ### Clearing an output -/

theorem cleared_of_no_place (hp : p.fault? = none) (hst : stage ≠ .sources)
    (hB : pl.BinAt p w B) {e : SystemError} (hx : pl.place p B stage = .error e) :
    w.cleared (pl.outputPath p stage) = .error e := by
  have hloc := locate_unfollowed hp hst hB
  rw [World.cleared, FileSystem.removeFile_eq, hloc, hx]
  exact if_neg (place_ne_notFound hx)

theorem cleared_of_directory (hp : p.fault? = none) (hst : stage ≠ .sources)
    (hB : pl.BinAt p w B) (hx : pl.place p B stage = .ok x) (hd : w.files.HasDirectory x) :
    w.cleared (pl.outputPath p stage) = .error .isDirectory := by
  have hloc := locate_unfollowed hp hst hB
  rw [World.cleared, FileSystem.removeFile_eq, hloc, hx]
  simp only [Except.bind]
  rw [hd]
  rfl

/-- Clearing an output that is no directory leaves nothing at its place, and
everything else as it was. -/
theorem cleared_of_place (hp : p.fault? = none) (hst : stage ≠ .sources)
    (hB : pl.BinAt p w B) (hx : pl.place p B stage = .ok x) (hd : ¬ w.files.HasDirectory x) :
    ∃ c, w.cleared (pl.outputPath p stage) = .ok c ∧ World.Alike {x} w c ∧
      c.files.node? x = none := by
  have hloc := locate_unfollowed hp hst hB
  obtain ⟨-, -, hdirB⟩ := FileSystem.of_seen hB
  have hparent : x.dropLast = B := by
    rw [place_eq_ok hx, List.dropLast_concat]
  have hne : x ≠ [] := by
    rw [place_eq_ok hx]
    simp
  have herase : ∃ c, (Except.ok { w with
      files := (w.files.touchDirectory x.dropLast w.now).erase x } : Except SystemError World) =
        .ok c ∧ World.Alike {x} w c ∧ c.files.node? x = none := by
    refine ⟨_, rfl, ⟨rfl, fun loc hloc => ?_⟩, FileSystem.node?_erase_self _ hne⟩
    have hdirP : w.files.HasDirectory x.dropLast := hparent ▸ hdirB
    exact (FileSystem.node?_erase_ne _ hloc).trans
      (FileSystem.node?_touchDirectory _ hdirP _ _)
  rw [World.cleared, FileSystem.removeFile_eq, hloc, hx]
  simp only [Except.bind]
  cases hn : w.files.node? x with
  | none => exact ⟨w, if_pos rfl, World.Alike.refl _ _, hn⟩
  | some node =>
    cases node with
    | directory t => exact absurd (FileSystem.hasDirectory_of_node? hn) hd
    | file content rights t => exact herase
    | link target => exact herase
    | device device => exact herase

/-! ### Making the output directory -/

end Pipeline

namespace World

/-- What a directory that is made adds to the files. -/
theorem Alike.enter {X : Set Location} {w w' : World} (h : Alike X w w') (loc : Location) :
    Alike X { w with files := w.files.enter loc w.now (.directory w.now) }
      { w' with files := w'.files.enter loc w'.now (.directory w'.now) } := by
  refine ⟨h.current, fun loc' hloc' => ?_⟩
  have hnode := h.node loc' hloc'
  by_cases hself : loc' = loc
  · subst hself
    by_cases hroot : loc' = []
    · subst hroot
      rfl
    · have hmade : ∀ u : World, (u.files.enter loc' u.now (.directory u.now)).node? loc' =
          some (.directory 0) := fun u => FileSystem.node?_enter_self _ _ hroot _
      exact (hmade w').trans (hmade w).symm
  · refine (FileSystem.node?_enter_ne _ _ hself _).trans
      (Eq.trans ?_ (FileSystem.node?_enter_ne _ _ hself _).symm)
    unfold FileSystem.touchDirectory
    split
    · exact hnode
    · next hroot =>
      by_cases hparent : loc' = loc.dropLast
      · subst hparent
        have htouched : ∀ u : World, (u.files.insert loc.dropLast (.directory u.now)).node?
            loc.dropLast = some (.directory 0) := fun u => FileSystem.node?_insert_self _ hroot _
        exact (htouched w').trans (htouched w).symm
      · exact (FileSystem.node?_insert_ne _ hparent _).trans
          (hnode.trans (FileSystem.node?_insert_ne _ hparent _).symm)

theorem withDirectory_eq (w : World) (path : Path) :
    w.withDirectory path =
      match w.files.locate w.current path false with
      | .error cause => if w.files.isDirectory w.current path then .ok w else .error cause
      | .ok loc =>
        match w.files.node? loc with
        | some _ => if w.files.isDirectory w.current path then .ok w else .error .exists_
        | none => .ok { w with files := w.files.enter loc w.now (.directory w.now) } := by
  rw [withDirectory, FileSystem.createDirectory_eq]
  cases w.files.locate w.current path false with
  | error cause => rfl
  | ok loc =>
    simp only [Except.bind]
    cases w.files.node? loc <;> rfl

/-- A directory is made in the same way on machines that are alike. -/
theorem Alike.withDirectory {X : Set Location} {w w' : World} (h : Alike X w w') {path : Path}
    (ha : w.Apart X path) :
    (∃ e, w.withDirectory path = .error e ∧ w'.withDirectory path = .error e) ∨
      ∃ v v', w.withDirectory path = .ok v ∧ w'.withDirectory path = .ok v' ∧ Alike X v v' := by
  have hexists : ∀ cause : SystemError,
      (∃ e, (if w.files.isDirectory w.current path then Except.ok w else .error cause) =
          .error e ∧ (if w'.files.isDirectory w'.current path then Except.ok w' else .error cause) =
          .error e) ∨
        ∃ v v', (if w.files.isDirectory w.current path then Except.ok w else .error cause) =
          .ok v ∧ (if w'.files.isDirectory w'.current path then Except.ok w' else .error cause) =
          .ok v' ∧ Alike X v v' := by
    intro cause
    rw [h.isDirectory ha]
    split
    · exact .inr ⟨w, w', rfl, rfl, h⟩
    · exact .inl ⟨cause, rfl, rfl⟩
  rw [withDirectory_eq, withDirectory_eq, h.locate ha]
  cases hloc : w.files.locate w.current path false with
  | error cause => exact hexists cause
  | ok loc =>
    have hmem : loc ∈ w.lookedAt path :=
      FileSystem.mem_looked_of_walk (FileSystem.walk_of_locate hloc)
    simp only [h.node loc (ha loc hmem)]
    cases w.files.node? loc with
    | some node => exact hexists _
    | none => exact .inr ⟨_, _, rfl, rfl, h.enter loc⟩

end World

namespace Pipeline

variable {pl : Pipeline} {p : Program} {w v : World} {R : Location}

/-- Where the output directory is made, if it is missing. -/
def binPlace (R : Location) : Location := R ++ [Bytes.ofString Stage.outputDir]

theorem startOf_bin (current : Location) : FileSystem.startOf current (pl.bin p) =
    FileSystem.startOf current (pl.dir p) := by
  rw [FileSystem.startOf, FileSystem.startOf, bin, Path.child, Path.isAbsolute_join _ rfl]

theorem endsWithSlash_bin : (pl.bin p).endsWithSlash = false := by
  rw [Path.endsWithSlash, bin, Path.child, Path.getLast?_join _ rfl (by decide)]
  decide

/-- The path of the output directory leads on from the program's directory. -/
theorem locate_bin (hdir : w.files.seen w.current (pl.dir p) = .ok (R, .directory 0))
    {loc : Location} (h : w.files.locate w.current (pl.bin p) false = .ok loc) :
    loc = binPlace R := by
  obtain ⟨-, hwalk, hdirR⟩ := FileSystem.of_seen hdir
  have hw := FileSystem.walk_of_locate h
  rw [endsWithSlash_bin, startOf_bin, names_bin,
    FileSystem.walk_snoc hwalk hdirR isSegment_outputDir.toIsName (by simp),
    if_neg (by decide)] at hw
  exact (Except.ok.inj hw).symm

/-- Making the output directory of a program that has a directory either finds
it or adds nothing else. -/
theorem withDirectory_bin (hdir : w.files.seen w.current (pl.dir p) = .ok (R, .directory 0))
    (h : w.withDirectory (pl.bin p) = .ok v) :
    (v = w ∧ ∃ B, pl.BinAt p w B) ∨
      (w.files.locate w.current (pl.bin p) false = .ok (binPlace R) ∧
        w.files.node? (binPlace R) = none ∧ World.Alike {binPlace R} w v ∧
        v.files.HasDirectory (binPlace R)) := by
  have hfound : ∀ cause : SystemError, (if w.files.isDirectory w.current (pl.bin p)
      then Except.ok w else .error cause) = .ok v → v = w ∧ ∃ B, pl.BinAt p w B := by
    intro cause hc
    split at hc
    · next hd =>
      refine ⟨(Except.ok.inj hc).symm, ?_⟩
      rw [FileSystem.isDirectory_eq] at hd
      split at hd
      · next B t hs =>
        have hzero := FileSystem.hasDirectory_of_node? (FileSystem.of_seen hs).2.2
        have hnode := (FileSystem.of_seen hs).2.2
        rw [hzero] at hnode
        cases hnode
        exact ⟨B, hs⟩
      · cases hd
    · cases hc
  rw [World.withDirectory_eq] at h
  cases hloc : w.files.locate w.current (pl.bin p) false with
  | error cause =>
    rw [hloc] at h
    exact .inl (hfound cause h)
  | ok loc =>
    rw [hloc] at h
    simp only at h
    cases hn : w.files.node? loc with
    | some node =>
      rw [hn] at h
      exact .inl (hfound _ h)
    | none =>
      rw [hn] at h
      obtain rfl := locate_bin hdir hloc
      obtain rfl := Except.ok.inj h
      have hne := w.files.ne_nil_of_node? hn
      have hparent : w.files.HasDirectory (binPlace R).dropLast := by
        rw [binPlace, List.dropLast_concat]
        exact (FileSystem.of_seen hdir).2.2
      refine .inr ⟨rfl, hn, ⟨rfl, fun loc hloc => ?_⟩, FileSystem.node?_enter_self _ _ hne _⟩
      exact (FileSystem.node?_enter_ne _ _ hloc _).trans
        (FileSystem.node?_touchDirectory _ hparent _ _)

/-- Making an output directory makes no link. -/
theorem withDirectory_keeps (hdir : w.files.seen w.current (pl.dir p) = .ok (R, .directory 0))
    (h : w.withDirectory (pl.bin p) = .ok v) :
    v.current = w.current ∧ ∀ loc, w.files.HasNoLink loc → v.files.HasNoLink loc := by
  rcases withDirectory_bin hdir h with ⟨hsame, -⟩ | ⟨-, -, halike, hmade⟩
  · rw [hsame]
    exact ⟨rfl, fun _ hl => hl⟩
  · refine ⟨halike.current, fun loc hl target hlink => ?_⟩
    by_cases hloc : loc = binPlace R
    · subst hloc
      exact absurd (hmade.symm.trans hlink) (by simp)
    · exact hl target ((halike.node loc hloc).symm.trans hlink)

/-- An output directory that was made is where its path leads, and the way to
it is no longer than before. -/
theorem binAt_made (hdir : w.files.seen w.current (pl.dir p) = .ok (R, .directory 0))
    (hloc : w.files.locate w.current (pl.bin p) false = .ok (binPlace R))
    (hfree : w.files.node? (binPlace R) = none) (h : World.Alike {binPlace R} w v)
    (hmade : v.files.HasDirectory (binPlace R)) :
    pl.BinAt p v (binPlace R) ∧ v.lookedAt (pl.bin p) ⊆ w.lookedAt (pl.bin p) := by
  obtain ⟨-, hwalk, hdirR⟩ := FileSystem.of_seen hdir
  have hseg := isSegment_outputDir.toIsName
  have hsame : ∀ loc, loc ≠ binPlace R → v.files.node? loc = w.files.node? loc :=
    fun loc hloc => h.node loc hloc
  -- the walk to the program's directory does not meet what was made
  have hwalk' : v.files.walk true FileSystem.linkAllowance
      (FileSystem.startOf w.current (pl.dir p)) (pl.dir p).names = .ok R := by
    rw [(FileSystem.walk_congr true fun loc hlook => hsame loc ?_).1, hwalk]
    rintro rfl
    exact FileSystem.exists_of_mem_looked hwalk hdirR _ hlook hfree
  have hdirR' : v.files.HasDirectory R := by
    refine (hsame R ?_).trans hdirR
    intro hR
    exact absurd (congrArg List.length hR) (by simp [binPlace])
  refine ⟨?_, ?_⟩
  · have hloc' : v.files.locate v.current (pl.bin p) true = .ok (binPlace R) := by
      rw [FileSystem.locate_eq] at hloc ⊢
      split_ifs at hloc ⊢
      rw [Bool.true_or, h.current, startOf_bin, names_bin,
        FileSystem.walk_snoc hwalk' hdirR' hseg, if_neg (by decide)]
      · exact FileSystem.settle_of_not_endsWithSlash _ endsWithSlash_bin _
      · intro _ target hlink
        exact absurd (hmade.symm.trans hlink) (by simp)
    rw [BinAt, FileSystem.seen, hloc']
    simp only [Except.bind]
    rw [hmade]
  · rw [World.lookedAt, World.lookedAt, h.current, startOf_bin, names_bin]
    exact FileSystem.looked_made hwalk hdirR hseg hfree hsame hmade

end Pipeline

end GuardCost
