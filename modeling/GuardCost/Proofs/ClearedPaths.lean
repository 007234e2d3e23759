/-
GuardCost/Proofs/ClearedPaths.lean

A path that was cleared names no file.  What is cleared is found by a walk that
does not follow a link at its end, what is read by one that does.  On the files
without the cleared node the second walk has nowhere to go but to the place that
is empty now, or nowhere at all (`walk_of_emptied`):

    walk from here on the files before  =  ok loc
      →  walk on the files after  =  ok loc'  →  loc' = loc

Nothing is asked of the files: where the parent of a location is no directory, no
walk gets to the location but from the parent itself (`dropLast_of_walk`).

So what a path leads to after it was cleared stands where it was cleared, if it leads
anywhere (`World.locate_of_cleared`).
-/
import GuardCost.Proofs.BuildDeeds
import GuardCost.Proofs.NamedFiles
import GuardCost.Proofs.OutputPlaces

namespace GuardCost

namespace FileSystem

variable {fs fs' : FileSystem} {fl : Bool} {n : Nat} {here loc loc' : Location}
  {todo : List Bytes}

/-- A walk that follows a link at its end gets no further than one that does
not. -/
theorem exists_walk (fl : Bool) (h : fs.walk true n here todo = .ok loc) :
    ∃ loc', fs.walk fl n here todo = .ok loc' := by
  induction n, here, todo using walk_induction with
  | nil n here => exact ⟨here, walk_nil fs fl n here⟩
  | skip n here part rest hp ih =>
    rw [walk_skip fs true n here rest hp] at h
    rw [walk_skip fs fl n here rest hp]
    exact ih h
  | up n here rest ih =>
    rw [walk_up] at h
    rw [walk_up]
    exact ih h
  | name n here part rest hp ihd ihl =>
    obtain ⟨hlong, ⟨rfl, rfl, hnd⟩ | ⟨hd, hw⟩ | ⟨m, target, rfl, hlink, hw⟩⟩ := walk_name_cases hp h
    · -- the last name is no directory: there a walk that follows no link has arrived
      cases fl with
      | true => exact ⟨_, h⟩
      | false => exact ⟨_, walk_last hp hlong⟩
    · rw [walk_into fs fl n rest hp hlong hd]
      exact ihd hw
    · by_cases hend : rest = [] ∧ !fl
      · obtain ⟨rfl, hfl⟩ := hend
        obtain rfl : fl = false := by simpa using hfl
        exact ⟨_, walk_last hp hlong⟩
      · rw [walk_link fs m hp hlong hlink hend]
        exact ihl m target rfl hw

/-- A walk ends below a directory or below a location that it started at. -/
theorem dropLast_of_walk {start : Location}
    (hstart : ∀ front, front <+: here → front <+: start ∨ fs.HasDirectory front)
    (h : fs.walk fl n here todo = .ok loc) :
    loc.dropLast <+: start ∨ fs.HasDirectory loc.dropLast := by
  induction n, here, todo using walk_induction with
  | nil n here =>
    obtain rfl := Except.ok.inj ((walk_nil fs fl n here).symm.trans h)
    exact hstart _ (List.dropLast_prefix _)
  | skip n here part rest hp ih =>
    rw [walk_skip fs fl n here rest hp] at h
    exact ih hstart h
  | up n here rest ih =>
    rw [walk_up] at h
    exact ih (fun front hfront => hstart front (hfront.trans (List.dropLast_prefix _))) h
  | name n here part rest hp ihd ihl =>
    obtain ⟨-, ⟨-, rfl, -⟩ | ⟨hd, hw⟩ | ⟨m, target, rfl, -, hw⟩⟩ := walk_name_cases hp h
    · rw [List.dropLast_concat]
      exact hstart here List.prefix_rfl
    · refine ihd (fun front hfront => ?_) hw
      rcases List.prefix_concat_iff.1 hfront with rfl | hfront
      · exact .inr hd
      · exact hstart front hfront
    · refine ihl m target rfl (fun front hfront => ?_) hw
      unfold linkStart at hfront
      split at hfront
      · rw [List.prefix_nil.1 hfront]
        exact .inr fs.node?_root
      · exact hstart front hfront

/-- Files without what stood at a location; the directory that it was in may have
been noted as one. -/
structure Emptied (fs fs' : FileSystem) (loc : Location) : Prop where
  empty : fs'.node? loc = none
  parent : fs.HasDirectory loc.dropLast → fs'.HasDirectory loc.dropLast
  same : ∀ place, place ≠ loc → place ≠ loc.dropLast → fs'.node? place = fs.node? place

/-- **A walk on emptied files gets to the empty place if it gets anywhere.** -/
theorem walk_of_emptied (hempty : Emptied fs fs' loc) (h : fs.walk fl n here todo = .ok loc)
    (h' : fs'.walk true n here todo = .ok loc') : loc' = loc := by
  induction n, here, todo using walk_induction with
  | nil n here =>
    rw [walk_nil] at h h'
    exact (Except.ok.inj h').symm.trans (Except.ok.inj h)
  | skip n here part rest hp ih =>
    rw [walk_skip fs fl n here rest hp] at h
    rw [walk_skip fs' true n here rest hp] at h'
    exact ih h h'
  | up n here rest ih =>
    rw [walk_up] at h h'
    exact ih h h'
  | name n here part rest hp ihd ihl =>
    obtain ⟨hlong, hcases⟩ := walk_name_cases hp h
    by_cases hplace : here ++ [part] = loc
    · -- nothing stands here any more
      rw [walk_name fs' true n here rest hp, if_neg (Nat.not_lt.2 hlong), hplace,
        hempty.empty] at h'
      dsimp only at h'
      split at h'
      · exact (Except.ok.inj h').symm
      · cases h'
    · obtain ⟨-, rfl, -⟩ | ⟨hd, hw⟩ | ⟨m, target, rfl, hlink, hw⟩ := hcases
      · exact absurd rfl hplace
      · have hd' : fs'.HasDirectory (here ++ [part]) := by
          by_cases hparent : here ++ [part] = loc.dropLast
          · rw [hparent] at hd ⊢
            exact hempty.parent hd
          · rw [HasDirectory, hempty.same _ hplace hparent]
            exact hd
        rw [walk_into fs' true n rest hp hlong hd'] at h'
        exact ihd hw h'
      · have hparent : here ++ [part] ≠ loc.dropLast := by
          intro hparent
          rcases dropLast_of_walk (fun front hfront => .inl hfront) hw with hstart | hd
          · -- the target of a link is looked for above the link
            have hlength := hstart.length_le
            rw [← hparent, List.length_append] at hlength
            unfold linkStart at hlength
            split at hlength <;> simp at hlength
          · rw [← hparent, HasDirectory, hlink] at hd
            cases hd
        have hlink' := (hempty.same _ hplace hparent).trans hlink
        rw [walk_link fs' m hp hlong hlink' (by simp)] at h'
        exact ihl m target rfl hw h'

/-- A location that is no directory is emptied by erasing it. -/
theorem emptied_erase (fs : FileSystem) {loc : Location} (hloc : ¬fs.HasDirectory loc)
    (now : Time) : Emptied fs ((fs.touchDirectory loc.dropLast now).erase loc) loc := by
  have hne : loc ≠ [] := by
    rintro rfl
    exact hloc fs.node?_root
  refine ⟨node?_erase_self _ hne, fun hd => ?_, fun place hplace hparent => ?_⟩
  · have hother : loc.dropLast ≠ loc := by
      intro heq
      have hlength := congrArg List.length heq
      have hpos := List.length_pos_iff.2 hne
      rw [List.length_dropLast] at hlength
      omega
    rw [HasDirectory, node?_erase_ne _ hother, node?_touchDirectory fs hd]
    exact hd
  · rw [node?_erase_ne _ hplace]
    unfold touchDirectory
    split
    · rfl
    · exact node?_insert_ne fs hparent _

theorem HasNoLink.touchDirectory (h : fs.HasNoLink loc) (place : Location) (now : Time) :
    (fs.touchDirectory place now).HasNoLink loc := by
  unfold FileSystem.touchDirectory
  split
  · exact h
  · next hplace =>
    intro target hlink
    by_cases hloc : loc = place
    · subst hloc
      rw [node?_insert_self fs hplace] at hlink
      cases hlink
    · rw [node?_insert_ne fs hloc] at hlink
      exact h target hlink

theorem HasNoLink.erase (h : fs.HasNoLink loc) (place : Location) :
    (fs.erase place).HasNoLink loc := by
  intro target hlink
  by_cases hloc : loc = place
  · subst hloc
    by_cases hroot : loc = []
    · subst hroot
      cases hlink
    · rw [node?_erase_self fs hroot] at hlink
      cases hlink
  · rw [node?_erase_ne fs hloc] at hlink
    exact h target hlink

/-- Where there is a way to a path, there is one that does not follow a link at its
end. -/
theorem exists_locate {current : Location} {p : Path} (h : fs.locate current p true = .ok loc) :
    ∃ loc', fs.locate current p false = .ok loc' := by
  obtain ⟨hbytes, hw, hsettle⟩ := locate_eq_ok_iff.1 h
  cases hslash : p.endsWithSlash with
  | true =>
    refine ⟨loc, locate_eq_ok_iff.2 ⟨hbytes, ?_, hsettle⟩⟩
    rwa [hslash] at hw ⊢
  | false =>
    obtain ⟨loc', hw'⟩ := exists_walk (false || p.endsWithSlash) hw
    exact ⟨loc', locate_eq_ok_iff.2 ⟨hbytes, hw', settle_of_not_endsWithSlash fs hslash loc'⟩⟩

end FileSystem

namespace World

variable {w c : World} {path : Path} {loc : Location}

theorem current_of_cleared (h : w.cleared path = .ok c) : c.current = w.current := by
  rcases cleared_cases h with ⟨rfl, -⟩ | ⟨loc, -, -, rfl⟩ <;> rfl

/-- Clearing a path empties the location that it leads to. -/
theorem emptied_of_cleared (h : w.cleared path = .ok c)
    (hloc : w.files.locate w.current path false = .ok loc) :
    FileSystem.Emptied w.files c.files loc := by
  rcases cleared_cases h with ⟨rfl, hnone | ⟨loc', hloc', hnode⟩⟩ | ⟨loc', hloc', hd, rfl⟩
  · rw [hnone] at hloc
    cases hloc
  · obtain rfl := Except.ok.inj (hloc'.symm.trans hloc)
    exact ⟨hnode, id, fun _ _ _ => rfl⟩
  · obtain rfl := Except.ok.inj (hloc'.symm.trans hloc)
    exact FileSystem.emptied_erase w.files hd w.now

/-- Clearing a path that leads nowhere changes nothing. -/
theorem eq_of_cleared (h : w.cleared path = .ok c)
    (hnone : ∀ loc, w.files.locate w.current path false ≠ .ok loc) : c = w := by
  rcases cleared_cases h with ⟨hc, -⟩ | ⟨loc, hloc, -⟩
  · exact hc
  · exact absurd hloc (hnone loc)

/-- Clearing a path makes no link. -/
theorem hasNoLink_of_cleared (h : w.cleared path = .ok c) (hl : w.files.HasNoLink loc) :
    c.files.HasNoLink loc := by
  rcases cleared_cases h with ⟨rfl, -⟩ | ⟨place, -, -, rfl⟩
  · exact hl
  · exact (hl.touchDirectory place.dropLast w.now).erase place

/-- **A path that was cleared leads nowhere but to the place that is empty now.** -/
theorem locate_of_cleared (h : w.cleared path = .ok c)
    (hloc : c.files.locate c.current path true = .ok loc) :
    w.files.locate w.current path false = .ok loc := by
  obtain ⟨loc', hlocate⟩ : ∃ loc', w.files.locate w.current path false = .ok loc' := by
    by_contra hnone
    obtain rfl := eq_of_cleared h (not_exists.1 hnone)
    exact hnone (FileSystem.exists_locate hloc)
  obtain ⟨-, hw, -⟩ := FileSystem.locate_eq_ok_iff.1 hloc
  obtain ⟨-, hw', -⟩ := FileSystem.locate_eq_ok_iff.1 hlocate
  rw [current_of_cleared h] at hw
  rwa [FileSystem.walk_of_emptied (emptied_of_cleared h hlocate) hw' hw]

/-- **A path that was cleared names no file.** -/
theorem isFile_of_cleared (h : w.cleared path = .ok c) :
    c.files.isFile c.current path = false := by
  rw [FileSystem.isFile]
  split
  · next loc content rights time hfind =>
    exfalso
    obtain ⟨hlocate, hnode⟩ := FileSystem.find_eq_ok_iff.1 hfind
    have hgone := (emptied_of_cleared h (locate_of_cleared h hlocate)).empty
    rw [FileSystem.node?, hnode] at hgone
    cases hgone
  · rfl

end World

end GuardCost
