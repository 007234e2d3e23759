/-
GuardCost/Proofs/BuildWork.lean

All that a build does to the machine.  It clears the outputs of its steps, it
makes directories, and it starts the commands of its steps:

    Work tools steps dirs w launched w'

says that a machine comes from `w` to `w'` in this way while the commands
`launched` are started.  Work composes, so that of a whole suite is put together
from the deeds of its steps (`Pipeline.work_buildAll`).

Clearing and making leave no file behind that was not there.  So a file that is
found after some work was there before, or a command has written it
(`Work.spares`).
-/
import GuardCost.Proofs.BuildShape
import GuardCost.Proofs.OutputPlaces

namespace GuardCost

open GuardCost.Action

/-! ### Files at locations -/

namespace World

/-- The content and the rights of the file at a location, if there is one. -/
def fileAt? (w : World) (loc : Location) : Option (Bytes × Rights) :=
  match w.files.node? loc with
  | some (.file content rights _) => some (content, rights)
  | _ => none

/-- No other file stands at a location than the one that stood there. -/
def Spares (loc : Location) (w w' : World) : Prop :=
  w'.fileAt? loc = none ∨ w'.fileAt? loc = w.fileAt? loc

namespace Spares

variable {loc : Location} {w w' w'' : World}

theorem refl (loc : Location) (w : World) : Spares loc w w := .inr rfl

theorem trans (h : Spares loc w w') (h' : Spares loc w' w'') : Spares loc w w'' := by
  rcases h' with h' | h'
  · exact .inl h'
  · rw [Spares, h']
    exact h

theorem of_node (h : w'.files.node? loc = w.files.node? loc) : Spares loc w w' := by
  right
  rw [fileAt?, fileAt?, h]

end Spares

/-- To put a directory somewhere leaves no new file. -/
theorem spares_insert_directory (loc : Location) (w : World) (place : Location) (t : Time) :
    Spares loc w { w with files := w.files.insert place (.directory t) } := by
  by_cases hplace : loc = place
  · subst hplace
    by_cases hroot : loc = []
    · subst hroot
      exact .inl rfl
    · left
      simp only [fileAt?, FileSystem.node?_insert_self w.files hroot]
      rfl
  · exact .of_node (FileSystem.node?_insert_ne w.files hplace _)

theorem spares_touch (loc : Location) (w : World) (place : Location) (t : Time) :
    Spares loc w { w with files := w.files.touchDirectory place t } := by
  unfold FileSystem.touchDirectory
  split
  · exact .refl loc w
  · exact spares_insert_directory loc w place t

theorem spares_erase (loc : Location) (w : World) (place : Location) :
    Spares loc w { w with files := w.files.erase place } := by
  by_cases hplace : loc = place
  · subst hplace
    by_cases hroot : loc = []
    · subst hroot
      exact .inl rfl
    · left
      simp only [fileAt?, FileSystem.node?_erase_self w.files hroot]
  · exact .of_node (FileSystem.node?_erase_ne w.files hplace)

variable {w w' : World} {path : Path}

theorem spares_cleared (loc : Location) (h : w.cleared path = .ok w') : Spares loc w w' := by
  rcases cleared_cases h with ⟨rfl, -⟩ | ⟨place, -, -, rfl⟩
  · exact .refl loc w'
  · exact (spares_touch loc w place.dropLast w.now).trans (spares_erase loc _ place)

theorem spares_withDirectory (loc : Location) (h : w.withDirectory path = .ok w') :
    Spares loc w w' := by
  have hsame : ∀ cause : SystemError,
      (if w.files.isDirectory w.current path then Except.ok w else .error cause) = .ok w' →
        Spares loc w w' := by
    intro cause hif
    split at hif
    · cases hif
      exact .refl loc w
    · cases hif
  rw [withDirectory_eq] at h
  split at h
  · exact hsame _ h
  · next place hplace =>
    split at h
    · exact hsame _ h
    · cases h
      exact (spares_touch loc w place.dropLast w.now).trans
        (spares_insert_directory loc _ place w.now)

end World

/-! ### Work -/

/-- How a machine is worked on while commands are started: outputs of steps are
cleared, directories are made, and the commands of steps are started. -/
inductive Work (tools : Tools) (steps : Set Step) (dirs : Set Path) :
    World → List Command → World → Prop
  | idle (w : World) : Work tools steps dirs w [] w
  | clear {s : Step} {w w' : World} :
      s ∈ steps → w.cleared s.output = .ok w' → Work tools steps dirs w [] w'
  | make {dir : Path} {w w' : World} :
      dir ∈ dirs → w.withDirectory dir = .ok w' → Work tools steps dirs w [] w'
  | start {s : Step} (w : World) :
      s ∈ steps → Work tools steps dirs w [s.command] (tools s.command w).2
  | andThen {launched launched' : List Command} {w w' w'' : World} :
      Work tools steps dirs w launched w' → Work tools steps dirs w' launched' w'' →
        Work tools steps dirs w (launched ++ launched') w''

namespace Work

variable {tools : Tools} {steps steps' : Set Step} {dirs dirs' : Set Path}
  {launched : List Command} {w w' : World}

theorem mono (hsteps : steps ⊆ steps') (hdirs : dirs ⊆ dirs')
    (h : Work tools steps dirs w launched w') : Work tools steps' dirs' w launched w' := by
  induction h with
  | idle w => exact .idle w
  | clear hs hclear => exact .clear (hsteps hs) hclear
  | make hdir hmake => exact .make (hdirs hdir) hmake
  | start w hs => exact .start w (hsteps hs)
  | andThen _ _ ih ih' => exact .andThen ih ih'

/-- Only commands of the steps are started. -/
theorem command (h : Work tools steps dirs w launched w') :
    ∀ c ∈ launched, ∃ s ∈ steps, c = s.command := by
  induction h with
  | idle w => exact fun c hc => absurd hc List.not_mem_nil
  | clear => exact fun c hc => absurd hc List.not_mem_nil
  | make => exact fun c hc => absurd hc List.not_mem_nil
  | @start s w hs => exact fun c hc => ⟨s, hs, List.mem_singleton.1 hc⟩
  | andThen _ _ ih ih' =>
    intro c hc
    rcases List.mem_append.1 hc with hc | hc
    · exact ih c hc
    · exact ih' c hc

/-- Work leaves no new file where its commands leave none. -/
theorem spares {loc : Location} (h : Work tools steps dirs w launched w')
    (hlaunched : ∀ c ∈ launched, ∀ v, World.Spares loc v (tools c v).2) :
    World.Spares loc w w' := by
  induction h with
  | idle w => exact .refl loc w
  | clear _ hclear => exact World.spares_cleared loc hclear
  | make _ hmake => exact World.spares_withDirectory loc hmake
  | start w _ => exact hlaunched _ List.mem_cons_self w
  | andThen _ _ ih ih' =>
    exact (ih fun c hc => hlaunched c (List.mem_append_left _ hc)).trans
      (ih' fun c hc => hlaunched c (List.mem_append_right _ hc))

end Work

/-! ### The work of actions -/

/-- What an action does to a machine is work. -/
abbrev Deed.IsWork {α : Type} (tools : Tools) (steps : Set Step) (dirs : Set Path) (w : World)
    (d : Deed α) : Prop :=
  Work tools steps dirs w d.started d.world

section
variable {tools : Tools} {steps : Set Step} {dirs : Set Path}

theorem Step.work_run (name : String) {s : Step} (hs : s ∈ steps) (w : World) :
    (deed (s.run tools name) w).IsWork tools steps dirs w := by
  rw [Step.deed_run]
  cases hclear : w.cleared s.output with
  | error cause => exact Work.idle w
  | ok w' => exact Work.andThen (.clear hs hclear) (.start w' hs)

theorem work_runFront (name : String) {front : List Step} (hfront : ∀ s ∈ front, s ∈ steps)
    (w : World) : (deed (runFront tools name front) w).IsWork tools steps dirs w := by
  induction front generalizing w with
  | nil => exact Work.idle w
  | cons s rest ih =>
    have hhead : (deed (s.run tools name) w).IsWork tools steps dirs w :=
      s.work_run name (hfront s List.mem_cons_self) w
    cases hr : (deed (s.run tools name) w).result with
    | error e =>
      rw [deed_runFront_error tools name hr]
      exact hhead
    | ok u =>
      rw [Deed.IsWork, Step.started_of_ok hr] at hhead
      rw [deed_runFront_ok tools name hr]
      exact Work.andThen hhead (ih (fun t ht => hfront t (List.mem_cons_of_mem _ ht)) _)

theorem work_runEach (name : String) {variants : List Step} (hall : ∀ s ∈ variants, s ∈ steps)
    (w : World) : (deed (runEach tools name variants) w).IsWork tools steps dirs w := by
  induction variants generalizing w with
  | nil => exact Work.idle w
  | cons s rest ih =>
    rw [deed_runEach_cons]
    exact Work.andThen (s.work_run name (hall s List.mem_cons_self) w)
      (ih (fun t ht => hall t (List.mem_cons_of_mem _ ht)) _)

end

namespace Pipeline

variable (pl : Pipeline) (p : Program) (programs : List Program) (tools : Tools)

/-- The steps of a program, with any sources. -/
def stepsOf : Set Step :=
  {s | ∃ sources, ∃ stage ∈ pl.frontStages ++ pl.variantStages, s = pl.step p sources stage}

/-- The steps of programs. -/
def stepsOfAll : Set Step := {s | ∃ p ∈ programs, s ∈ pl.stepsOf p}

/-- The output directories of programs. -/
def bins : Set Path := {dir | ∃ p ∈ programs, dir = pl.bin p}

variable {pl p programs} {dirs : Set Path}

theorem mem_stepsOf {sources : List String} {stages : List Stage}
    (hstages : stages ⊆ pl.frontStages ++ pl.variantStages) :
    ∀ s ∈ pl.steps p sources stages, s ∈ pl.stepsOf p := by
  intro s hs
  obtain ⟨stage, hstage, rfl⟩ := List.mem_map.1 hs
  exact ⟨sources, stage, hstages hstage, rfl⟩

theorem work_prepare {steps : Set Step} (hdir : pl.bin p ∈ dirs) (w : World) :
    (deed (pl.prepare p) w).IsWork tools steps dirs w := by
  rw [deed_prepare]
  split
  · exact Work.idle w
  · cases hmake : w.withDirectory (pl.bin p) with
    | error cause => exact Work.idle w
    | ok w' => exact Work.make hdir hmake

theorem work_buildVariants (sources : List String) (front : List Artifact × Option BuildError)
    (w : World) :
    (deed (pl.buildVariants p tools sources front) w).IsWork tools (pl.stepsOf p) dirs w := by
  obtain ⟨made, - | e⟩ := front
  · rw [deed_buildVariants_none]
    exact work_runEach p.name (mem_stepsOf (List.subset_append_right _ _)) w
  · exact Work.idle w

theorem work_buildStages (prepared : Except BuildError (List String)) (w : World) :
    (deed (pl.buildStages p tools prepared) w).IsWork tools (pl.stepsOf p) dirs w := by
  cases prepared with
  | error e =>
    rw [deed_buildStages_error]
    exact Work.idle w
  | ok sources =>
    rw [deed_buildStages_ok]
    exact Work.andThen (work_runFront p.name (mem_stepsOf (List.subset_append_left _ _)) w)
      (work_buildVariants tools sources _ _)

/-- The build of a program is work on its outputs. -/
theorem work_build (hdir : pl.bin p ∈ dirs) (w : World) :
    (deed (pl.build tools p) w).IsWork tools (pl.stepsOf p) dirs w := by
  rw [deed_build]
  exact Work.andThen (work_prepare tools hdir w) (work_buildStages tools _ _)

/-- The build of a suite is work on the outputs of its programs. -/
theorem work_buildAll (w : World) :
    (deed (pl.buildAll tools programs) w).IsWork tools (pl.stepsOfAll programs) (pl.bins programs)
      w := by
  induction programs generalizing w with
  | nil => exact Work.idle w
  | cons p rest ih =>
    have hdir : pl.bin p ∈ pl.bins (p :: rest) := ⟨p, List.mem_cons_self, rfl⟩
    have hhead := work_build (p := p) tools hdir w
    rw [deed_buildAll_cons]
    refine Work.andThen (hhead.mono ?_ subset_rfl) ?_
    · exact fun s hs => ⟨p, List.mem_cons_self, hs⟩
    refine (ih _).mono ?_ ?_
    · rintro s ⟨q, hq, hs⟩
      exact ⟨q, List.mem_cons_of_mem _ hq, hs⟩
    · rintro dir ⟨q, hq, hdir⟩
      exact ⟨q, List.mem_cons_of_mem _ hq, hdir⟩

end Pipeline

end GuardCost
