/-
GuardCost/Proofs/VariantOrder.lean

The variants of a program in any order.  Once the front of a program is
complete, its variants are workers on a floor: each is built once, by one step
(`Pipeline.BuildsVariant`).  A variant reads a bytecode and writes its own
output, so the variants are separate, the area of each being the place of its
output (`separate_variants`).  Hence every order of all of them has the outcome
of building them one after the other:

    ⟨u, nothing built⟩ ⟶* ⟨g, results⟩  with a result for every variant
      →  runEach comes to the same results, and to g          (gathered_of_run)
-/
import GuardCost.Proofs.BuildShape
import GuardCost.Proofs.Confinement
import GuardCost.Proofs.Floors

namespace GuardCost

open GuardCost.Action Relation

/-- What became of a stage. -/
abbrev Outcome := Except BuildError Unit

namespace Pipeline

variable (pl : Pipeline) (p : Program) (tools : Tools) (sources : List String)

/-- A variant is built once, in one step. -/
inductive BuildsVariant (stage : Stage) : Acts (Option Outcome)
  | built (w : World) (h : stage ∈ pl.variantStages) :
    BuildsVariant stage (none, w)
      (some (deed ((pl.step p sources stage).run tools p.name) w).result,
        (deed ((pl.step p sources stage).run tools p.name) w).world)

/-- The place of the output of a variant. -/
def variantArea (B : Location) (stage : Stage) : Set Location :=
  {x | stage ∈ pl.variantStages ∧ pl.place p B stage = .ok x}

/-- What was made and what failed of some stages. -/
def gathered (stages : List Stage) (results : Stage → Option Outcome) :
    List Artifact × List BuildError :=
  (stages.flatMap fun stage => (results stage).elim [] ((pl.step p sources stage).made p.name),
    stages.flatMap fun stage => (results stage).elim [] failed)

variable {pl p tools sources} {X : Set Location} {B : Location} {u g : World}
  {results : Stage → Option Outcome}

theorem BuildsVariant.eq {stage : Stage} {before : Option Outcome} {after : Option Outcome × World}
    (h : pl.BuildsVariant p tools sources stage (before, u) after) :
    stage ∈ pl.variantStages ∧ before = none ∧
      after = (some (deed ((pl.step p sources stage).run tools p.name) u).result,
        (deed ((pl.step p sources stage).run tools p.name) u).world) := by
  cases h with
  | built w hmem => exact ⟨hmem, rfl, rfl⟩

/-- What a variant has come to that was built alone. -/
theorem solo_variant {stage : Stage} {after : Option Outcome × World}
    (h : ReflTransGen (pl.BuildsVariant p tools sources stage) (none, u) after) :
    after = (none, u) ∨ stage ∈ pl.variantStages ∧
      after = (some (deed ((pl.step p sources stage).run tools p.name) u).result,
        (deed ((pl.step p sources stage).run tools p.name) u).world) := by
  induction h with
  | refl => exact .inl rfl
  | tail _ hact ih =>
    rcases ih with rfl | ⟨-, rfl⟩
    · obtain ⟨-, hmem⟩ := hact
      exact .inr ⟨hmem, rfl⟩
    · cases hact

/-- Variants do not get in each other's way. -/
theorem separate_variants (hp : p.fault? = none) (ht : pl.ToolsConfined p tools)
    (site : pl.Site p sources X B u)
    (hchained : ∀ stage ∈ pl.variantStages, pl.Chained p B stage u) :
    Floor.Separate (pl.BuildsVariant p tools sources) (pl.variantArea p B) ⟨u, fun _ => none⟩ := by
  intro stage s g w after hsolo halike hact
  obtain ⟨_, hmem⟩ := hact
  rcases solo_variant hsolo with hnone | ⟨-, hsome⟩
  · obtain rfl : g = u := congrArg Prod.snd hnone
    have hst := pl.ne_sources_of_mem_variants hmem
    have hothers : Floor.others (pl.variantArea p B) stage ⊆ X := by
      rintro x ⟨stage', -, hmem', hx⟩
      exact site.places stage' x (pl.ne_sources_of_mem_variants hmem') hx
    -- neither its own output nor the bytecode that it reads is that of another variant
    have hfree : ∀ stage' x, stage' = stage ∨ stage.chained? = some stage' →
        pl.place p B stage' = .ok x → x ∉ Floor.others (pl.variantArea p B) stage := by
      rintro stage' x hstage' hx ⟨other, hne, hother, hx'⟩
      have hst' := pl.ne_sources_of_mem_variants hother
      rcases hstage' with rfl | hstage'
      · exact hne (place_inj hst' hst hx' hx)
      · have hfront := pl.front_of_chained hmem hstage'
        exact pl.front_ne_variant hfront hother
          (place_inj (pl.ne_sources_of_mem_front hfront) hst' hx hx')
    obtain ⟨hresult, hafter, hkeep⟩ :=
      site.step_undisturbed hp hst ht halike hothers (hchained _ hmem) hfree
    refine ⟨hkeep.mono fun x hx => ⟨hmem, hx⟩, _, ?_, hafter⟩
    have hbuilt : pl.BuildsVariant p tools sources stage (none, g) _ := .built g hmem
    rwa [← hresult] at hbuilt
  · cases hsome

/-- Results that agree on some stages. -/
theorem gathered_congr {stages : List Stage} {results' : Stage → Option Outcome}
    (h : ∀ stage ∈ stages, results' stage = results stage) :
    pl.gathered p sources stages results' = pl.gathered p sources stages results := by
  have hmap : ∀ {α : Type} (f : Stage → Option Outcome → List α),
      (stages.flatMap fun stage => f stage (results' stage)) =
        stages.flatMap fun stage => f stage (results stage) :=
    fun f => List.flatMap_congr fun stage hstage => by rw [h stage hstage]
  rw [gathered, gathered, hmap fun stage r => r.elim [] ((pl.step p sources stage).made p.name),
    hmap fun _ r => r.elim [] failed]

/-- To build variants one after the other is one of the orders. -/
theorem run_of_runEach {stages : List Stage} (hmem : ∀ stage ∈ stages, stage ∈ pl.variantStages)
    (hnd : stages.Nodup) (f : Floor Stage (Option Outcome))
    (hnone : ∀ stage ∈ stages, f.states stage = none) :
    ∃ results, Floor.Run (pl.BuildsVariant p tools sources) f
        ⟨(deed (runEach tools p.name (pl.steps p sources stages)) f.world).world, results⟩ ∧
      (∀ stage, stage ∉ stages → results stage = f.states stage) ∧
      (∀ stage ∈ stages, results stage ≠ none) ∧
      (deed (runEach tools p.name (pl.steps p sources stages)) f.world).result =
        pl.gathered p sources stages results := by
  induction stages generalizing f with
  | nil => exact ⟨f.states, .refl, fun _ _ => rfl, fun _ h => absurd h List.not_mem_nil, rfl⟩
  | cons stage rest ih =>
    obtain ⟨hstage, hrest⟩ := List.nodup_cons.1 hnd
    let d := deed ((pl.step p sources stage).run tools p.name) f.world
    have hact : pl.BuildsVariant p tools sources stage (f.worker stage)
        (some d.result, d.world) := by
      rw [Floor.worker, hnone stage List.mem_cons_self]
      exact .built f.world (hmem stage List.mem_cons_self)
    obtain ⟨results, hrun, hother, hdone, hresult⟩ := ih
      (fun s hs => hmem s (List.mem_cons_of_mem _ hs)) hrest
      (f.advance stage (some d.result, d.world)) fun s hs => by
        have hne : s ≠ stage := by
          rintro rfl
          exact hstage hs
        rw [Floor.states_advance_ne f hne]
        exact hnone s (List.mem_cons_of_mem _ hs)
    have hrest' : (deed (runEach tools p.name (pl.steps p sources rest)) d.world).result =
        pl.gathered p sources rest results := hresult
    have hself : results stage = some d.result := by
      rw [hother stage hstage, Floor.states_advance_self]
    have hsteps : pl.steps p sources (stage :: rest) =
        pl.step p sources stage :: pl.steps p sources rest := rfl
    refine ⟨results, ?_, ?_, ?_, ?_⟩
    · rw [hsteps, deed_runEach_cons]
      exact .head (.act f stage _ hact) hrun
    · intro s hs
      rw [List.mem_cons, not_or] at hs
      rw [hother s hs.2, Floor.states_advance_ne f hs.1]
    · intro s hs
      rcases List.mem_cons.1 hs with rfl | hs
      · rw [hself]
        exact Option.some_ne_none _
      · exact hdone s hs
    · rw [hsteps, deed_runEach_cons]
      dsimp only
      rw [hrest', gathered, gathered, List.flatMap_cons, List.flatMap_cons, hself]
      rfl

/-- Building all variants one after the other, as a run. -/
theorem exists_run_of_runEach (hnd : pl.variantStages.Nodup) (u : World) :
    let d := deed (runEach tools p.name (pl.steps p sources pl.variantStages)) u
    ∃ results, Floor.Run (pl.BuildsVariant p tools sources) ⟨u, fun _ => none⟩
        ⟨d.world, results⟩ ∧ (∀ stage ∈ pl.variantStages, results stage ≠ none) ∧
      d.result = pl.gathered p sources pl.variantStages results := by
  obtain ⟨results, hrun, -, hdone, hresult⟩ :=
    run_of_runEach (fun _ h => h) hnd ⟨u, fun _ => none⟩ fun _ _ => rfl
  exact ⟨results, hrun, hdone, hresult⟩

/-- **The variants of a program can be built in any order.**  Whatever order
they are all built in, this has the outcome of building one after the other. -/
theorem gathered_of_run (hp : p.fault? = none) (ht : pl.ToolsConfined p tools)
    (hnd : pl.variantStages.Nodup) (site : pl.Site p sources X B u)
    (hchained : ∀ stage ∈ pl.variantStages, pl.Chained p B stage u)
    (hrun : Floor.Run (pl.BuildsVariant p tools sources) ⟨u, fun _ => none⟩ ⟨g, results⟩)
    (hdone : ∀ stage ∈ pl.variantStages, results stage ≠ none) :
    let d := deed (runEach tools p.name (pl.steps p sources pl.variantStages)) u
    d.result = pl.gathered p sources pl.variantStages results ∧ World.Alike ∅ d.world g := by
  intro d
  obtain ⟨results', hrun', hdone', hresult⟩ := exists_run_of_runEach hnd u
  obtain ⟨hstates, hworld⟩ : results = results' ∧ World.Alike ∅ d.world g := by
    refine Floor.agree (separate_variants hp ht site hchained) ?_
      (fun stage result => stage ∈ pl.variantStages → result ≠ none) ?_ hrun' hrun hdone' hdone
    · rintro stage stage' x ⟨hmem, hx⟩ ⟨hmem', hx'⟩
      exact place_inj (pl.ne_sources_of_mem_variants hmem) (pl.ne_sources_of_mem_variants hmem')
        hx hx'
    · -- a variant that is built alone has one outcome, and no stage but a variant is built
      intro stage s g s' g' hsolo hsolo' hs hs'
      rcases solo_variant hsolo with h | ⟨hmem, h⟩ <;>
        rcases solo_variant hsolo' with h' | ⟨hmem', h'⟩
      · cases h
        cases h'
        exact ⟨rfl, .refl _ _⟩
      · cases h
        exact absurd rfl (hs hmem')
      · cases h'
        exact absurd rfl (hs' hmem)
      · cases h
        cases h'
        exact ⟨rfl, .refl _ _⟩
  exact ⟨hresult.trans (gathered_congr fun stage _ => congrFun hstates.symm stage), hworld⟩

/-- In whatever order the variants are built, each comes to what it would come
to right after the front. -/
theorem runEach_of_site (hp : p.fault? = none) (ht : pl.ToolsConfined p tools)
    (hnd : pl.variantStages.Nodup) (site : pl.Site p sources X B u)
    (hchained : ∀ stage ∈ pl.variantStages, pl.Chained p B stage u) :
    (deed (runEach tools p.name (pl.steps p sources pl.variantStages)) u).result =
      pl.gathered p sources pl.variantStages fun stage =>
        some (deed ((pl.step p sources stage).run tools p.name) u).result := by
  obtain ⟨results, hrun, hdone, hresult⟩ := exists_run_of_runEach hnd u
  obtain ⟨hsolo, -⟩ := Floor.solo_of_run (separate_variants hp ht site hchained) hrun
  refine hresult.trans (gathered_congr fun stage hmem => ?_)
  obtain ⟨g, hg, -⟩ := hsolo stage
  rcases solo_variant hg with h | ⟨-, h⟩
  · exact absurd (congrArg Prod.fst h) (hdone stage hmem)
  · exact congrArg Prod.fst h

end Pipeline

end GuardCost
