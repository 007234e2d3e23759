/-
GuardCost/Proofs/Records.lean

What actions record.  No action looks at the metrics, so the events that it
brings to them are decided by the machine that it starts on (`Action.Records`):

    (x.run s).2.metrics = s.metrics.recordAll (events of x on s.world)

Only `recordEvent` brings any.  One action after the other brings the events of
the first and then those of the second, on the machine that the first leaves
(`Records.bind`).  To prepare a program or to run a step of its build brings none:
what becomes of a stage is recorded by those that ran it.
-/
import GuardCost.Proofs.BuildDeeds
import GuardCost.Proofs.Recordings

namespace GuardCost.Action

open Metrics

variable {α β : Type}

/-- On each machine an action brings certain events to the metrics. -/
def Records (x : Action α) (ops : World → List Operation) : Prop :=
  ∀ s, (x.run s).2.metrics = s.metrics.recordAll (ops s.world)

/-- An action that brings no event to the metrics. -/
abbrev Unrecorded (x : Action α) : Prop := Records x fun _ => []

variable {x : Action α} {y : α → Action β} {f : World → List Operation}
  {g : α → World → List Operation}

theorem Records.pure (a : α) : Unrecorded (Pure.pure a : Action α) := fun _ => rfl

/-- The events of two actions, one after the other. -/
theorem Records.bind (hx : Records x f) (hground : Grounded x) (hy : ∀ a, Records (y a) (g a)) :
    Records (x >>= y) fun w => f w ++ g (deed x w).result (deed x w).world := by
  intro s
  rw [run_bind, hy, hx, hground.result, hground.world, Recorder.recordAll_append]

/-- Events only of the first action. -/
theorem Records.thenPure (hx : Records x f) (h : α → β) :
    Records (x >>= fun a => Pure.pure (h a)) f := fun s => hx s

/-- No events of either action. -/
theorem Unrecorded.bind (hx : Unrecorded x) (hy : ∀ a, Unrecorded (y a)) :
    Unrecorded (x >>= y) := fun s => (hy _ _).trans (hx s)

theorem records_recordEvent (key : Key) (event : Event) :
    Records (recordEvent key event) fun _ => [(key, event)] := fun _ => rfl

theorem unrecorded_noteEvent (severity : Severity) (message : String)
    (more : List (String × String)) : Unrecorded (noteEvent severity message more) := fun _ => rfl

theorem unrecorded_reportFailure (e : CommandError) : Unrecorded (reportFailure e) := by
  cases e with
  | spawn c cause => exact .pure _
  | exit c status stderr => exact unrecorded_noteEvent _ _ _
  | timedOut c limit => exact unrecorded_noteEvent _ _ _

theorem unrecorded_changeFiles (change : World → Except SystemError FileSystem) :
    Unrecorded (changeFiles change) := by
  intro s
  show (changeFiles change s).2.metrics = s.metrics
  unfold changeFiles
  cases change s.world <;> rfl

theorem unrecorded_commandRun (tools : Tools) (c : Command) : Unrecorded (c.run tools) := by
  have hconclude : ∀ ending, Unrecorded (c.conclude ending) := by
    intro ending
    unfold Command.conclude
    split
    · exact (unrecorded_reportFailure _).thenPure _
    · exact .pure _
  intro s
  exact hconclude (tools c s.world).1 _

/-! ### Steps of a build -/

theorem unrecorded_removeStale (path : Path) : Unrecorded (removeStale path) := by
  rw [removeStale_eq]
  exact (unrecorded_changeFiles _).thenPure _

theorem unrecorded_stepRun (tools : Tools) (name : String) (s : Step) :
    Unrecorded (s.run tools name) := by
  have hproceed : ∀ answer, Unrecorded (s.proceed tools name answer) := by
    rintro (cause | ⟨⟩)
    · exact .pure _
    · refine (unrecorded_commandRun tools _).bind fun result => ?_
      cases result <;> exact .pure _
  rw [Step.run_eq]
  exact (unrecorded_removeStale _).bind hproceed

theorem unrecorded_ensureDirectory (path : Path) : Unrecorded (ensureDirectory path) := by
  have hnext : ∀ answer, Unrecorded (ensureNext path answer) := by
    rintro (cause | ⟨⟩)
    · exact fun _ => rfl
    · exact .pure _
  rw [ensureDirectory_eq]
  exact (unrecorded_changeFiles _).bind hnext

theorem unrecorded_prepare (pl : Pipeline) (p : Program) : Unrecorded (pl.prepare p) := by
  have hnext : ∀ found, Unrecorded (pl.prepareNext p found) := by
    rintro (e | sources)
    · exact .pure _
    · refine (unrecorded_ensureDirectory _).bind fun answer => ?_
      rcases answer with cause | ⟨⟩ <;> exact .pure _
  rw [Pipeline.prepare_eq]
  exact fun s => hnext (p.findSources s.world (pl.dir p)) s

end GuardCost.Action
