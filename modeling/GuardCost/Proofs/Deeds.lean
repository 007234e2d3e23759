/-
GuardCost/Proofs/Deeds.lean

What actions do to the machine.  The state of a run holds the machine and the
commands that were started next to the metrics and all that was said, and no
action ever looks at the latter.  The *deed* of an action on a machine is its
result, the machine it leaves, and the commands it starts:

    (x.run s).1         = (x.deed s.world).result
    (x.run s).2.world   = (x.deed s.world).world
    (x.run s).2.started = s.started ++ (x.deed s.world).started

Actions with these three equations are `Grounded`.  Every primitive is, and
they compose (`Grounded.bind`), with the deeds composing in the same way
(`deed_bind`).  So a build can be followed on machines alone.
-/
import GuardCost.Build.Run
import Mathlib.Data.List.Basic

namespace GuardCost

variable {α β : Type}

/-- What an action comes to on a machine. -/
structure Deed (α : Type) where
  result : α
  /-- The machine that is left. -/
  world : World
  /-- The commands that were started, oldest first. -/
  started : List Command

namespace Deed

/-- A deed that only has a result. -/
def idle (a : α) (w : World) : Deed α := ⟨a, w, []⟩

/-- One deed and then another one, on the machine that the first leaves. -/
def andThen (d : Deed α) (f : α → World → Deed β) : Deed β :=
  ⟨(f d.result d.world).result, (f d.result d.world).world,
    d.started ++ (f d.result d.world).started⟩

@[simp] theorem idle_andThen (a : α) (w : World) (f : α → World → Deed β) :
    (idle a w).andThen f = f a w := rfl

end Deed

namespace Action

/-- The deed of an action on a machine. -/
def deed (x : Action α) (w : World) : Deed α :=
  ⟨(x.run (.ofWorld w)).1, (x.run (.ofWorld w)).2.world, (x.run (.ofWorld w)).2.started⟩

/-- Nothing but the machine decides what an action does to it. -/
structure Grounded (x : Action α) : Prop where
  result : ∀ s, (x.run s).1 = (x.deed s.world).result
  world : ∀ s, (x.run s).2.world = (x.deed s.world).world
  started : ∀ s, (x.run s).2.started = s.started ++ (x.deed s.world).started

/-! ### Composition -/

theorem run_bind (x : Action α) (f : α → Action β) (s : Session) :
    (x >>= f).run s = (f (x.run s).1).run (x.run s).2 := rfl

theorem deed_pure (a : α) (w : World) : deed (pure a) w = .idle a w := rfl

theorem Grounded.pure (a : α) : Grounded (Pure.pure a : Action α) :=
  ⟨fun _ => rfl, fun _ => rfl, fun s => (List.append_nil s.started).symm⟩

/-- The deeds of two actions compose, if the second is grounded. -/
theorem deed_bind {x : Action α} {f : α → Action β} (hf : ∀ a, Grounded (f a)) (w : World) :
    deed (x >>= f) w = (deed x w).andThen fun a => deed (f a) := by
  have h := hf (x.run (.ofWorld w)).1
  show Deed.mk _ _ _ = Deed.mk _ _ _
  rw [run_bind, h.result, h.world, h.started]
  rfl

theorem Grounded.bind {x : Action α} {f : α → Action β} (hx : Grounded x)
    (hf : ∀ a, Grounded (f a)) : Grounded (x >>= f) where
  result s := by
    rw [deed_bind hf, run_bind, (hf _).result, hx.result, hx.world]
    rfl
  world s := by
    rw [deed_bind hf, run_bind, (hf _).world, hx.result, hx.world]
    rfl
  started s := by
    rw [deed_bind hf, run_bind, (hf _).started, hx.result, hx.world, hx.started,
      List.append_assoc]
    rfl

/-- Looking at the machine and going on with what is seen. -/
theorem Grounded.look {f : World → Action β} (hf : ∀ w, Grounded (f w)) :
    Grounded (get >>= fun s => f s.world) where
  result s := (hf s.world).result s
  world s := (hf s.world).world s
  started s := (hf s.world).started s

theorem deed_look (f : World → Action β) (w : World) :
    deed (get >>= fun s => f s.world) w = deed (f w) w := rfl

/-! ### Actions that leave the machine alone -/

/-- An action without a result that starts nothing and leaves the machine
alone. -/
def Quiet (x : Action Unit) : Prop :=
  ∀ s, (x.run s).2.world = s.world ∧ (x.run s).2.started = s.started

theorem Quiet.deed {x : Action Unit} (hx : Quiet x) (w : World) : x.deed w = .idle () w := by
  obtain ⟨hw, hs⟩ := hx (.ofWorld w)
  show Deed.mk _ _ _ = Deed.mk _ _ _
  rw [hw, hs]
  rfl

theorem Quiet.grounded {x : Action Unit} (hx : Quiet x) : Grounded x where
  result _ := rfl
  world s := by rw [hx.deed]; exact (hx s).1
  started s := by rw [hx.deed, (hx s).2]; exact (List.append_nil s.started).symm

theorem Quiet.bind {x : Action Unit} {f : Unit → Action Unit} (hx : Quiet x)
    (hf : Quiet (f ())) : Quiet (x >>= f) := by
  intro s
  obtain ⟨hw, hs⟩ := hx s
  obtain ⟨hw', hs'⟩ := hf (x.run s).2
  exact ⟨hw'.trans hw, hs'.trans hs⟩

/-- A quiet action in front changes nothing. -/
theorem deed_quiet_bind {x : Action Unit} {f : Unit → Action β} (hx : Quiet x)
    (hf : Grounded (f ())) (w : World) : deed (x >>= f) w = deed (f ()) w := by
  rw [deed_bind (fun _ => hf), hx.deed, Deed.idle_andThen]

theorem quiet_pure : Quiet (Pure.pure () : Action Unit) := fun _ => ⟨rfl, rfl⟩

theorem quiet_recordEvent (key : Metrics.Key) (event : Metrics.Event) :
    Quiet (recordEvent key event) := fun _ => ⟨rfl, rfl⟩

theorem quiet_notify (notice : Notice) : Quiet (notify notice) := fun _ => ⟨rfl, rfl⟩

theorem quiet_print (text : String) : Quiet (print text) := fun _ => ⟨rfl, rfl⟩

theorem quiet_noteEvent (severity : Severity) (message : String) (more : List (String × String)) :
    Quiet (noteEvent severity message more) := fun _ => ⟨rfl, rfl⟩

theorem quiet_reportFailure (e : CommandError) : Quiet (reportFailure e) := by
  cases e with
  | spawn c cause => exact quiet_pure
  | exit c status stderr => exact quiet_noteEvent _ _ _
  | timedOut c limit => exact quiet_noteEvent _ _ _

/-! ### Contexts -/

theorem run_within (kind program : String) (body : Action α) (s : Session) :
    ∃ outer inner, ((within kind program body).run s).1
        = (body.run { s with console.within := inner }).1
      ∧ ((within kind program body).run s).2
        = { (body.run { s with console.within := inner }).2 with console.within := outer } :=
  ⟨_, _, rfl, rfl⟩

theorem Grounded.within {body : Action α} (hb : Grounded body) (kind program : String) :
    Grounded (within kind program body) where
  result s := by
    obtain ⟨o, i, h, -⟩ := run_within kind program body s
    obtain ⟨o', i', h', -⟩ := run_within kind program body (.ofWorld s.world)
    show _ = ((GuardCost.within kind program body).run (.ofWorld s.world)).1
    rw [h, h']
    exact (hb.result _).trans (hb.result { Session.ofWorld s.world with
      console.within := i' }).symm
  world s := by
    obtain ⟨o, i, -, h⟩ := run_within kind program body s
    obtain ⟨o', i', -, h'⟩ := run_within kind program body (.ofWorld s.world)
    show _ = ((GuardCost.within kind program body).run (.ofWorld s.world)).2.world
    rw [h, h']
    exact (hb.world _).trans (hb.world { Session.ofWorld s.world with
      console.within := i' }).symm
  started s := by
    obtain ⟨o, i, -, h⟩ := run_within kind program body s
    obtain ⟨o', i', -, h'⟩ := run_within kind program body (.ofWorld s.world)
    show _ = s.started ++ ((GuardCost.within kind program body).run (.ofWorld s.world)).2.started
    rw [h, h']
    refine (hb.started _).trans ?_
    exact congrArg (s.started ++ ·) (hb.started { Session.ofWorld s.world with
      console.within := i' }).symm

/-- A context does not show on the machine. -/
theorem deed_within {body : Action α} (hb : Grounded body) (kind program : String) (w : World) :
    deed (within kind program body) w = deed body w := by
  obtain ⟨o, i, h, h'⟩ := run_within kind program body (.ofWorld w)
  show Deed.mk _ _ _ = _
  rw [h, h']
  show Deed.mk _ _ _ = _
  rw [hb.result, hb.world, hb.started]
  rfl

/-! ### Files and commands -/

theorem grounded_changeFiles (change : World → Except SystemError FileSystem) :
    Grounded (changeFiles change) := by
  constructor <;> intro s <;> simp only [deed, changeFiles, StateT.run, Session.ofWorld] <;>
    cases h : change s.world <;> simp

theorem deed_changeFiles (change : World → Except SystemError FileSystem) (w : World) :
    deed (changeFiles change) w =
      match change w with
      | .ok files => .idle (.ok ()) { w with files }
      | .error cause => .idle (.error cause) w := by
  simp only [deed, changeFiles, StateT.run, Session.ofWorld]
  cases h : change w <;> rfl

end Action

namespace Command

open GuardCost.Action

/-- Start a command, write it down, and give its ending. -/
def launch (tools : Tools) (c : Command) : Action Ending := fun s =>
  ((tools c s.world).1, { s with world := (tools c s.world).2, started := s.started ++ [c] })

/-- What is made of an ending. -/
def conclude (c : Command) (ending : Ending) : Action (Except CommandError Output) :=
  match c.judge ending with
  | .error e => reportFailure e >>= fun _ => pure (.error e)
  | .ok output => pure (.ok output)

theorem run_eq (tools : Tools) (c : Command) :
    ∃ talk, Quiet talk ∧ c.run tools = talk >>= fun _ => c.launch tools >>= c.conclude :=
  ⟨_, quiet_noteEvent _ _ _, rfl⟩

theorem grounded_launch (tools : Tools) (c : Command) : Grounded (c.launch tools) :=
  ⟨fun _ => rfl, fun _ => rfl, fun _ => rfl⟩

theorem grounded_conclude (c : Command) (ending : Ending) : Grounded (c.conclude ending) := by
  unfold conclude
  split
  · exact (quiet_reportFailure _).grounded.bind fun _ => .pure _
  · exact .pure _

theorem deed_conclude (c : Command) (ending : Ending) (w : World) :
    deed (c.conclude ending) w = .idle (c.judge ending) w := by
  unfold conclude
  split
  · next e h =>
    have := deed_quiet_bind (f := fun _ => (pure (.error e) : Action (Except CommandError Output)))
      (quiet_reportFailure e) (.pure _) w
    rw [h]
    exact this
  · next output h => rw [deed_pure, h]

theorem grounded_run (tools : Tools) (c : Command) : Grounded (c.run tools) := by
  obtain ⟨talk, hq, h⟩ := run_eq tools c
  rw [h]
  exact hq.grounded.bind fun _ => (grounded_launch tools c).bind c.grounded_conclude

/-- A command is started once, and its ending is judged. -/
theorem deed_run (tools : Tools) (c : Command) (w : World) :
    deed (c.run tools) w = ⟨c.judge (tools c w).1, (tools c w).2, [c]⟩ := by
  obtain ⟨talk, hq, h⟩ := run_eq tools c
  rw [h, deed_quiet_bind (f := fun _ => c.launch tools >>= c.conclude) hq
    ((grounded_launch tools c).bind c.grounded_conclude), deed_bind c.grounded_conclude]
  simp only [Deed.andThen, deed_conclude]
  rfl

end Command

end GuardCost
