/-
GuardCost/Proofs/BenchTrials.lean

The trials of a suite.  A trial is one attempt to measure an executable.  What
it may come to is said by `Measured`, in terms of the machine after so many runs
(`Command.after`) and of how the next run ends there (`Command.ending`):

    missing     nothing is started
    failed      good runs and then one that fails, which is the last
    complete    as many good runs as the policy says

A run is good if it exits with zero (`Ending.Takes`), and the reduced time of good
runs counts if it is a number greater than zero (`Accepted`).

The trials of a suite follow one another on one machine (`Linked`), and what is
attempted, what is started and what is reported are all read off them
(`trials_of_benchDeed`, `deed_benchAll`).
-/
import GuardCost.Proofs.RatioCells
import GuardCost.Proofs.Reductions
import Mathlib.Data.List.Forall2
import Mathlib.Data.List.Perm.Basic
import Mathlib.Logic.Function.Iterate

namespace GuardCost

open GuardCost.Action

/-! ### Runs of one command in a row -/

namespace Command

variable (tools : Tools) (c : Command)

/-- The machine after so many runs of a command. -/
def after (runs : Nat) (w : World) : World := (fun w => (tools c w).2)^[runs] w

/-- How the run after so many others ends. -/
def ending (runs : Nat) (w : World) : Ending := (tools c (c.after tools runs w)).1

/-- What is made of the ending of the run after so many others. -/
def outcome (runs : Nat) (w : World) : Except CommandError Output :=
  c.judge (c.ending tools runs w)

theorem after_succ (runs : Nat) (w : World) :
    c.after tools (runs + 1) w = c.after tools runs (c.after tools 1 w) := rfl

theorem outcome_succ (runs : Nat) (w : World) :
    c.outcome tools (runs + 1) w = c.outcome tools runs (c.after tools 1 w) := rfl

end Command

/-- A process exits with zero, after so long. -/
def Ending.Takes (e : Ending) (elapsed : Duration) : Prop :=
  ∃ stdout stderr, e = .ended (.exited 0) stdout stderr elapsed

namespace Command

variable {c : Command} {e : Ending}

theorem takes_of_judge {output : Output} (h : c.judge e = .ok output) :
    e.Takes output.elapsed := by
  unfold judge at h
  split at h
  · cases h
  · cases h
  · next status stdout stderr elapsed =>
    split at h
    · next hsuccess =>
      cases h
      obtain ⟨raw⟩ := status
      obtain rfl : raw = 0 := by simpa [ExitStatus.isSuccess] using hsuccess
      exact ⟨stdout, stderr, rfl⟩
    · cases h

theorem not_takes_of_judge {cause : CommandError} (h : c.judge e = .error cause)
    (elapsed : Duration) : ¬ e.Takes elapsed := by
  rintro ⟨stdout, stderr, rfl⟩
  cases h

end Command

/-- What a timed run makes of the outcome of a run. -/
def timedResult : Except CommandError Output → Except MeasureError Float
  | .error cause => .error (.command cause)
  | .ok output => .ok output.elapsed.seconds

section
variable (tools : Tools) (c : Command)

theorem deed_timedRun (w : World) :
    deed (timedRun tools c) w = ⟨timedResult (c.outcome tools 0 w), c.after tools 1 w, [c]⟩ := by
  let next : Except CommandError Output → Action (Except MeasureError Float)
    | .error cause => pure (.error (.command cause))
    | .ok output => recordRun output.elapsed.seconds >>= fun _ => pure (.ok output.elapsed.seconds)
  -- the metric of a run is all that stands between its outcome and its time
  have hnext : ∀ result, Grounded (next result) ∧ ∀ w, deed (next result) w =
      .idle (timedResult result) w := by
    rintro (cause | output)
    · exact ⟨.pure _, fun w => rfl⟩
    · refine ⟨(quiet_recordEvent _ _).grounded.bind fun _ => .pure _, fun w => ?_⟩
      exact deed_quiet_bind
        (f := fun _ => (pure (.ok output.elapsed.seconds) : Action (Except MeasureError Float)))
        (quiet_recordEvent _ _) (.pure _) w
  show deed (c.run tools >>= next) w = _
  rw [deed_bind fun result => (hnext result).1, Command.deed_run, Deed.andThen,
    (hnext _).2]
  rfl

/-- What follows the first of several timed runs. -/
def collectNext (n : Nat) : Except MeasureError Float → Action (Except MeasureError (List Float))
  | .error e => pure (.error e)
  | .ok x => collect (timedRun tools c) n >>= fun rest => pure (rest.map (x :: ·))

theorem collect_succ (n : Nat) :
    collect (timedRun tools c) (n + 1) = timedRun tools c >>= collectNext tools c n := by
  refine congrArg (timedRun tools c >>= ·) ?_
  funext result
  cases result with
  | error e => rfl
  | ok x =>
    refine congrArg (collect (timedRun tools c) n >>= ·) ?_
    funext rest
    cases rest <;> rfl

theorem deed_collect_succ (n : Nat) (w : World) :
    deed (collect (timedRun tools c) (n + 1)) w =
      match c.outcome tools 0 w with
      | .error cause => ⟨.error (.command cause), c.after tools 1 w, [c]⟩
      | .ok output =>
        let d := deed (collect (timedRun tools c) n) (c.after tools 1 w)
        ⟨d.result.map (output.elapsed.seconds :: ·), d.world, c :: d.started⟩ := by
  have hnext : ∀ result, Grounded (collectNext tools c n result) := by
    rintro (e | x)
    · exact .pure _
    · exact (grounded_collect (grounded_timedRun tools c) n).bind fun _ => .pure _
  rw [collect_succ, deed_bind hnext, deed_timedRun, Deed.andThen]
  cases c.outcome tools 0 w with
  | error cause => rfl
  | ok output =>
    show Deed.mk (deed (collectNext tools c n (.ok output.elapsed.seconds)) _).result _ _ = _
    rw [timedResult, collectNext, deed_bind fun _ => .pure _]
    simp [Deed.andThen, deed_pure, Deed.idle]

/-- Timed runs in a row all go well, or the first that fails is the last. -/
theorem deed_collect (n : Nat) (w : World) :
    (∃ outputs : List Output, outputs.length = n ∧
        (∀ i (h : i < outputs.length), c.outcome tools i w = .ok outputs[i]) ∧
        deed (collect (timedRun tools c) n) w =
          ⟨.ok (outputs.map (·.elapsed.seconds)), c.after tools n w, List.replicate n c⟩) ∨
      ∃ good < n, (∀ i < good, ∃ output, c.outcome tools i w = .ok output) ∧
        ∃ cause, c.outcome tools good w = .error cause ∧
          deed (collect (timedRun tools c) n) w =
            ⟨.error (.command cause), c.after tools (good + 1) w,
              List.replicate (good + 1) c⟩ := by
  induction n generalizing w with
  | zero => exact .inl ⟨[], rfl, fun i h => absurd h (Nat.not_lt_zero i), rfl⟩
  | succ n ih =>
    rw [deed_collect_succ]
    -- the runs after the first one are those on the machine that it leaves
    cases hfirst : c.outcome tools 0 w with
    | error cause =>
      exact .inr ⟨0, n.succ_pos, fun i h => absurd h (Nat.not_lt_zero i), cause, hfirst, rfl⟩
    | ok output =>
      rcases ih (c.after tools 1 w) with
        ⟨outputs, hlength, houtputs, hd⟩ | ⟨good, hgood, hbefore, cause, hlast, hd⟩
      · refine .inl ⟨output :: outputs, by rw [List.length_cons, hlength], ?_, ?_⟩
        · rintro (- | i) hi
          · exact hfirst
          · rw [Command.outcome_succ]
            exact houtputs i (Nat.lt_of_succ_lt_succ hi)
        · simp only [hd]
          rw [← Command.after_succ]
          rfl
      · refine .inr ⟨good + 1, Nat.succ_lt_succ hgood, ?_, cause, hlast, ?_⟩
        · rintro (- | i) hi
          · exact ⟨output, hfirst⟩
          · rw [Command.outcome_succ]
            exact hbefore i (Nat.lt_of_succ_lt_succ hi)
        · simp only [hd]
          rw [← Command.after_succ]
          rfl

end

/-! ### One measurement -/

/-- What is made of the times of good runs: their reduced value, if that is finite
and greater than zero. -/
inductive Accepted (r : Reduction) (times : List Float) : Except MeasureError Float → Prop
  | none (hnil : times = []) : Accepted r times (.error .noSamples)
  | usable {x : Float} (hreduce : r.reduce? times = some x) (hfinite : x.isFinite = true)
    (hpositive : 0 < x) : Accepted r times (.ok x)
  | unusable {x : Float} (hreduce : r.reduce? times = some x)
    (hbad : ¬ (x.isFinite = true ∧ 0 < x)) : Accepted r times (.error (.invalidDuration x))

theorem isUsable_iff {x : Float} : Binary64.isUsable x = true ↔ x.isFinite = true ∧ 0 < x := by
  simp [Binary64.isUsable]

theorem accepted_acceptSamples (r : Reduction) (times : List Float) :
    Accepted r times (acceptSamples r times) := by
  unfold acceptSamples
  cases hreduce : r.reduce? times with
  | none =>
    refine .none ?_
    by_contra hne
    obtain ⟨x, hx⟩ := r.exists_reduce? hne
    rw [hreduce] at hx
    cases hx
  | some x =>
    dsimp only
    split
    · next husable =>
      obtain ⟨hfinite, hpositive⟩ := isUsable_iff.1 husable
      exact .usable hreduce hfinite hpositive
    · next hbad => exact .unusable hreduce fun h => hbad (isUsable_iff.2 h)

/-- What the measurement of an executable with a command may come to on a
machine. -/
inductive Measured (tools : Tools) (policy : Policy) (path : Path) (c : Command) (w : World) :
    Deed (Except MeasureError Float) → Prop where
  /-- There is no such file, and nothing is started. -/
  | missing (hfile : w.files.isFile w.current path = false) :
    Measured tools policy path c w (.idle (.error (.missing path)) w)
  /-- A run fails, with good ones before it and none after it. -/
  | failed (hfile : w.files.isFile w.current path = true) {good : Nat}
    (hgood : good < policy.repetitions)
    (hbefore : ∀ i < good, ∃ elapsed, (c.ending tools i w).Takes elapsed)
    (hlast : ∀ elapsed, ¬ (c.ending tools good w).Takes elapsed) {cause : CommandError}
    (hcause : c.judge (c.ending tools good w) = .error cause) :
    Measured tools policy path c w
      ⟨.error (.command cause), c.after tools (good + 1) w, List.replicate (good + 1) c⟩
  /-- All runs are good, and their times are reduced. -/
  | complete (hfile : w.files.isFile w.current path = true) {times : List Duration}
    (hlength : times.length = policy.repetitions)
    (hgood : ∀ i (h : i < times.length), (c.ending tools i w).Takes times[i])
    {result : Except MeasureError Float}
    (hresult : Accepted policy.reduction (times.map (·.seconds)) result) :
    Measured tools policy path c w
      ⟨result, c.after tools policy.repetitions w, List.replicate policy.repetitions c⟩

section
variable (tools : Tools) (p : Program) (dir : Path) (policy : Policy)

theorem deed_measureWith (run : Action (Except MeasureError Float)) (n : Nat) (r : Reduction)
    (w : World) : deed (measureWith n r run) w =
      let d := deed (collect run n) w
      ⟨d.result.bind (acceptSamples r), d.world, d.started⟩ := by
  let next : Except MeasureError (List Float) → Action (Except MeasureError Float) :=
    fun samples => pure (samples.bind (acceptSamples r))
  have heq : measureWith n r run = collect run n >>= next := by
    refine congrArg (collect run n >>= ·) ?_
    funext samples
    cases samples <;> rfl
  rw [heq, deed_bind fun _ => .pure _]
  simp [Deed.andThen, deed_pure, Deed.idle]

theorem measured_measure (path : Path) (w : World) :
    Measured tools policy path (benchCommand path p.arguments dir policy) w
      (deed (measure tools path p.arguments dir policy) w) := by
  have hlook : deed (measure tools path p.arguments dir policy) w =
      deed (if w.files.isFile w.current path then
          measureWith policy.repetitions policy.reduction
            (timedRun tools (benchCommand path p.arguments dir policy))
        else pure (.error (.missing path)) : Action _) w := rfl
  rw [hlook]
  cases hfile : w.files.isFile w.current path with
  | false => exact .missing hfile
  | true =>
    simp only [if_true]
    rw [deed_measureWith]
    -- the runs all go well, or there is a first one that fails
    rcases deed_collect tools (benchCommand path p.arguments dir policy) policy.repetitions w with
      ⟨outputs, hlength, hgood, hd⟩ | ⟨good, hgood, hbefore, cause, hlast, hd⟩
    · rw [hd]
      have htimes : outputs.map (·.elapsed.seconds) =
          (outputs.map (·.elapsed)).map (·.seconds) := by rw [List.map_map]; rfl
      have hcount : (outputs.map (·.elapsed)).length = policy.repetitions := by
        rw [List.length_map, hlength]
      refine .complete hfile hcount (fun i h => ?_) (htimes ▸ accepted_acceptSamples _ _)
      rw [List.getElem_map]
      exact Command.takes_of_judge (hgood i (by simpa using h))
    · rw [hd]
      refine .failed hfile hgood (fun i hi => ?_) (Command.not_takes_of_judge hlast) hlast
      obtain ⟨output, houtput⟩ := hbefore i hi
      exact ⟨_, Command.takes_of_judge houtput⟩

end

/-! ### Trials -/

/-- One attempt to measure an executable. -/
structure Trial where
  column : Column
  path : Path
  /-- The machine on which the turn of the executable comes. -/
  before : World
  deed : Deed (Except MeasureError Float)

namespace Trial

/-- What was tried. -/
def target (t : Trial) : Column × Path := (t.column, t.path)

/-- What came of it. -/
def attempt (t : Trial) : Column × Except MeasureError Float := (t.column, t.deed.result)

end Trial

/-- Trials follow one another: each begins on the machine that the one before it
has left. -/
def Linked : World → List Trial → World → Prop
  | w, [], w' => w' = w
  | w, t :: rest, w' => t.before = w ∧ Linked t.deed.world rest w'

theorem Linked.append {w w' w'' : World} {ts ts' : List Trial} (h : Linked w ts w')
    (h' : Linked w' ts' w'') : Linked w (ts ++ ts') w'' := by
  induction ts generalizing w with
  | nil =>
    obtain rfl : w' = w := h
    exact h'
  | cons t rest ih => exact ⟨h.1, ih h.2⟩

/-! ### The trials of a program -/

section
variable (tools : Tools) (p : Program) (dir : Path) (policy : Policy)

/-- The trials of targets in turn. -/
def trialsOf : List (Column × Path) → World → List Trial
  | [], _ => []
  | (c, path) :: rest, w =>
    let d := deed (measure tools path p.arguments dir policy) w
    ⟨c, path, w, d⟩ :: if endsBench c d.result then [] else trialsOf rest d.world

theorem measured_of_mem_trialsOf {targets : List (Column × Path)} {w : World} :
    ∀ t ∈ trialsOf tools p dir policy targets w, Measured tools policy t.path
      (benchCommand t.path p.arguments dir policy) t.before t.deed := by
  induction targets generalizing w with
  | nil => exact fun t ht => absurd ht List.not_mem_nil
  | cons target rest ih =>
    obtain ⟨c, path⟩ := target
    intro t ht
    rcases List.mem_cons.1 ht with rfl | ht
    · exact measured_measure tools p dir policy path w
    · split at ht
      · cases ht
      · exact ih t ht

/-- Of the targets in turn, the trials are all there is to know. -/
theorem trials_of_benchDeed (targets : List (Column × Path)) (w : World) :
    let d := benchDeed tools p dir policy targets w
    let ts := trialsOf tools p dir policy targets w
    d.result = ts.map Trial.attempt ∧ Linked w ts d.world ∧
      d.started = ts.flatMap (·.deed.started) := by
  induction targets generalizing w with
  | nil => exact ⟨rfl, rfl, rfl⟩
  | cons target rest ih =>
    obtain ⟨c, path⟩ := target
    rw [benchDeed_cons, trialsOf]
    dsimp only
    split
    · exact ⟨rfl, ⟨rfl, rfl⟩, (List.append_nil _).symm⟩
    · obtain ⟨hresult, hlinked, hstarted⟩ :=
        ih (deed (measure tools path p.arguments dir policy) w).world
      exact ⟨congrArg _ hresult, ⟨rfl, hlinked⟩, congrArg _ hstarted⟩

/-- Variants are all tried. -/
theorem targets_trialsOf_variants {targets : List (Column × Path)}
    (hv : ∀ t ∈ targets, t.1 ≠ .native) (w : World) :
    (trialsOf tools p dir policy targets w).map Trial.target = targets := by
  induction targets generalizing w with
  | nil => rfl
  | cons target rest ih =>
    obtain ⟨c, path⟩ := target
    have hc : c ≠ .native := hv (c, path) List.mem_cons_self
    have hgo : ∀ result, endsBench c result = false := fun result => by simp [endsBench, hc]
    rw [trialsOf]
    simp only [hgo, Bool.false_eq_true, if_false, List.map_cons]
    exact congrArg _ (ih (fun t ht => hv t (List.mem_cons_of_mem _ ht)) _)

end

/-- The trials of a built program: without a native executable there is none.
Otherwise the native executable is tried first; if its measurement is rejected
it stays alone, and else the variants that were built follow in the order of the
plan. -/
structure Benched (tools : Tools) (variants : List Variant) (policy : Policy) (p : Program)
    (b : Build) (ts : List Trial) : Prop where
  measured : ∀ t ∈ ts, Measured tools policy t.path
    { program := t.path.bytes
      arguments := p.arguments.map Bytes.ofString
      directory? := some b.dir
      streams := .discard
      limit? := policy.limit? } t.before t.deed
  skipped : b.executable? .native = none → ts = []
  native_first : ∀ a, b.executable? .native = some a →
    ∃ first rest, ts = first :: rest ∧ first.target = (.native, a.path) ∧
      (∀ e, first.deed.result = .error e → rest = []) ∧
      ∀ seconds, first.deed.result = .ok seconds → rest.map Trial.target =
        variants.filterMap fun v => (b.executable? (.variant v)).map fun x => (.variant v, x.path)

section
variable (tools : Tools) (variants : List Variant) (policy : Policy) (p : Program) (b : Build)

/-- The trials of a built program. -/
def programTrials (w : World) : List Trial :=
  trialsOf tools p b.dir policy (benchTargets b variants) w

theorem benched_programTrials (w : World) :
    Benched tools variants policy p b (programTrials tools variants policy p b w) where
  measured := measured_of_mem_trialsOf tools p b.dir policy
  skipped hnone := by rw [programTrials, benchTargets_of_unbuilt b variants hnone, trialsOf]
  native_first := by
    intro a ha
    rw [programTrials, benchTargets_of_built b variants ha, trialsOf]
    refine ⟨_, _, rfl, rfl, fun e he => ?_, fun seconds hok => ?_⟩
    · have hend : endsBench .native (deed (measure tools a.path p.arguments b.dir policy) w).result
          = true := by
        rw [he]
        rfl
      rw [if_pos hend]
    · have hgo : endsBench .native (deed (measure tools a.path p.arguments b.dir policy) w).result
          = false := by
        rw [hok]
        rfl
      rw [if_neg (by simp [hgo])]
      exact targets_trialsOf_variants tools p b.dir policy (variantTargets_ne_native b variants) _

theorem attemptsOf_eq (w : World) : attemptsOf tools p b variants policy w =
    (programTrials tools variants policy p b w).map Trial.attempt := by
  rw [attemptsOf]
  exact (trials_of_benchDeed tools p b.dir policy _ w).1

end

/-! ### Samples and failures -/

/-- The failure that an attempt amounts to, if it gave no time. -/
def failureOf? (a : Column × Except MeasureError Float) : Option (Column × MeasureError) :=
  match a.2 with
  | .ok _ => none
  | .error e => some (a.1, e)

theorem timingsOf_failures (program : String) (attempts : Attempts) :
    (timingsOf program attempts).failures = attempts.filterMap failureOf? := by
  have hgen : ∀ t : Timings, (attempts.foldl (fun t a => t.add a.1 a.2) t).failures =
      t.failures ++ attempts.filterMap failureOf? := by
    intro t
    induction attempts generalizing t with
    | nil => simp
    | cons a rest ih =>
      obtain ⟨c, - | seconds⟩ := a
      · rw [List.foldl_cons, ih]
        simp [Timings.add, failureOf?]
      · rw [List.foldl_cons, ih]
        rfl
  exact (hgen { program }).trans (List.nil_append _)

/-- What became of attempts on a program: each column that was attempted stands
either among the samples or among the failures, once, with the program and the
column that it was attempted for, and every sample is a usable time. -/
structure Timings.Accounts (t : Timings) (name : String) (attempts : Attempts) : Prop where
  program : t.program = name
  samples : t.samples = attempts.filterMap (sampleOf? name)
  failures : t.failures = attempts.filterMap failureOf?
  nodup : (attempts.map Prod.fst).Nodup
  perm : (t.samples.map (·.column) ++ t.failures.map Prod.fst).Perm (attempts.map Prod.fst)
  usable : ∀ s ∈ t.samples, s.seconds.isFinite = true ∧ 0 < s.seconds

/-- Columns of samples and of failures are those of the attempts. -/
theorem perm_columns (program : String) (attempts : Attempts) :
    ((attempts.filterMap (sampleOf? program)).map (·.column) ++
      (attempts.filterMap failureOf?).map Prod.fst).Perm (attempts.map Prod.fst) := by
  induction attempts with
  | nil => exact .nil
  | cons a rest ih =>
    obtain ⟨c, e | seconds⟩ := a
    · have hcons : ((c, .error e) :: rest).filterMap failureOf? =
          (c, e) :: rest.filterMap failureOf? := rfl
      rw [List.filterMap_cons_none rfl, hcons]
      exact List.perm_middle.trans (ih.cons c)
    · have hcons : ((c, .ok seconds) :: rest).filterMap (sampleOf? program) =
          ⟨program, c, seconds⟩ :: rest.filterMap (sampleOf? program) := rfl
      rw [hcons, List.filterMap_cons_none (f := failureOf?) rfl]
      exact ih.cons c

theorem accounts_timingsOf {program : String} {attempts : Attempts}
    (hnd : (attempts.map Prod.fst).Nodup) (ht : Trusted attempts) :
    (timingsOf program attempts).Accounts program attempts where
  program := timingsOf_program program attempts
  samples := timingsOf_samples program attempts
  failures := timingsOf_failures program attempts
  nodup := hnd
  perm := by
    rw [timingsOf_samples, timingsOf_failures]
    exact perm_columns program attempts
  usable := by
    intro s hs
    rw [timingsOf_samples] at hs
    obtain ⟨a, ha, hs⟩ := List.mem_filterMap.1 hs
    obtain ⟨seconds, hok, rfl⟩ := Option.map_eq_some_iff.1 hs
    refine isUsable_iff.1 (ht a ha seconds ?_)
    cases h : a.2 with
    | error e =>
      rw [h] at hok
      cases hok
    | ok x =>
      rw [h] at hok
      cases hok
      rfl

/-! ### The trials of a suite -/

section
variable (tools : Tools) (plan : Plan) (policy : Policy)

/-- The trials of built programs, one program after the other. -/
def suiteTrials : List (Program × Build) → World → List (List Trial)
  | [], _ => []
  | (p, b) :: rest, w =>
    programTrials tools plan.variants policy p b w ::
      suiteTrials rest (deed (benchProgram tools p b plan.variants policy Cli.announce) w).world

theorem benched_suiteTrials (pairs : List (Program × Build)) (w : World) :
    List.Forall₂ (fun pair ts => Benched tools plan.variants policy pair.1 pair.2 ts) pairs
      (suiteTrials tools plan policy pairs w) := by
  induction pairs generalizing w with
  | nil => exact .nil
  | cons pair rest ih => exact .cons (benched_programTrials ..) (ih _)

theorem accounts_suiteTrials (hnd : plan.variants.Nodup) (pairs : List (Program × Build))
    (w : World) :
    List.Forall₂ (fun pair ts => (timingsOf pair.1.name (ts.map Trial.attempt)).Accounts
      pair.1.name (ts.map Trial.attempt)) pairs (suiteTrials tools plan policy pairs w) := by
  induction pairs generalizing w with
  | nil => exact .nil
  | cons pair rest ih =>
    obtain ⟨p, b⟩ := pair
    refine .cons ?_ (ih _)
    rw [← attemptsOf_eq]
    exact accounts_timingsOf (nodup_columns_attempts tools p b plan.variants policy hnd w)
      (trusted_attempts tools p b plan.variants policy w)

/-- Of the measuring of a suite, the trials are all there is to know. -/
theorem deed_benchAll (report : Report) (pairs : List (Program × Build)) (w : World) :
    let d := deed (Cli.benchAll tools plan policy report pairs) w
    let ts := suiteTrials tools plan policy pairs w
    Linked w ts.flatten d.world ∧ d.started = ts.flatten.flatMap (·.deed.started) ∧
      d.result = (List.zipWith (fun pair ts => timingsOf pair.1.name (ts.map Trial.attempt))
        pairs ts).foldl Report.add report := by
  induction pairs generalizing report w with
  | nil => exact ⟨rfl, rfl, rfl⟩
  | cons pair rest ih =>
    obtain ⟨p, b⟩ := pair
    obtain ⟨hresult, hlinked, hstarted⟩ :=
      trials_of_benchDeed tools p b.dir policy (benchTargets b plan.variants) w
    rw [← deed_benchProgram tools p b _ policy Cli.quiet_announce] at hresult hlinked hstarted
    -- the trials of the rest begin on the machine that those of `p` have left
    let d := deed (benchProgram tools p b plan.variants policy Cli.announce) w
    obtain ⟨hlinked', hstarted', hresult'⟩ := ih (report.add (timingsOf p.name d.result)) d.world
    rw [Cli.deed_benchAll_cons]
    refine ⟨hlinked.append hlinked', ?_, ?_⟩
    · rw [suiteTrials, List.flatten_cons, List.flatMap_append]
      exact congrArg₂ _ hstarted hstarted'
    · refine hresult'.trans ?_
      rw [hresult]
      rfl

end

/-! ### Machines that stay as they are -/

/-- A measurement leaves a machine as it is, if a single run does. -/
theorem Measured.world_eq {tools : Tools} {policy : Policy} {path : Path} {c : Command} {w : World}
    {d : Deed (Except MeasureError Float)} (h : Measured tools policy path c w d)
    (hc : (tools c w).2 = w) : d.world = w := by
  cases h with
  | missing hfile => rfl
  | failed _ _ _ _ _ => exact Function.iterate_fixed hc _
  | complete _ _ _ _ => exact Function.iterate_fixed hc _

theorem Linked.eq_of_steady {w w' : World} {ts : List Trial} (h : Linked w ts w')
    (hsteady : ∀ t ∈ ts, t.before = w → t.deed.world = w) : w' = w := by
  induction ts with
  | nil => exact h
  | cons t rest ih =>
    have hworld : t.deed.world = w := hsteady t List.mem_cons_self h.1
    exact ih (hworld ▸ h.2) fun t' ht' => hsteady t' (List.mem_cons_of_mem _ ht')

/-- So does measuring a suite. -/
theorem world_benchAll {tools : Tools} {w : World} (hfixed : ∀ c, (tools c w).2 = w) (plan : Plan)
    (policy : Policy) (report : Report) (pairs : List (Program × Build)) :
    (deed (Cli.benchAll tools plan policy report pairs) w).world = w := by
  obtain ⟨hlinked, -, -⟩ := deed_benchAll tools plan policy report pairs w
  have hall := benched_suiteTrials tools plan policy pairs w
  refine hlinked.eq_of_steady fun t ht hbefore => ?_
  obtain ⟨ts, hts, ht⟩ := List.mem_flatten.1 ht
  obtain ⟨i, rfl⟩ := List.get_of_mem hts
  have hpair : i < pairs.length := Nat.lt_of_lt_of_eq i.isLt hall.length_eq.symm
  have hmeasured := (hall.get hpair i.isLt).measured t ht
  rw [hbefore] at hmeasured
  exact hmeasured.world_eq (hfixed _)

end GuardCost
