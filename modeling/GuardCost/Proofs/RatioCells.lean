/-
GuardCost/Proofs/RatioCells.lean

What the cells of a report are.  Four places decide whether a cell is filled:
the targets of a program (`benchTargets`), the end of its benchmarking after a
failing native executable (`benchEach`), the search for the sample of a column,
and the two checks that a time is usable.  Together they say no more than

    native cell     = 1.0                        if native was built and measured
    cell of a       = time of the variant        if, besides, the variant was
    variant           / time of native             built and measured

where the time of a column (`columnTime?`) is what its measurement gives when
its turn comes.

The search for samples is settled for any attempts with distinct columns
(`lookup?_timingsOf`), and the turn of a column by induction on the targets
(`lookup_benchDeed`): before a column only the targets in front of it were run.
-/
import GuardCost.Proofs.BuildShape
import GuardCost.Proofs.Commands

namespace GuardCost

open GuardCost.Action

/-! ### Measurements are grounded -/

theorem grounded_timedRun (tools : Tools) (c : Command) : Grounded (timedRun tools c) := by
  refine (c.grounded_run tools).bind fun result => ?_
  cases result with
  | error cause => exact .pure _
  | ok output => exact (quiet_recordEvent _ _).grounded.bind fun _ => .pure _

theorem grounded_collect {run : Action (Except MeasureError Float)} (hr : Grounded run) (n : Nat) :
    Grounded (collect run n) := by
  induction n with
  | zero => exact .pure _
  | succ n ih =>
    refine hr.bind fun result => ?_
    cases result with
    | error e => exact .pure _
    | ok x =>
      refine ih.bind fun rest => ?_
      cases rest <;> exact .pure _

theorem grounded_measureWith {run : Action (Except MeasureError Float)} (hr : Grounded run)
    (n : Nat) (r : Reduction) : Grounded (measureWith n r run) := by
  refine (grounded_collect hr n).bind fun samples => ?_
  cases samples <;> exact .pure _

section
variable (tools : Tools) (p : Program) (dir : Path) (policy : Policy)

theorem grounded_measure (path : Path) (arguments : List String) :
    Grounded (measure tools path arguments dir policy) := by
  refine Grounded.look (f := fun w =>
    if w.files.isFile w.current path then
      measureWith policy.repetitions policy.reduction
        (timedRun tools (benchCommand path arguments dir policy))
    else pure (.error (.missing path))) fun w => ?_
  split
  · exact grounded_measureWith (grounded_timedRun tools _) _ _
  · exact .pure _

/-- What is accepted is usable. -/
theorem isUsable_of_acceptSamples {r : Reduction} {xs : List Float} {x : Float}
    (h : acceptSamples r xs = .ok x) : Binary64.isUsable x = true := by
  unfold acceptSamples at h
  split at h
  · cases h
  · split at h
    · next hu => cases h; exact hu
    · cases h

theorem isUsable_of_measureWith {run : Action (Except MeasureError Float)} {n : Nat}
    {r : Reduction} {s : Session} {x : Float} (h : ((measureWith n r run).run s).1 = .ok x) :
    Binary64.isUsable x = true := by
  unfold measureWith at h
  rw [run_bind] at h
  cases hc : ((collect run n).run s).1 with
  | error e => simp [hc, StateT.run_pure] at h
  | ok xs => exact @isUsable_of_acceptSamples r xs _ (by rw [hc] at h; exact h)

/-- A measured time is usable. -/
theorem isUsable_of_measure {path : Path} {arguments : List String} {w : World} {x : Float}
    (h : (deed (measure tools path arguments dir policy) w).result = .ok x) :
    Binary64.isUsable x = true := by
  have hrun : (((if w.files.isFile w.current path then
      measureWith policy.repetitions policy.reduction
        (timedRun tools (benchCommand path arguments dir policy))
    else pure (.error (.missing path)) : Action _)).run (.ofWorld w)).1 = .ok x := h
  split at hrun
  · exact isUsable_of_measureWith hrun
  · cases hrun

/-! ### The targets of a program in turn -/

/-- What is noted about an attempt. -/
def noteAttempt (c : Column) : Except MeasureError Float → Action Unit
  | .ok seconds => recordMeasurement p.name c seconds
  | .error e => noteEvent .warning e.message [("program", p.name), ("column", c.key)]

theorem quiet_noteAttempt (c : Column) (result : Except MeasureError Float) :
    Quiet (noteAttempt p c result) := by
  cases result with
  | ok seconds => exact quiet_recordEvent _ _
  | error e => exact quiet_noteEvent _ _ _

/-- Whether a program is given up after an attempt. -/
def endsBench (c : Column) (result : Except MeasureError Float) : Bool :=
  c == .native && result.toOption.isNone

/-- What is done once a target has been measured. -/
def benchNext (observe : Observer) (seen : Attempts) (c : Column) (rest : List (Column × Path))
    (result : Except MeasureError Float) : Action Attempts :=
  observe seen c result >>= fun _ => noteAttempt p c result >>= fun _ =>
    if endsBench c result then pure [(c, result)]
    else benchEach tools p dir policy observe (seen ++ [(c, result)]) rest >>= fun attempts =>
      pure ((c, result) :: attempts)

theorem benchEach_cons (observe : Observer) (seen : Attempts) (c : Column) (path : Path)
    (rest : List (Column × Path)) :
    benchEach tools p dir policy observe seen ((c, path) :: rest) =
      measure tools path p.arguments dir policy
        >>= benchNext tools p dir policy observe seen c rest := by
  refine congrArg (measure tools path p.arguments dir policy >>= ·) ?_
  funext result
  refine congrArg (observe seen c result >>= ·) ?_
  funext _
  cases result with
  | ok seconds => simp [endsBench, noteAttempt, Except.toOption]
  | error e => by_cases hc : c = .native <;> simp [endsBench, noteAttempt, hc, Except.toOption]

/-- Watching starts nothing and leaves the machine alone. -/
def Observer.IsQuiet (observe : Observer) : Prop :=
  ∀ seen c result, Quiet (observe seen c result)

theorem quiet_unobserved : unobserved.IsQuiet := fun _ _ _ => quiet_pure

section
variable {observe : Observer}

theorem grounded_benchEach (ho : observe.IsQuiet) (seen : Attempts)
    (targets : List (Column × Path)) :
    Grounded (benchEach tools p dir policy observe seen targets) := by
  induction targets generalizing seen with
  | nil => exact .pure _
  | cons t rest ih =>
    obtain ⟨c, path⟩ := t
    rw [benchEach_cons]
    refine (grounded_measure tools dir policy path p.arguments).bind fun result => ?_
    refine (ho seen c result).grounded.bind fun _ =>
      (quiet_noteAttempt p c result).grounded.bind fun _ => ?_
    split
    · exact .pure _
    · exact (ih _).bind fun _ => .pure _

theorem deed_benchEach_cons (ho : observe.IsQuiet) (seen : Attempts) (c : Column) (path : Path)
    (rest : List (Column × Path)) (w : World) :
    deed (benchEach tools p dir policy observe seen ((c, path) :: rest)) w =
      let d := deed (measure tools path p.arguments dir policy) w
      if endsBench c d.result then ⟨[(c, d.result)], d.world, d.started⟩
      else
        let d' := deed (benchEach tools p dir policy observe (seen ++ [(c, d.result)]) rest) d.world
        ⟨(c, d.result) :: d'.result, d'.world, d.started ++ d'.started⟩ := by
  have hrest := fun seen => grounded_benchEach tools p dir policy ho seen rest
  have htail : ∀ result, Grounded (if endsBench c result then pure [(c, result)]
      else benchEach tools p dir policy observe (seen ++ [(c, result)]) rest >>= fun attempts =>
        (pure ((c, result) :: attempts) : Action Attempts)) := by
    intro result
    split
    · exact .pure _
    · exact (hrest _).bind fun _ => .pure _
  have hnote : ∀ result, Grounded (noteAttempt p c result >>= fun _ =>
      if endsBench c result then pure [(c, result)]
      else benchEach tools p dir policy observe (seen ++ [(c, result)]) rest >>= fun attempts =>
        (pure ((c, result) :: attempts) : Action Attempts)) := fun result =>
    (quiet_noteAttempt p c result).grounded.bind fun _ => htail result
  have hnext : ∀ result, Grounded (benchNext tools p dir policy observe seen c rest result) :=
    fun result => (ho seen c result).grounded.bind fun _ => hnote result
  -- watching and noting are quiet: what is left is the measurement and the rest
  rw [benchEach_cons, deed_bind hnext, Deed.andThen, benchNext,
    deed_quiet_bind (ho seen c _) (hnote _), deed_quiet_bind (quiet_noteAttempt p c _) (htail _)]
  cases hend : endsBench c (deed (measure tools path p.arguments dir policy) w).result with
  | true => simp [hend, deed_pure, Deed.idle]
  | false =>
    simp only [hend, Bool.false_eq_true, if_false]
    rw [deed_bind fun _ => .pure _]
    simp [Deed.andThen, deed_pure, Deed.idle]

end

/-- What measuring targets does, whoever watches. -/
def benchDeed (targets : List (Column × Path)) (w : World) : Deed Attempts :=
  deed (benchEach tools p dir policy unobserved [] targets) w

/-- Nothing that is done to the machine depends on who watches, or on what was
seen before. -/
theorem deed_benchEach_eq {observe : Observer} (ho : observe.IsQuiet) (seen : Attempts)
    (targets : List (Column × Path)) (w : World) :
    deed (benchEach tools p dir policy observe seen targets) w =
      benchDeed tools p dir policy targets w := by
  -- both sides have seen more after each target, so both are generalised
  have hagree : ∀ seen', deed (benchEach tools p dir policy observe seen targets) w =
      deed (benchEach tools p dir policy unobserved seen' targets) w := by
    induction targets generalizing seen w with
    | nil => exact fun _ => rfl
    | cons t rest ih =>
      obtain ⟨c, path⟩ := t
      intro seen'
      rw [deed_benchEach_cons tools p dir policy ho,
        deed_benchEach_cons tools p dir policy quiet_unobserved]
      simp only [ih _ _ (seen' ++ [(c, (deed (measure tools path p.arguments dir policy) w).result)])]
  exact hagree []

theorem benchDeed_cons (c : Column) (path : Path) (rest : List (Column × Path)) (w : World) :
    benchDeed tools p dir policy ((c, path) :: rest) w =
      let d := deed (measure tools path p.arguments dir policy) w
      if endsBench c d.result then ⟨[(c, d.result)], d.world, d.started⟩
      else
        let d' := benchDeed tools p dir policy rest d.world
        ⟨(c, d.result) :: d'.result, d'.world, d.started ++ d'.started⟩ := by
  rw [benchDeed, deed_benchEach_cons tools p dir policy quiet_unobserved]
  simp only [deed_benchEach_eq tools p dir policy quiet_unobserved]

/-- The machine on which the turn of a column comes: the targets in front of
it have been run. -/
def turn (targets : List (Column × Path)) (w : World) (c : Column) : World :=
  (benchDeed tools p dir policy (targets.takeWhile fun t => t.1 != c) w).world

/-- After a target that does not end the program, the turn of every other
column comes on the machine that the target leaves. -/
theorem turn_cons {c c' : Column} (hc : c' ≠ c) {path : Path} {rest : List (Column × Path)}
    {w : World}
    (hgo : endsBench c' (deed (measure tools path p.arguments dir policy) w).result = false) :
    turn tools p dir policy ((c', path) :: rest) w c =
      turn tools p dir policy rest (deed (measure tools path p.arguments dir policy) w).world c := by
  have htake : ((c', path) :: rest).takeWhile (fun t => t.1 != c) =
      (c', path) :: rest.takeWhile fun t => t.1 != c := by
    rw [List.takeWhile_cons_of_pos (by simp [hc])]
  rw [turn, htake, benchDeed_cons]
  simp [hgo, turn]

/-- The attempt on a column among variants is its measurement when its turn
comes. -/
theorem lookup_benchDeed {targets : List (Column × Path)} (hv : ∀ t ∈ targets, t.1 ≠ .native)
    (w : World) (c : Column) :
    (benchDeed tools p dir policy targets w).result.lookup c =
      (targets.lookup c).map fun path =>
        (deed (measure tools path p.arguments dir policy)
          (turn tools p dir policy targets w c)).result := by
  induction targets generalizing w with
  | nil => rfl
  | cons t rest ih =>
    obtain ⟨c', path⟩ := t
    have hc' : c' ≠ .native := hv (c', path) List.mem_cons_self
    have hgo : ∀ result, endsBench c' result = false := by
      intro result
      simp [endsBench, hc']
    rw [benchDeed_cons]
    simp only [hgo, Bool.false_eq_true, if_false]
    by_cases hc : c' = c
    · subst hc
      simp [turn, benchDeed, deed_pure, benchEach, Deed.idle]
    · -- the turn of `c` comes among the rest, on the machine that this target leaves
      have hne : (c == c') = false := by simpa using fun h => hc h.symm
      rw [List.lookup_cons, List.lookup_cons, hne, turn_cons tools p dir policy hc (hgo _)]
      exact ih (fun t ht => hv t (List.mem_cons_of_mem _ ht)) _

/-- The columns of the attempts are columns of the targets, in their order. -/
theorem columns_benchDeed_sublist (targets : List (Column × Path)) (w : World) :
    ((benchDeed tools p dir policy targets w).result.map Prod.fst).Sublist
      (targets.map Prod.fst) := by
  induction targets generalizing w with
  | nil => exact List.Sublist.refl _
  | cons t rest ih =>
    obtain ⟨c, path⟩ := t
    rw [benchDeed_cons]
    simp only [List.map_cons]
    split
    · simp
    · simpa using ih _

end

/-! ### Samples -/

/-- The sample that an attempt amounts to, if it gave a time. -/
def sampleOf? (program : String) (a : Column × Except MeasureError Float) : Option Sample :=
  a.2.toOption.map fun seconds => ⟨program, a.1, seconds⟩

theorem timingsOf_program (program : String) (attempts : Attempts) :
    (timingsOf program attempts).program = program := by
  have hgen : ∀ (t : Timings), (attempts.foldl (fun t a => t.add a.1 a.2) t).program =
      t.program := by
    intro t
    induction attempts generalizing t with
    | nil => rfl
    | cons a rest ih =>
      obtain ⟨c, result⟩ := a
      rw [List.foldl_cons, ih]
      cases result <;> rfl
  exact hgen { program }

theorem timingsOf_samples (program : String) (attempts : Attempts) :
    (timingsOf program attempts).samples = attempts.filterMap (sampleOf? program) := by
  have hgen : ∀ (t : Timings), t.program = program →
      (attempts.foldl (fun t a => t.add a.1 a.2) t).samples =
        t.samples ++ attempts.filterMap (sampleOf? program) := by
    intro t ht
    induction attempts generalizing t with
    | nil => simp
    | cons a rest ih =>
      obtain ⟨c, result⟩ := a
      rw [List.foldl_cons, ih (t.add c result) (by cases result <;> exact ht)]
      cases result with
      | ok seconds => simp [Timings.add, sampleOf?, ht, Except.toOption]
      | error e =>
        rw [List.filterMap_cons_none rfl]
        rfl
  exact (hgen { program } rfl).trans (List.nil_append _)

/-- The sample of a column among attempts with distinct columns is that of the
one attempt on it. -/
theorem find?_sampleOf {program : String} {attempts : Attempts}
    (hnd : (attempts.map Prod.fst).Nodup) (c : Column) :
    (((attempts.filterMap (sampleOf? program)).find?
        fun s => s.program == program && s.column == c).map (·.seconds)) =
      (attempts.lookup c).bind Except.toOption := by
  induction attempts with
  | nil => rfl
  | cons a rest ih =>
    obtain ⟨c', result⟩ := a
    obtain ⟨hc', hrest⟩ := List.nodup_cons.1 hnd
    by_cases hc : c = c'
    · subst hc
      rw [List.lookup_cons_self]
      cases result with
      | ok seconds =>
        have hcons : ((c, .ok seconds) :: rest).filterMap (sampleOf? program) =
            ⟨program, c, seconds⟩ :: rest.filterMap (sampleOf? program) := rfl
        rw [hcons, List.find?_cons_of_pos (by simp)]
        rfl
      | error e =>
        -- no later attempt is on the same column
        have hnone : (rest.filterMap (sampleOf? program)).find?
            (fun s => s.program == program && s.column == c) = none := by
          rw [List.find?_eq_none]
          intro s hs
          obtain ⟨a, ha, hs⟩ := List.mem_filterMap.1 hs
          obtain ⟨x, -, rfl⟩ := Option.map_eq_some_iff.1 hs
          have : a.1 ≠ c := fun h => hc' (List.mem_map.2 ⟨a, ha, h⟩)
          simp [this]
        rw [List.filterMap_cons_none rfl, hnone]
        rfl
    · have hne : (c == c') = false := by simpa using hc
      rw [List.lookup_cons, hne, ← ih hrest]
      cases result with
      | ok seconds =>
        have hcons : ((c', .ok seconds) :: rest).filterMap (sampleOf? program) =
            ⟨program, c', seconds⟩ :: rest.filterMap (sampleOf? program) := rfl
        have hne' : (c' == c) = false := by simpa using fun h => hc h.symm
        rw [hcons, List.find?_cons_of_neg (by simp [hne'])]
      | error e => rw [List.filterMap_cons_none rfl]

/-- The times that attempts gave are usable. -/
def Trusted (attempts : Attempts) : Prop :=
  ∀ a ∈ attempts, ∀ x, a.2 = .ok x → Binary64.isUsable x = true

theorem mem_of_lookup {attempts : Attempts} {c : Column} {result : Except MeasureError Float}
    (h : attempts.lookup c = some result) : (c, result) ∈ attempts := by
  obtain ⟨before, after, rfl, -⟩ := List.lookup_eq_some_iff.1 h
  exact List.mem_append_right _ List.mem_cons_self

theorem lookup_of_mem {attempts : Attempts} (hnd : (attempts.map Prod.fst).Nodup)
    {a : Column × Except MeasureError Float} (ha : a ∈ attempts) :
    attempts.lookup a.1 = some a.2 := by
  induction attempts with
  | nil => cases ha
  | cons a' rest ih =>
    obtain ⟨hc', hrest⟩ := List.nodup_cons.1 hnd
    rcases List.mem_cons.1 ha with rfl | ha
    · exact List.lookup_cons_self
    · have hne : (a.1 == a'.1) = false := by
        simpa using fun h : a.1 = a'.1 => hc' (h ▸ List.mem_map_of_mem ha)
      rw [List.lookup_cons, hne]
      exact ih hrest ha

/-- Trusted attempts with distinct columns lose no time to the filter of a
row. -/
theorem lookup?_timingsOf {program : String} {attempts : Attempts}
    (hnd : (attempts.map Prod.fst).Nodup) (ht : Trusted attempts) (c : Column) :
    Row.lookup? program (timingsOf program attempts).samples c =
      (attempts.lookup c).bind Except.toOption := by
  rw [Row.lookup?, timingsOf_samples, find?_sampleOf hnd]
  cases hl : attempts.lookup c with
  | none => rfl
  | some result =>
    cases result with
    | error e => rfl
    | ok x => exact Option.filter_some_pos (ht (c, .ok x) (mem_of_lookup hl) x rfl)

/-- A row finds every sample of trusted attempts with distinct columns. -/
theorem lookup?_of_mem_samples {program : String} {attempts : Attempts}
    (hnd : (attempts.map Prod.fst).Nodup) (ht : Trusted attempts) {s : Sample}
    (hs : s ∈ (timingsOf program attempts).samples) :
    Row.lookup? program (timingsOf program attempts).samples s.column = some s.seconds := by
  rw [lookup?_timingsOf hnd ht]
  rw [timingsOf_samples] at hs
  obtain ⟨a, ha, hs⟩ := List.mem_filterMap.1 hs
  obtain ⟨x, hx, rfl⟩ := Option.map_eq_some_iff.1 hs
  rw [lookup_of_mem hnd ha]
  exact hx

/-! ### One program -/

/-- The targets of a program besides its native executable. -/
def variantTargets (b : Build) (variants : List Variant) : List (Column × Path) :=
  variants.filterMap fun v => (b.executable? (.variant v)).map fun a => (.variant v, a.path)

theorem variantTargets_ne_native (b : Build) (variants : List Variant) :
    ∀ t ∈ variantTargets b variants, t.1 ≠ .native := by
  intro t ht
  obtain ⟨v, -, ht⟩ := List.mem_filterMap.1 ht
  obtain ⟨a, -, rfl⟩ := Option.map_eq_some_iff.1 ht
  exact Column.noConfusion

theorem lookup_variantTargets (b : Build) {variants : List Variant} {v : Variant}
    (hv : v ∈ variants) :
    (variantTargets b variants).lookup (.variant v) =
      (b.executable? (.variant v)).map (·.path) := by
  induction variants with
  | nil => cases hv
  | cons u rest ih =>
    by_cases hu : v = u
    · subst hu
      cases hf : b.executable? (.variant v) with
      | some a =>
        rw [variantTargets, List.filterMap_cons_some (b := (.variant v, a.path)) (by rw [hf]; rfl),
          List.lookup_cons_self]
        rfl
      | none =>
        -- no target is on the column of `v`
        rw [List.lookup_eq_none_iff.2]
        · rfl
        intro t ht
        obtain ⟨u, hu, ht⟩ := List.mem_filterMap.1 ht
        obtain ⟨a, ha, rfl⟩ := Option.map_eq_some_iff.1 ht
        have : v ≠ u := by
          rintro rfl
          rw [hf] at ha
          cases ha
        simpa using this
    · have hrest : v ∈ rest := (List.mem_cons.1 hv).resolve_left hu
      cases hf : b.executable? (.variant u) with
      | some a =>
        have hne : (Column.variant v == Column.variant u) = false := by simpa using hu
        rw [variantTargets, List.filterMap_cons_some (b := (.variant u, a.path)) (by rw [hf]; rfl),
          List.lookup_cons, hne]
        exact ih hrest
      | none =>
        rw [variantTargets, List.filterMap_cons_none (by rw [hf]; rfl)]
        exact ih hrest

theorem nodup_columns_benchTargets (b : Build) {variants : List Variant} (hnd : variants.Nodup) :
    ((benchTargets b variants).map Prod.fst).Nodup := by
  unfold benchTargets
  split
  · exact List.nodup_nil
  · refine List.nodup_cons.2 ⟨?_, ?_⟩
    · intro hmem
      obtain ⟨t, ht, hc⟩ := List.mem_map.1 hmem
      exact variantTargets_ne_native b variants t ht hc
    · have hsub : ((variantTargets b variants).map Prod.fst).Sublist
          (variants.map Column.variant) := by
        clear hnd
        induction variants with
        | nil => exact List.Sublist.refl _
        | cons v rest ih =>
          cases h : b.executable? (.variant v) with
          | none => simpa [variantTargets, h] using ih.cons _
          | some a => simpa [variantTargets, h] using ih
      exact (hnd.map fun v v' h => Column.variant.inj h).sublist hsub

/-- The stage that makes the executable of a column. -/
def Column.stage : Column → Stage
  | native => .native
  | variant v => .variant v

/-- The executable of a column is what the stage of the column has made. -/
theorem Build.executable?_eq (b : Build) (c : Column) :
    b.executable? c = b.artifacts.find? fun a => a.stage == c.stage := by
  cases c <;> rfl

section
variable (tools : Tools) (p : Program) (b : Build) (variants : List Variant) (policy : Policy)

/-- The time of a column of a built program: what the measurement of its
executable gives when its turn comes, if it was built. -/
def columnTime? (w : World) (c : Column) : Option Float :=
  (b.artifacts.find? fun a => a.stage == c.stage).bind fun a =>
    (deed (measure tools a.path p.arguments b.dir policy)
      (turn tools p b.dir policy (benchTargets b variants) w c)).result.toOption

/-- The cell of a column, given the times of the columns. -/
def cellOf (time? : Column → Option Float) : Column → Option Float
  | .native => (time? .native).map fun _ => 1.0
  | .variant v => (time? .native).bind fun native => (time? (.variant v)).map (· / native)

/-- What is attempted of a built program. -/
def attemptsOf (w : World) : Attempts :=
  (benchDeed tools p b.dir policy (benchTargets b variants) w).result

variable {observe : Observer} in
theorem grounded_benchProgram (ho : observe.IsQuiet) :
    Grounded (benchProgram tools p b variants policy observe) :=
  (grounded_benchEach tools p b.dir policy ho [] _).within _ _

variable {observe : Observer} in
theorem deed_benchProgram (ho : observe.IsQuiet) (w : World) :
    deed (benchProgram tools p b variants policy observe) w =
      benchDeed tools p b.dir policy (benchTargets b variants) w :=
  (deed_within (grounded_benchEach tools p b.dir policy ho [] _) _ _ w).trans
    (deed_benchEach_eq tools p b.dir policy ho [] _ w)

theorem trusted_benchDeed (dir : Path) (targets : List (Column × Path)) (w : World) :
    Trusted (benchDeed tools p dir policy targets w).result := by
  induction targets generalizing w with
  | nil => exact fun a ha => absurd ha List.not_mem_nil
  | cons t rest ih =>
    obtain ⟨c, path⟩ := t
    have hhead : ∀ x, (deed (measure tools path p.arguments dir policy) w).result = .ok x →
        Binary64.isUsable x = true := fun x h => isUsable_of_measure tools dir policy h
    rw [benchDeed_cons]
    dsimp only
    split
    · rintro a ha x hx
      obtain rfl := List.mem_singleton.1 ha
      exact hhead x hx
    · rintro a ha x hx
      rcases List.mem_cons.1 ha with rfl | ha
      · exact hhead x hx
      · exact ih _ a ha x hx

theorem nodup_columns_attempts (hnd : variants.Nodup) (w : World) :
    ((attemptsOf tools p b variants policy w).map Prod.fst).Nodup :=
  (nodup_columns_benchTargets b hnd).sublist (columns_benchDeed_sublist ..)

theorem trusted_attempts (w : World) : Trusted (attemptsOf tools p b variants policy w) :=
  trusted_benchDeed tools p policy b.dir _ w

theorem benchTargets_of_built {a : Artifact} (hb : b.executable? .native = some a) :
    benchTargets b variants = (.native, a.path) :: variantTargets b variants := by
  rw [benchTargets, hb]
  rfl

theorem benchTargets_of_unbuilt (hb : b.executable? .native = none) :
    benchTargets b variants = [] := by
  rw [benchTargets, hb]

/-- The turn of the native executable comes first. -/
theorem turn_native {a : Artifact} (hb : b.executable? .native = some a) (w : World) :
    turn tools p b.dir policy (benchTargets b variants) w .native = w := by
  rw [turn, benchTargets_of_built b variants hb, List.takeWhile_cons_of_neg (by simp)]
  rfl

/-- Without a native time every cell is empty. -/
theorem cellOf_eq_none {time? : Column → Option Float} (hn : time? .native = none) (c : Column) :
    cellOf time? c = none := by
  cases c <;> simp [cellOf, hn]

/-- The native executable is measured first, if it was built. -/
theorem lookup_attempts_native (w : World) :
    ((attemptsOf tools p b variants policy w).lookup .native).bind Except.toOption =
      columnTime? tools p b variants policy w .native := by
  rw [attemptsOf, columnTime?, ← b.executable?_eq]
  cases hb : b.executable? .native with
  | none =>
    rw [benchTargets_of_unbuilt b variants hb]
    rfl
  | some a =>
    rw [turn_native tools p b variants policy hb, benchTargets_of_built b variants hb,
      benchDeed_cons]
    dsimp only
    split <;> rw [List.lookup_cons_self] <;> rfl

/-- A variant that was built is measured when its turn comes, if there is a
native time. -/
theorem lookup_attempts_variant {w : World} {native : Float}
    (hn : columnTime? tools p b variants policy w .native = some native) {v : Variant}
    (hv : v ∈ variants) :
    ((attemptsOf tools p b variants policy w).lookup (.variant v)).bind Except.toOption =
      columnTime? tools p b variants policy w (.variant v) := by
  rw [← lookup_attempts_native] at hn
  rw [attemptsOf] at hn ⊢
  rw [columnTime?, ← b.executable?_eq]
  cases hb : b.executable? .native with
  | none =>
    rw [benchTargets_of_unbuilt b variants hb] at hn
    cases hn
  | some a =>
    rw [benchTargets_of_built b variants hb] at hn ⊢
    -- since there is a native time, the program is not given up after its first target
    have hgo : endsBench .native
        (deed (measure tools a.path p.arguments b.dir policy) w).result = false := by
      rw [benchDeed_cons] at hn
      cases hr : (deed (measure tools a.path p.arguments b.dir policy) w).result with
      | ok x => rfl
      | error e =>
        simp [endsBench, hr, Except.toOption] at hn
    have hne : (Column.variant v == Column.native) = false := rfl
    rw [turn_cons tools p b.dir policy Column.noConfusion hgo, benchDeed_cons]
    simp only [hgo, Bool.false_eq_true, if_false]
    rw [List.lookup_cons, hne]
    simp only
    rw [lookup_benchDeed tools p b.dir policy (variantTargets_ne_native b variants),
      lookup_variantTargets b hv, Option.map_map, Option.bind_map]
    rfl

/-- The row of a program that was measured. -/
theorem row_of_attempts (hnd : variants.Nodup) (w : World) :
    Row.ofSamples p.name (.native :: variants.map .variant)
        (timingsOf p.name (attemptsOf tools p b variants policy w)).samples =
      ⟨p.name, (.native :: variants.map .variant).map
        (cellOf (columnTime? tools p b variants policy w))⟩ := by
  have hlookup := @lookup?_timingsOf p.name _
    (nodup_columns_attempts tools p b variants policy hnd w)
    (trusted_attempts tools p b variants policy w)
  have hnative := (hlookup .native).trans (lookup_attempts_native tools p b variants policy w)
  rw [Row.ofSamples, hnative]
  cases hn : columnTime? tools p b variants policy w .native with
  | none =>
    have hempty := cellOf_eq_none hn
    simp [Row.unmeasured, hempty, List.map_const', Function.comp_def, List.replicate_succ]
  | some native =>
    refine congrArg (Row.mk p.name) (List.map_congr_left fun c hc => ?_)
    cases c with
    | native => simp [cellOf, hn]
    | variant v =>
      have hv : v ∈ variants := by simpa using hc
      simp only [cellOf, hn, Option.bind_some]
      rw [hlookup, lookup_attempts_variant tools p b variants policy hn hv]

end

/-! ### The suite -/

theorem quiet_recordCells (program : String) (cells : List (Column × Option Float)) :
    Quiet (recordCells program cells) := by
  induction cells with
  | nil => exact quiet_pure
  | cons cell rest ih =>
    obtain ⟨- | v, - | ratio⟩ := cell
    · exact ih
    · exact ih
    · exact ih
    · exact (quiet_recordEvent _ _).bind ih

theorem grounded_addTimings (r : Report) (t : Timings) : Grounded (r.addTimings t) :=
  (quiet_recordCells _ _).grounded.bind fun _ => .pure _

theorem deed_addTimings (r : Report) (t : Timings) (w : World) :
    deed (r.addTimings t) w = .idle (r.add t) w :=
  deed_quiet_bind (f := fun _ => (pure (r.add t) : Action Report)) (quiet_recordCells _ _)
    (.pure _) w

namespace Cli

theorem quiet_announce : announce.IsQuiet := fun _ _ _ => quiet_notify _

section
variable (tools : Tools) (plan : Plan) (policy : Policy)

/-- What is done with the attempts on a program. -/
def reportNext (report : Report) (p : Program) (rest : List (Program × Build))
    (attempts : Attempts) : Action Report :=
  notify (programNotice (timingsOf p.name attempts)) >>= fun _ =>
    report.addTimings (timingsOf p.name attempts) >>= fun report =>
      benchAll tools plan policy report rest

theorem benchAll_cons (report : Report) (p : Program) (b : Build)
    (rest : List (Program × Build)) :
    benchAll tools plan policy report ((p, b) :: rest) =
      benchProgram tools p b plan.variants policy announce
        >>= reportNext tools plan policy report p rest := rfl

theorem grounded_benchAll (report : Report) (pairs : List (Program × Build)) :
    Grounded (benchAll tools plan policy report pairs) := by
  induction pairs generalizing report with
  | nil => exact .pure _
  | cons pair rest ih =>
    obtain ⟨p, b⟩ := pair
    rw [benchAll_cons]
    refine (grounded_benchProgram tools p b _ policy quiet_announce).bind fun attempts => ?_
    exact (quiet_notify _).grounded.bind fun _ => (grounded_addTimings _ _).bind ih

/-- Programs are measured one after the other, and each adds its row. -/
theorem deed_benchAll_cons (report : Report) (p : Program) (b : Build)
    (rest : List (Program × Build)) (w : World) :
    deed (benchAll tools plan policy report ((p, b) :: rest)) w =
      let d := deed (benchProgram tools p b plan.variants policy announce) w
      let d' := deed (benchAll tools plan policy (report.add (timingsOf p.name d.result)) rest)
        d.world
      ⟨d'.result, d'.world, d.started ++ d'.started⟩ := by
  have hrest := fun report => grounded_benchAll tools plan policy report rest
  have hadd : ∀ t, Grounded (report.addTimings t >>= fun report =>
      benchAll tools plan policy report rest) := fun t => (grounded_addTimings _ t).bind hrest
  have hnext : ∀ attempts, Grounded (reportNext tools plan policy report p rest attempts) :=
    fun attempts => (quiet_notify _).grounded.bind fun _ => hadd _
  rw [benchAll_cons, deed_bind hnext, Deed.andThen, reportNext,
    deed_quiet_bind (quiet_notify _) (hadd _), deed_bind hrest, deed_addTimings,
    Deed.idle_andThen]

/-- The machine on which the measuring of the program at a place begins: the
programs in front of it have been measured. -/
def benchWorld : List (Program × Build) → Nat → World → World
  | (p, b) :: rest, i + 1, w =>
    benchWorld rest i (deed (benchProgram tools p b plan.variants policy announce) w).world
  | _, _, w => w

/-- The row of a measured program. -/
def measuredRow (p : Program) (b : Build) (w : World) : Row :=
  ⟨p.name, plan.columns.map (cellOf (columnTime? tools p b plan.variants policy w))⟩

/-- Measuring adds one row for each program, in order. -/
theorem report_benchAll (hnd : plan.variants.Nodup) (pairs : List (Program × Build))
    (rows : List Row) (w : World) :
    (deed (benchAll tools plan policy ⟨plan.columns, rows⟩ pairs) w).result =
      ⟨plan.columns, rows ++ pairs.mapIdx fun i pair =>
        measuredRow tools plan policy pair.1 pair.2
          (benchWorld tools plan policy pairs i w)⟩ := by
  -- by induction on the programs, for any rows that are there already
  induction pairs generalizing rows w with
  | nil => simp [benchAll, deed_pure, Deed.idle]
  | cons pair rest ih =>
    obtain ⟨p, b⟩ := pair
    have hrow : Report.add ⟨plan.columns, rows⟩ (timingsOf p.name
          (deed (benchProgram tools p b plan.variants policy announce) w).result) =
        ⟨plan.columns, rows ++ [measuredRow tools plan policy p b w]⟩ := by
      rw [Report.add, timingsOf_program, deed_benchProgram tools p b _ policy quiet_announce]
      exact congrArg (fun row => Report.mk plan.columns (rows ++ [row]))
        (row_of_attempts tools p b plan.variants policy hnd w)
    rw [deed_benchAll_cons]
    simp only [hrow, ih, List.mapIdx_cons, List.append_assoc, List.singleton_append]
    rfl

/-- The rows of a report are those of the programs that were measured. -/
theorem programs_benchAll (hnd : plan.variants.Nodup) (pairs : List (Program × Build))
    (w : World) :
    (deed (benchAll tools plan policy ⟨plan.columns, []⟩ pairs) w).result.rows.map (·.program) =
      pairs.map fun pair => pair.1.name := by
  rw [report_benchAll tools plan policy hnd pairs [] w]
  refine List.ext_getElem? fun i => ?_
  simp [measuredRow, Function.comp_def]

end

/-! ### The command -/

/-- What is measured are the programs of the suite. -/
theorem names_zip {programs : List Program} {builds : List Build}
    (h : builds.map (·.program) = programs.map (·.name)) :
    ((programs.zip builds).map fun pair => pair.1.name) = programs.map (·.name) := by
  have hlength : programs.length ≤ builds.length := by
    have heq := congrArg List.length h
    rw [List.length_map, List.length_map] at heq
    exact Nat.le_of_eq heq.symm
  calc
    ((programs.zip builds).map fun pair => pair.1.name)
      = ((programs.zip builds).map Prod.fst).map (·.name) := by rw [List.map_map]; rfl
    _ = programs.map (·.name) := by rw [List.map_fst_zip hlength]

/-- A run that is not compile-only measures what was built and publishes the
report. -/
theorem benchBuilt_eq (tools : Tools) (bench : BenchOptions) {setup : Setup}
    (hfull : setup.pipeline.plan.isCompileOnly = false) (builds : List Build) :
    benchBuilt tools bench setup builds =
      reportOf tools setup builds bench >>= publish tools setup bench := by
  rw [benchBuilt]
  simp only [hfull, Bool.false_eq_true, if_false]
  rfl

end Cli

end GuardCost
