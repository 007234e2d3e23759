/-
GuardCost/Proofs/Spellings.lean

How absolute paths are spelled.  Of a path only three things are left in its
absolute form: whether it starts with exactly two slashes, the steps that it
takes, and whether it ends with a slash.  The absolute form spells them anew
(`absolute_eq`), a relative path behind the steps of the current directory:

    absolute p  =  spelled (double root?) (current steps ++ steps) (final slash?)

What is spelled so is read back as it was, so that it is its own absolute form
(`absolute_spelled`); and a child of a path has one more step and no final slash
in either form, so that children and absolute forms can be taken in any order
(`absolute_join`).
-/
import GuardCost.Proofs.Unprepared

namespace GuardCost

/-! ### Steps -/

theorem notMem_of_mem_partsAt {α : Type} [DecidableEq α] {sep : α} {xs part : List α}
    (h : part ∈ partsAt sep xs) : sep ∉ part := by
  induction xs generalizing part with
  | nil =>
    rw [partsAt, List.mem_singleton] at h
    rw [h]
    exact List.not_mem_nil
  | cons x rest ih =>
    obtain ⟨first, more, hp⟩ := List.exists_cons_of_ne_nil (partsAt_ne_nil sep rest)
    rw [hp] at ih
    simp only [partsAt, hp] at h
    split at h
    · rcases List.mem_cons.1 h with rfl | h
      · exact List.not_mem_nil
      · exact ih h
    · next hx =>
      rcases List.mem_cons.1 h with rfl | h
      · exact List.not_mem_cons_of_ne_of_not_mem (Ne.symm hx) (ih List.mem_cons_self)
      · exact ih (List.mem_cons_of_mem _ h)

/-- A part of a path that counts; it can be two dots. -/
structure IsStep (part : Bytes) : Prop where
  ne_nil : part ≠ []
  ne_dot : part ≠ [Bytes.dot]
  no_slash : Bytes.slash ∉ part

theorem IsSegment.isStep {part : Bytes} (h : IsSegment part) : IsStep part :=
  ⟨h.ne_nil, h.ne_dot, h.no_slash⟩

theorem IsStep.isAbsolute {part : Bytes} (h : IsStep part) : Path.isAbsolute ⟨part⟩ = false := by
  obtain ⟨b, rest, rfl⟩ := List.exists_cons_of_ne_nil h.ne_nil
  have hb : b ≠ Bytes.slash := fun hb => h.no_slash (hb ▸ List.mem_cons_self)
  simpa [Path.isAbsolute] using hb

theorem IsStep.endsWithSlash {part : Bytes} (h : IsStep part) :
    Path.endsWithSlash ⟨part⟩ = false := by
  have hlast : part.getLast? ≠ some Bytes.slash := by
    intro hlast
    exact h.no_slash (List.mem_of_getLast? hlast)
  simpa [Path.endsWithSlash] using hlast

namespace Path

/-- The parts of a path that count. -/
def steps (p : Path) : List Bytes := p.parts.filter fun part => part ≠ [] ∧ part ≠ [Bytes.dot]

theorem isStep_of_mem_steps {p : Path} {part : Bytes} (h : part ∈ p.steps) : IsStep part := by
  obtain ⟨hpart, hcounts⟩ := List.mem_filter.1 h
  simp only [decide_eq_true_eq] at hcounts
  exact ⟨hcounts.1, hcounts.2, notMem_of_mem_partsAt hpart⟩

theorem steps_of_isStep {part : Bytes} (h : IsStep part) : steps ⟨part⟩ = [part] := by
  rw [steps, parts, partsAt_of_notMem h.no_slash]
  simp [h.ne_nil, h.ne_dot]

/-- A slash parts the steps before it from those behind it. -/
theorem steps_append_slash (xs ys : Bytes) :
    steps ⟨xs ++ Bytes.slash :: ys⟩ = steps ⟨xs⟩ ++ steps ⟨ys⟩ := by
  rw [steps, parts, partsAt_append, List.filter_append]
  rfl

theorem bytes_ofPart? (part : Bytes) : (Component.ofPart? part).map Component.bytes =
    if part ≠ [] ∧ part ≠ [Bytes.dot] then some part else none := by
  unfold Component.ofPart?
  by_cases hnone : part = [] ∨ part = [Bytes.dot]
  · have hnot : ¬ (part ≠ [] ∧ part ≠ [Bytes.dot]) := by tauto
    rw [if_pos hnone, if_neg hnot]
    rfl
  · rw [if_neg hnone, if_pos (not_or.1 hnone)]
    split
    · next hdots =>
      rw [hdots]
      rfl
    · rfl

/-- The components of a path spell its steps. -/
theorem map_bytes_componentsPastDot (p : Path) : p.componentsPastDot.map Component.bytes =
    (if p.isAbsolute then [[Bytes.slash]] else []) ++ p.steps := by
  have hsteps : (p.parts.filterMap Component.ofPart?).map Component.bytes = p.steps := by
    rw [List.map_filterMap, steps, ← List.filterMap_eq_filter]
    refine List.filterMap_congr fun part _ => ?_
    rw [bytes_ofPart?]
    simp [Option.guard]
  -- a dot is never a component but at the start
  have hnodot : ∀ rest, p.parts.filterMap Component.ofPart? ≠ .current :: rest := by
    intro rest h
    obtain ⟨part, -, hpart⟩ := List.mem_filterMap.1 (h ▸ List.mem_cons_self)
    unfold Component.ofPart? at hpart
    split_ifs at hpart
    all_goals cases hpart
  unfold componentsPastDot components
  dsimp only
  split_ifs with habs hdot
  · exact congrArg ([Bytes.slash] :: ·) hsteps
  · exact hsteps
  · rw [List.nil_append, ← hsteps]
    split
    · next rest h => exact absurd h (hnodot _)
    · rfl

theorem endsWithSlash_append (xs : Bytes) {ys : Bytes} (h : ys ≠ []) :
    endsWithSlash ⟨xs ++ ys⟩ = endsWithSlash ⟨ys⟩ := by
  rw [endsWithSlash, endsWithSlash, List.getLast?_append_of_ne_nil _ h]

/-- A path that a step is joined to is not empty and does not end with a slash. -/
theorem join_isStep_ne_nil (p : Path) {part : Bytes} (h : IsStep part) :
    (p.join ⟨part⟩).bytes ≠ [] := by
  intro hnil
  have hlast := getLast?_join p h.isAbsolute h.ne_nil
  rw [hnil] at hlast
  exact h.ne_nil (List.getLast?_eq_none_iff.1 hlast.symm)

theorem endsWithSlash_join_isStep (p : Path) {part : Bytes} (h : IsStep part) :
    (p.join ⟨part⟩).endsWithSlash = false := by
  have hpart := h.endsWithSlash
  unfold endsWithSlash at hpart ⊢
  rw [getLast?_join p h.isAbsolute h.ne_nil, hpart]

/-! ### Spelling -/

/-- Steps with a slash before each, behind a slash if the root is a double one. -/
def stem (double : Bool) (steps : List Bytes) : Bytes :=
  (if double then [Bytes.slash] else []) ++ steps.flatMap fun step => Bytes.slash :: step

/-- The absolute path with some steps, which starts with one slash or with two,
and may end with one more. -/
def spelled (double : Bool) (steps : List Bytes) (slash : Bool) : Path :=
  ⟨stem double steps ++ if slash ∨ steps = [] then [Bytes.slash] else []⟩

variable {double slash : Bool} {steps more : List Bytes} {part : Bytes}

theorem stem_snoc (double : Bool) (steps : List Bytes) (part : Bytes) :
    stem double (steps ++ [part]) = stem double steps ++ Bytes.slash :: part := by
  simp [stem]

/-- Without steps the root is also the final slash. -/
theorem spelled_closed (h : slash ∨ steps = []) :
    spelled double steps slash = ⟨stem double steps ++ [Bytes.slash]⟩ := by
  rw [spelled, if_pos h]

theorem spelled_open (h : steps ≠ []) : spelled double steps false = ⟨stem double steps⟩ := by
  rw [spelled, if_neg (by simp [h]), List.append_nil]

theorem spelled_ne_nil : (spelled double steps slash).bytes ≠ [] := by
  cases steps <;> simp [spelled, stem]

theorem endsWithSlash_spelled (double slash : Bool) (hsteps : ∀ step ∈ steps, IsStep step) :
    (spelled double steps slash).endsWithSlash = decide (slash ∨ steps = []) := by
  by_cases h : slash ∨ steps = []
  · rw [spelled_closed h, endsWithSlash_append _ (by simp), decide_eq_true h]
    rfl
  · obtain ⟨hslash, hne⟩ := not_or.1 h
    rw [Bool.not_eq_true] at hslash
    subst hslash
    obtain ⟨init, last, rfl⟩ : ∃ init last, steps = init ++ [last] :=
      ⟨_, _, (List.dropLast_append_getLast hne).symm⟩
    have hlast := hsteps last (by simp)
    rw [decide_eq_false h, spelled_open hne, stem_snoc, List.append_cons,
      endsWithSlash_append _ hlast.ne_nil, hlast.endsWithSlash]

/-- Whatever is joined comes behind one slash. -/
theorem join_spelled (hsteps : ∀ step ∈ steps, IsStep step) {q : Path}
    (hq : q.isAbsolute = false) :
    (spelled double steps slash).join q = ⟨stem double steps ++ Bytes.slash :: q.bytes⟩ := by
  have hends := endsWithSlash_spelled double slash hsteps
  rw [join, hq]
  simp only [Bool.false_eq_true, if_false]
  by_cases h : slash ∨ steps = []
  · rw [decide_eq_true h] at hends
    rw [if_pos (.inr hends), spelled_closed h, List.append_assoc]
    rfl
  · rw [decide_eq_false h] at hends
    rw [if_neg (by simp [spelled_ne_nil, hends])]
    obtain ⟨hslash, hne⟩ := not_or.1 h
    rw [Bool.not_eq_true] at hslash
    rw [hslash, spelled_open hne]

theorem join_spelled_step (hsteps : ∀ step ∈ steps, IsStep step) (hpart : IsStep part) :
    (spelled double steps slash).join ⟨part⟩ = spelled double (steps ++ [part]) false := by
  rw [join_spelled hsteps hpart.isAbsolute, spelled_open (by simp), stem_snoc]

theorem join_spelled_empty (hsteps : ∀ step ∈ steps, IsStep step) :
    (spelled double steps slash).join ⟨[]⟩ = spelled double steps true := by
  rw [join_spelled hsteps rfl, spelled_closed (.inl rfl)]

/-- **Steps that a path is extended by are spelled behind its own.** -/
theorem extend_spelled (hsteps : ∀ step ∈ steps, IsStep step) (hmore : ∀ step ∈ more, IsStep step)
    {components : List Component} (h : components.map Component.bytes = more) :
    (spelled double steps false).extend components = spelled double (steps ++ more) false := by
  induction more generalizing steps components with
  | nil =>
    rw [List.map_eq_nil_iff.1 h, List.append_nil]
    rfl
  | cons step rest ih =>
    obtain ⟨c, cs, rfl, rfl, hcs⟩ := List.map_eq_cons_iff.1 h
    have hstep := hmore _ List.mem_cons_self
    have hall : ∀ step ∈ steps ++ [c.bytes], IsStep step := by
      intro step hmem
      rcases List.mem_append.1 hmem with hmem | hmem
      · exact hsteps step hmem
      · exact List.mem_singleton.1 hmem ▸ hstep
    have hnext := ih hall (fun step hmem => hmore step (List.mem_cons_of_mem _ hmem)) hcs
    rw [List.append_cons, ← hnext, ← join_spelled_step hsteps hstep]
    rfl

/-! ### Reading what is spelled -/

theorem steps_stem (hsteps : ∀ step ∈ steps, IsStep step) :
    Path.steps ⟨stem double steps⟩ = steps := by
  induction steps using List.reverseRecOn with
  | nil => cases double <;> decide
  | append_singleton init last ih =>
    have hlast := hsteps last (by simp)
    rw [stem_snoc, steps_append_slash, steps_of_isStep hlast,
      ih fun step hmem => hsteps step (List.mem_append_left _ hmem)]

theorem steps_spelled (hsteps : ∀ step ∈ steps, IsStep step) :
    (spelled double steps slash).steps = steps := by
  by_cases h : slash ∨ steps = []
  · rw [spelled_closed h, steps_append_slash, steps_stem hsteps]
    exact List.append_nil _
  · obtain ⟨hslash, hne⟩ := not_or.1 h
    rw [Bool.not_eq_true] at hslash
    rw [hslash, spelled_open hne, steps_stem hsteps]

/-- The first slash of what is spelled, and what follows it. -/
theorem bytes_spelled (double slash : Bool) (hsteps : ∀ step ∈ steps, IsStep step) :
    ∃ rest : Bytes, rest.head? ≠ some Bytes.slash ∧
      (spelled double steps slash).bytes =
        (if double then [Bytes.slash] else []) ++ Bytes.slash :: rest := by
  cases steps with
  | nil => exact ⟨[], by simp, by simp [spelled, stem]⟩
  | cons step more =>
    have hstep := (hsteps step List.mem_cons_self).isAbsolute
    obtain ⟨b, bs, hb⟩ := List.exists_cons_of_ne_nil (hsteps step List.mem_cons_self).ne_nil
    refine ⟨step ++ more.flatMap (fun step => Bytes.slash :: step) ++
      (if slash then [Bytes.slash] else []), ?_, by simp [spelled, stem]⟩
    subst hb
    simpa [isAbsolute] using hstep

theorem isAbsolute_spelled (double : Bool) (steps : List Bytes) (slash : Bool) :
    (spelled double steps slash).isAbsolute = true := by
  cases double <;> cases steps <;> simp [isAbsolute, spelled, stem]

theorem hasDoubleRoot_spelled (hsteps : ∀ step ∈ steps, IsStep step) :
    (spelled double steps slash).hasDoubleRoot = double := by
  obtain ⟨rest, hrest, hbytes⟩ := bytes_spelled double slash hsteps
  rw [hasDoubleRoot, hbytes]
  cases rest with
  | nil => cases double <;> decide
  | cons b bs =>
    have hb : Bytes.slash ≠ b := by simpa [eq_comm] using hrest
    cases double <;> simp [Bytes.startsWith, List.isPrefixOf, hb]

/-! ### Absolute forms -/

theorem isAbsolute_of_hasDoubleRoot {p : Path} (h : p.hasDoubleRoot = true) :
    p.isAbsolute = true := by
  unfold hasDoubleRoot Bytes.startsWith at h
  unfold isAbsolute
  obtain ⟨- | ⟨b, bs⟩⟩ := p
  · simp at h
  · simp only [List.isPrefixOf_cons_cons, Bool.and_eq_true, beq_iff_eq] at h
    simp [h.1.1]

/-- The absolute form of a path, but for a final slash. -/
def whole (p here : Path) : Path :=
  if p.isAbsolute then
    if p.hasDoubleRoot then (⟨[Bytes.slash, Bytes.slash]⟩ : Path).extend p.componentsPastDot.tail
    else (⟨[]⟩ : Path).extend p.componentsPastDot
  else here.extend p.componentsPastDot

theorem absolute_of_ne {p : Path} (h : p.bytes ≠ []) (here : Path) : p.absolute (.ok here) =
    .ok (if p.endsWithSlash then (p.whole here).join ⟨[]⟩ else p.whole here) := by
  unfold absolute whole
  rw [if_neg h]
  cases p.isAbsolute <;> rfl

/-- The absolute form of an absolute path does not depend on where it is made. -/
theorem absolute_of_isAbsolute {p : Path} (hp : p.isAbsolute = true)
    (current current' : Except SystemError Path) : p.absolute current = p.absolute current' := by
  rw [absolute, absolute, hp]
  rfl

/-- The empty path has no absolute form. -/
theorem ne_nil_of_absolute {p q : Path} {current : Except SystemError Path}
    (h : p.absolute current = .ok q) : p.bytes ≠ [] := by
  intro hempty
  rw [absolute, if_pos hempty] at h
  cases h

/-- The steps of a path, those of a relative one behind the steps of the current
directory. -/
def allSteps (p : Path) (here : List Bytes) : List Bytes :=
  if p.isAbsolute then p.steps else here ++ p.steps

theorem isStep_of_mem_allSteps {p : Path} {here : List Bytes}
    (hhere : ∀ step ∈ here, IsStep step) : ∀ step ∈ p.allSteps here, IsStep step := by
  intro step hmem
  unfold allSteps at hmem
  split at hmem
  · exact isStep_of_mem_steps hmem
  · exact (List.mem_append.1 hmem).elim (hhere step) isStep_of_mem_steps

theorem whole_eq (p : Path) {here : List Bytes} (hhere : ∀ step ∈ here, IsStep step) :
    p.whole (spelled false here false) =
      spelled p.hasDoubleRoot (p.allSteps here) false := by
  have hcomponents := map_bytes_componentsPastDot p
  have hsteps : ∀ step ∈ p.steps, IsStep step := fun _ => isStep_of_mem_steps
  have hnil : ∀ step ∈ ([] : List Bytes), IsStep step := by simp
  unfold whole allSteps
  by_cases habs : p.isAbsolute = true
  · rw [if_pos habs, if_pos habs]
    rw [if_pos habs] at hcomponents
    obtain ⟨c, cs, hcons, hroot, hcs⟩ := List.map_eq_cons_iff.1 hcomponents
    rw [hcons]
    have hspelled : ∀ double, (spelled double [] false).extend cs = spelled double p.steps false :=
      fun _ => extend_spelled hnil hsteps hcs
    cases p.hasDoubleRoot with
    | true => exact hspelled true
    | false =>
      -- the root takes the place of the empty path
      have hfirst : (⟨[]⟩ : Path).extend (c :: cs) = (spelled false [] false).extend cs := by
        show ((⟨[]⟩ : Path).join ⟨c.bytes⟩).extend cs = _
        rw [hroot]
        rfl
      exact hfirst.trans (hspelled false)
  · have hdouble : p.hasDoubleRoot = false := by
      by_contra h
      exact habs (isAbsolute_of_hasDoubleRoot (by simpa using h))
    rw [if_neg habs, if_neg habs, hdouble]
    rw [if_neg habs, List.nil_append] at hcomponents
    exact extend_spelled hhere hsteps hcomponents

/-- **The absolute form of a path spells the root and the steps of the path, those
of a relative one behind the steps of the current directory.** -/
theorem absolute_eq {p : Path} (hp : p.bytes ≠ []) {here : List Bytes}
    (hhere : ∀ step ∈ here, IsStep step) :
    p.absolute (.ok (spelled false here false)) = .ok
      (spelled p.hasDoubleRoot (p.allSteps here) p.endsWithSlash) := by
  rw [absolute_of_ne hp, whole_eq p hhere, join_spelled_empty (isStep_of_mem_allSteps hhere)]
  cases p.endsWithSlash <;> rfl

variable {here : List Bytes}

/-- **What is spelled is its own absolute form.** -/
theorem absolute_spelled (hhere : ∀ step ∈ here, IsStep step)
    (hsteps : ∀ step ∈ steps, IsStep step) :
    (spelled double steps slash).absolute (.ok (spelled false here false)) =
      .ok (spelled double steps slash) := by
  rw [absolute_eq spelled_ne_nil hhere, allSteps, isAbsolute_spelled, if_pos rfl,
    hasDoubleRoot_spelled hsteps, steps_spelled hsteps, endsWithSlash_spelled _ _ hsteps]
  simp [spelled]

/-! ### Children -/

theorem steps_join_segment (p : Path) (hpart : IsSegment part) :
    (p.join ⟨part⟩).steps = p.steps ++ [part] := by
  obtain ⟨front, hfront, hjoin⟩ := parts_join_segment p hpart
  have hp : p.steps = front.filter fun part => part ≠ [] ∧ part ≠ [Bytes.dot] := by
    rw [Path.steps]
    rcases hfront with h | h <;> simp [h]
  rw [hp, Path.steps, hjoin, List.filter_append]
  simp [hpart.ne_nil, hpart.ne_dot]

theorem allSteps_join_segment (p : Path) (here : List Bytes) (hpart : IsSegment part) :
    (p.join ⟨part⟩).allSteps here = p.allSteps here ++ [part] := by
  unfold allSteps
  rw [isAbsolute_join p hpart.isStep.isAbsolute, steps_join_segment p hpart]
  split
  · rfl
  · rw [List.append_assoc]

theorem hasDoubleRoot_iff {p : Path} : p.hasDoubleRoot = true ↔
    ∃ rest, p.bytes = Bytes.slash :: Bytes.slash :: rest ∧ rest.head? ≠ some Bytes.slash := by
  simp only [hasDoubleRoot, Bytes.startsWith, Bool.and_eq_true, Bool.not_eq_true',
    ← Bool.not_eq_true, List.isPrefixOf_iff_prefix]
  constructor
  · rintro ⟨⟨rest, hrest⟩, hthree⟩
    refine ⟨rest, hrest.symm, fun hhead => hthree ?_⟩
    obtain ⟨tail, rfl⟩ := List.head?_eq_some_iff.1 hhead
    exact ⟨tail, hrest⟩
  · rintro ⟨rest, hrest, hhead⟩
    refine ⟨⟨rest, hrest.symm⟩, ?_⟩
    rintro ⟨tail, htail⟩
    rw [hrest] at htail
    have htail : rest = Bytes.slash :: tail := by simpa using htail.symm
    rw [htail] at hhead
    exact hhead rfl

/-- A root is a double one before and after something is joined. -/
theorem hasDoubleRoot_join {p : Path} (hp : p.bytes ≠ []) (hpart : IsStep part) :
    (p.join ⟨part⟩).hasDoubleRoot = p.hasDoubleRoot := by
  have hhead : part.head? ≠ some Bytes.slash := by
    simpa [isAbsolute] using hpart.isAbsolute
  have hbytes := bytes_join p hpart.isAbsolute
  obtain ⟨bytes⟩ := p
  rw [Bool.eq_iff_iff, hasDoubleRoot_iff, hasDoubleRoot_iff, hbytes]
  rcases bytes with - | ⟨a, - | ⟨b, tail⟩⟩
  · exact absurd rfl hp
  · refine iff_of_false ?_ (by simp)
    rintro ⟨rest, heq, -⟩
    split at heq
    · have hpart : part = Bytes.slash :: rest := (List.cons.inj heq).2
      rw [hpart] at hhead
      exact hhead rfl
    · next hends =>
      have ha : a = Bytes.slash := (List.cons.inj heq).1
      simp [endsWithSlash, ha] at hends
  · -- what comes third is another slash before if and only if it is after
    obtain ⟨rest, hrest, hthird⟩ : ∃ rest, (if (a :: b :: tail) = [] ∨
          (⟨a :: b :: tail⟩ : Path).endsWithSlash then (a :: b :: tail) ++ part
          else (a :: b :: tail) ++ Bytes.slash :: part) = a :: b :: (tail ++ rest) ∧
        (b = Bytes.slash →
          ((tail ++ rest).head? = some Bytes.slash ↔ tail.head? = some Bytes.slash)) := by
      cases tail with
      | cons c cs => split <;> exact ⟨_, rfl, fun _ => Iff.rfl⟩
      | nil =>
        split
        · exact ⟨part, rfl, fun _ => by simpa using hhead⟩
        · next hends =>
          refine ⟨Bytes.slash :: part, rfl, fun hb => absurd ?_ hends⟩
          exact .inr (by simp [endsWithSlash, hb])
    rw [hrest]
    constructor
    · rintro ⟨rest', heq, hrest'⟩
      simp only [List.cons.injEq] at heq
      obtain ⟨rfl, rfl, rfl⟩ := heq
      exact ⟨tail, rfl, mt (hthird rfl).2 hrest'⟩
    · rintro ⟨rest', heq, hrest'⟩
      simp only [List.cons.injEq] at heq
      obtain ⟨rfl, rfl, rfl⟩ := heq
      exact ⟨_, rfl, mt (hthird rfl).1 hrest'⟩

/-- **The absolute form of a child is the child of the absolute form.** -/
theorem absolute_join {p q : Path} (hhere : ∀ step ∈ here, IsStep step) (hpart : IsSegment part)
    (h : p.absolute (.ok (spelled false here false)) = .ok q) :
    (p.join ⟨part⟩).absolute (.ok (spelled false here false)) = .ok (q.join ⟨part⟩) := by
  have hp := ne_nil_of_absolute h
  have hstep := hpart.isStep
  have hjoin := join_isStep_ne_nil p hstep
  rw [absolute_eq hp hhere] at h
  cases h
  rw [absolute_eq hjoin hhere, hasDoubleRoot_join hp hstep, allSteps_join_segment p here hpart,
    endsWithSlash_join_isStep p hstep, join_spelled_step (isStep_of_mem_allSteps hhere) hstep]

end Path

end GuardCost
