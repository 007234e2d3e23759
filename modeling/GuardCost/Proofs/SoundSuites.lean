/-
GuardCost/Proofs/SoundSuites.lean

What a suite can hold.  A program is *sound* if its name is the name of a
directory and it has a stack, and a suite is sound if all of its programs are and
no two share a name.  Checking a list of programs accepts exactly the sound
suites (`ofPrograms_eq_ok_iff`), and otherwise it reports the first program that
breaks a sound suite off (`ofPrograms_eq_error_iff`):

    programs = before ++ p :: after,   before is sound,   p offends

where a program offends by what is wrong with itself, and only if nothing is by
the name of a program before it.

The standard suite and the narrowing of a suite do not go through the check, but
whatever is made with them is sound all the same (`Made.sound`).  So a name
finds the one program that has it, and the directories of the programs are
different children of one directory.
-/
import GuardCost.Cli.Setup
import GuardCost.Proofs.Names
import Mathlib.Data.List.Nodup

namespace GuardCost

/-! ### Sound programs -/

namespace Program

/-- Every character of the name is blank. -/
def HasBlankName (p : Program) : Prop := ∀ c ∈ p.name.toList, Text.isBlank c = true

/-- The name is one segment of a path. -/
structure HasSegment (p : Program) : Prop where
  ne_dot : p.name ≠ "."
  ne_dots : p.name ≠ ".."
  no_slash : '/' ∉ p.name.toList
  no_backslash : '\\' ∉ p.name.toList

/-- A program that a suite can hold. -/
structure Sound (p : Program) : Prop where
  not_blank : ¬ p.HasBlankName
  segment : p.HasSegment
  stack_pos : 0 < p.stackSize

/-- What is wrong with a program by itself: the first of three things. -/
inductive HasFault (p : Program) : ProgramFault → Prop
  | blankName : p.HasBlankName → HasFault p .blankName
  | notOneSegment : ¬ p.HasBlankName → ¬ p.HasSegment → HasFault p .notOneSegment
  | noStack : ¬ p.HasBlankName → p.HasSegment → p.stackSize = 0 → HasFault p .noStack

variable {p : Program}

theorem isBlankText_iff : Text.isBlankText p.name = true ↔ p.HasBlankName := List.all_eq_true

theorem isSegment_iff : isSegment p.name = true ↔ p.HasSegment := by
  have hany : (p.name.toList.any fun c => c == '/' || c == '\\') = false ↔
      '/' ∉ p.name.toList ∧ '\\' ∉ p.name.toList := by
    rw [List.any_eq_false]
    constructor
    · intro h
      exact ⟨fun hc => h _ hc rfl, fun hc => h _ hc rfl⟩
    · rintro ⟨hslash, hback⟩ c hc hbad
      rcases Bool.or_eq_true_iff.1 hbad with h | h <;> rw [beq_iff_eq] at h <;> subst h
      · exact hslash hc
      · exact hback hc
  rw [isSegment, Bool.not_eq_true', Bool.or_eq_false_iff, Bool.or_eq_false_iff, hany,
    beq_eq_false_iff_ne, beq_eq_false_iff_ne]
  constructor
  · rintro ⟨⟨hdot, hdots⟩, hslash, hback⟩
    exact ⟨hdot, hdots, hslash, hback⟩
  · intro h
    exact ⟨⟨h.ne_dot, h.ne_dots⟩, h.no_slash, h.no_backslash⟩

theorem fault?_eq_some_iff {fault : ProgramFault} : p.fault? = some fault ↔ p.HasFault fault := by
  rw [fault?]
  constructor
  · intro h
    split_ifs at h with hblank hseg hstack <;> cases h
    · exact .blankName (isBlankText_iff.1 hblank)
    · refine .notOneSegment (mt isBlankText_iff.2 hblank) fun hs => ?_
      simp [isSegment_iff.2 hs] at hseg
    · refine .noStack (mt isBlankText_iff.2 hblank) (isSegment_iff.1 (by simpa using hseg)) ?_
      simpa using hstack
  · intro h
    cases h with
    | blankName hblank => rw [if_pos (isBlankText_iff.2 hblank)]
    | notOneSegment hblank hseg =>
      have hno : isSegment p.name = false := by simpa using mt isSegment_iff.1 hseg
      rw [if_neg (mt isBlankText_iff.1 hblank), hno]
      rfl
    | noStack hblank hseg hstack =>
      rw [if_neg (mt isBlankText_iff.1 hblank), isSegment_iff.2 hseg, hstack]
      rfl

/-- A program is sound if nothing is wrong with it. -/
theorem fault?_eq_none_iff : p.fault? = none ↔ p.Sound := by
  constructor
  · intro h
    have hno : ∀ fault, ¬ p.HasFault fault := by
      intro fault hfault
      rw [fault?_eq_some_iff.2 hfault] at h
      cases h
    have hblank : ¬ p.HasBlankName := fun hb => hno _ (.blankName hb)
    have hseg : p.HasSegment := by
      by_contra hs
      exact hno _ (.notOneSegment hblank hs)
    refine ⟨hblank, hseg, UInt32.pos_iff_ne_zero.2 fun hz => ?_⟩
    exact hno _ (.noStack hblank hseg hz)
  · intro h
    cases hfault : p.fault? with
    | none => rfl
    | some fault =>
      exfalso
      cases fault?_eq_some_iff.1 hfault with
      | blankName hblank => exact h.not_blank hblank
      | notOneSegment _ hseg => exact hseg h.segment
      | noStack _ _ hstack => exact (UInt32.pos_iff_ne_zero.1 h.stack_pos) hstack

/-- How a program offends that follows programs with some names: by what is
wrong with itself, or else by a name that is taken. -/
inductive Offends (taken : List String) (p : Program) : ConfigError → Prop
  | invalid {fault : ProgramFault} : p.HasFault fault →
      Offends taken p (.invalidProgram p.name fault)
  | duplicate : p.Sound → p.name ∈ taken → Offends taken p (.duplicateProgram p.name)

theorem HasFault.not_sound {fault : ProgramFault} (h : p.HasFault fault) : ¬ p.Sound := by
  intro hsound
  rw [← fault?_eq_some_iff, fault?_eq_none_iff.2 hsound] at h
  cases h

theorem Offends.not_sound {taken : List String} {e : ConfigError} (h : p.Offends taken e)
    (hsound : p.Sound) (hnew : p.name ∉ taken) : False := by
  cases h with
  | invalid hfault => exact hfault.not_sound hsound
  | duplicate _ htaken => exact hnew htaken

/-- A program that does not offend is sound and has a new name. -/
theorem offends_or_sound (taken : List String) (p : Program) :
    (∃ e, p.Offends taken e) ∨ (p.Sound ∧ p.name ∉ taken) := by
  cases hfault : p.fault? with
  | some fault => exact .inl ⟨_, .invalid (fault?_eq_some_iff.1 hfault)⟩
  | none =>
    have hsound : p.Sound := fault?_eq_none_iff.1 hfault
    by_cases htaken : p.name ∈ taken
    · exact .inl ⟨_, .duplicate hsound htaken⟩
    · exact .inr ⟨hsound, htaken⟩

theorem offends_reverse {taken : List String} {e : ConfigError} :
    p.Offends taken.reverse e ↔ p.Offends taken e := by
  constructor <;> intro h
  all_goals
    cases h with
    | invalid hfault => exact .invalid hfault
    | duplicate hsound htaken => exact .duplicate hsound (by simpa using htaken)

end Program

/-! ### Checking -/

namespace Registry

/-- A suite in which every program is sound and has a name of its own. -/
structure Sound (r : Registry) : Prop where
  programs : ∀ p ∈ r.programs, p.Sound
  names : r.names.Nodup

variable {seen : List String} {p : Program} {rest : List Program} {e : ConfigError}

/-- The check ends at a program that offends. -/
theorem firstFault?_of_offends (h : p.Offends seen e) : firstFault? seen (p :: rest) = some e := by
  rw [firstFault?]
  cases h with
  | invalid hfault => rw [Program.fault?_eq_some_iff.2 hfault]
  | duplicate hsound htaken =>
    rw [Program.fault?_eq_none_iff.2 hsound]
    exact if_pos htaken

/-- The check goes on past a sound program with a new name. -/
theorem firstFault?_of_sound (hsound : p.Sound) (hnew : p.name ∉ seen) :
    firstFault? seen (p :: rest) = firstFault? (p.name :: seen) rest := by
  rw [firstFault?, Program.fault?_eq_none_iff.2 hsound]
  exact if_neg hnew

theorem firstFault?_eq_none_iff {programs : List Program} :
    firstFault? seen programs = none ↔
      (∀ p ∈ programs, p.Sound ∧ p.name ∉ seen) ∧ (programs.map (·.name)).Nodup := by
  induction programs generalizing seen with
  | nil => simp [firstFault?]
  | cons p rest ih =>
    rw [List.map_cons, List.nodup_cons, List.forall_mem_cons]
    rcases p.offends_or_sound seen with ⟨e, hoffends⟩ | ⟨hsound, hnew⟩
    · rw [firstFault?_of_offends hoffends]
      refine iff_of_false (Option.some_ne_none e) ?_
      rintro ⟨⟨⟨hsound, hnew⟩, -⟩, -⟩
      exact hoffends.not_sound hsound hnew
    · rw [firstFault?_of_sound hsound hnew, ih]
      -- that the rest avoids the name of `p` is part of `seen` here and of `Nodup` there
      constructor
      · rintro ⟨hall, hnd⟩
        refine ⟨⟨⟨hsound, hnew⟩, fun q hq => ?_⟩, fun hmem => ?_, hnd⟩
        · exact ⟨(hall q hq).1, fun hs => (hall q hq).2 (List.mem_cons_of_mem _ hs)⟩
        · obtain ⟨q, hq, hname⟩ := List.mem_map.1 hmem
          exact (hall q hq).2 (hname ▸ List.mem_cons_self)
      · rintro ⟨⟨-, hall⟩, hother, hnd⟩
        refine ⟨fun q hq => ⟨(hall q hq).1, fun hs => ?_⟩, hnd⟩
        rcases List.mem_cons.1 hs with hname | hs
        · exact hother (hname ▸ List.mem_map_of_mem hq)
        · exact (hall q hq).2 hs

/-- Programs without a fault are passed, and their names are seen from there on. -/
theorem firstFault?_append {before : List Program} (h : firstFault? seen before = none) :
    firstFault? seen (before ++ rest) =
      firstFault? ((before.map (·.name)).reverse ++ seen) rest := by
  induction before generalizing seen with
  | nil => rfl
  | cons p before ih =>
    rcases p.offends_or_sound seen with ⟨e, hoffends⟩ | ⟨hsound, hnew⟩
    · rw [firstFault?_of_offends hoffends] at h
      cases h
    · rw [firstFault?_of_sound hsound hnew] at h
      rw [List.cons_append, firstFault?_of_sound hsound hnew, ih h, List.map_cons,
        List.reverse_cons, List.append_assoc, List.singleton_append]

/-- The check breaks off at the first program that offends. -/
theorem firstFault?_eq_some_iff {programs : List Program} :
    firstFault? seen programs = some e ↔ ∃ before p after, programs = before ++ p :: after ∧
      firstFault? seen before = none ∧
      p.Offends ((before.map (·.name)).reverse ++ seen) e := by
  constructor
  · intro h
    induction programs generalizing seen with
    | nil => cases h
    | cons p rest ih =>
      rcases p.offends_or_sound seen with ⟨e', hoffends⟩ | ⟨hsound, hnew⟩
      · rw [firstFault?_of_offends hoffends] at h
        cases h
        exact ⟨[], p, rest, rfl, rfl, hoffends⟩
      · -- `p` is passed, and comes in front of what is passed in the rest
        rw [firstFault?_of_sound hsound hnew] at h
        obtain ⟨before, q, after, rfl, hbefore, hoffends⟩ := ih h
        refine ⟨p :: before, q, after, rfl, ?_, ?_⟩
        · rw [firstFault?_of_sound hsound hnew, hbefore]
        · simpa using hoffends
  · rintro ⟨before, p, after, rfl, hbefore, hoffends⟩
    rw [firstFault?_append hbefore, firstFault?_of_offends hoffends]

theorem firstFault?_nil_eq_none_iff {programs : List Program} :
    firstFault? [] programs = none ↔ Sound ⟨programs⟩ := by
  rw [firstFault?_eq_none_iff]
  constructor
  · rintro ⟨hall, hnd⟩
    exact ⟨fun p hp => (hall p hp).1, hnd⟩
  · intro h
    exact ⟨fun p hp => ⟨h.programs p hp, List.not_mem_nil⟩, h.names⟩

/-- A list of programs is a suite if and only if it is sound. -/
theorem ofPrograms_eq_ok_iff {programs : List Program} {r : Registry} :
    ofPrograms programs = .ok r ↔ r = ⟨programs⟩ ∧ Sound ⟨programs⟩ := by
  rw [← firstFault?_nil_eq_none_iff, ofPrograms]
  cases firstFault? [] programs with
  | none => simp [eq_comm]
  | some e => simp

/-- A list of programs that is no suite is refused for the first one that breaks
a sound suite off. -/
theorem ofPrograms_eq_error_iff {programs : List Program} :
    ofPrograms programs = .error e ↔ ∃ before p after, programs = before ++ p :: after ∧
      Sound ⟨before⟩ ∧ p.Offends (before.map (·.name)) e := by
  have hsome : ofPrograms programs = .error e ↔ firstFault? [] programs = some e := by
    rw [ofPrograms]
    cases firstFault? [] programs <;> simp
  rw [hsome, firstFault?_eq_some_iff]
  simp only [firstFault?_nil_eq_none_iff, List.append_nil, Program.offends_reverse]

/-! ### Suites that are made -/

/-- The suites that can be made: the standard one, checked lists of programs,
documents, documents in files, and what is left of a suite that was made. -/
inductive Made : Registry → Prop
  | standard : Made .standard
  | ofPrograms {programs : List Program} {r : Registry} : ofPrograms programs = .ok r → Made r
  | ofDocument {text : String} {origin : Path} {r : Registry} :
      ofDocument text origin = .ok r → Made r
  | load {w : World} {path : Path} {r : Registry} : load w path = .ok r → Made r
  | retain {r narrowed : Registry} {names : List String} :
      Made r → r.retain names = .ok narrowed → Made narrowed

variable {r : Registry}

theorem sound_of_ofPrograms {programs : List Program} (h : ofPrograms programs = .ok r) :
    r.Sound := by
  obtain ⟨rfl, hsound⟩ := ofPrograms_eq_ok_iff.1 h
  exact hsound

/-- A document goes through the check. -/
theorem sound_of_ofDocument {text : String} {origin : Path} (h : ofDocument text origin = .ok r) :
    r.Sound := by
  unfold ofDocument at h
  split at h
  · cases h
  · split at h
    · cases h
    · exact sound_of_ofPrograms h

theorem sound_of_load {w : World} {path : Path} (h : load w path = .ok r) : r.Sound := by
  unfold load at h
  split at h
  · cases h
  · split at h
    · cases h
    · exact sound_of_ofDocument h

/-- The standard suite would pass the check. -/
theorem sound_standard : Sound .standard := by
  have hcheck : ofPrograms standard.programs = .ok .standard := by decide +kernel
  exact sound_of_ofPrograms hcheck

theorem retain_eq_ok {names : List String} {narrowed : Registry}
    (h : r.retain names = .ok narrowed) :
    narrowed = ⟨r.programs.filter fun p => decide (p.name ∈ names)⟩ := by
  unfold retain at h
  split at h
  · cases h
  · exact (Except.ok.inj h).symm

/-- Programs are left out of a suite, and no program changes its name. -/
theorem Sound.retain {names : List String} {narrowed : Registry} (hr : r.Sound)
    (h : r.retain names = .ok narrowed) : narrowed.Sound := by
  have hsub : narrowed.programs.Sublist r.programs := by
    rw [retain_eq_ok h]
    exact List.filter_sublist
  refine ⟨fun p hp => hr.programs p (hsub.subset hp), ?_⟩
  exact hr.names.sublist (hsub.map _)

/-- Every suite that is made is sound, by induction on how it is made. -/
theorem Made.sound (h : r.Made) : r.Sound := by
  induction h with
  | standard => exact sound_standard
  | ofPrograms h => exact sound_of_ofPrograms h
  | ofDocument h => exact sound_of_ofDocument h
  | load h => exact sound_of_load h
  | retain _ h ih => exact ih.retain h

/-! ### Finding a program -/

namespace Sound

theorem eq_of_name_eq (hr : r.Sound) {p q : Program} (hp : p ∈ r.programs) (hq : q ∈ r.programs)
    (h : p.name = q.name) : p = q :=
  List.inj_on_of_nodup_map hr.names hp hq h

/-- A name finds the program that has it. -/
theorem find?_eq_some_iff (hr : r.Sound) {name : String} {p : Program} :
    r.find? name = some p ↔ p ∈ r.programs ∧ p.name = name := by
  constructor
  · intro h
    exact ⟨List.mem_of_find?_eq_some h, by simpa using List.find?_some h⟩
  · rintro ⟨hp, rfl⟩
    cases hq : r.find? p.name with
    | none =>
      have := List.find?_eq_none.1 hq p hp
      simp at this
    | some q =>
      have hname : q.name = p.name := by simpa using List.find?_some hq
      rw [hr.eq_of_name_eq (List.mem_of_find?_eq_some hq) hp hname]

end Sound

end Registry

/-! ### Directories of programs -/

namespace Path

variable {part : Bytes}

theorem ofPart?_of_isSegment (h : IsSegment part) :
    Component.ofPart? part = some (.name part) := by
  rw [Component.ofPart?, if_neg (not_or.2 ⟨h.ne_nil, h.ne_dot⟩), if_neg h.ne_dots]

/-- A segment is the last part of a path that it is joined to; an empty part at
the end of the path goes. -/
theorem parts_join_segment (p : Path) (h : IsSegment part) :
    ∃ front, (p.parts = front ∨ p.parts = front ++ [[]]) ∧
      (p.join ⟨part⟩).parts = front ++ [part] := by
  have habs : Path.isAbsolute ⟨part⟩ = false := by simpa using isAbsolute_of_isSegment h []
  have hpart : partsAt Bytes.slash part = [part] := partsAt_of_notMem h.no_slash
  rw [parts, parts, bytes_join p habs]
  by_cases hempty : p.bytes = []
  · refine ⟨[], .inr ?_, ?_⟩
    · rw [hempty]
      rfl
    · rw [if_pos (.inl hempty), hempty, List.nil_append, hpart, List.nil_append]
  · by_cases hslash : p.endsWithSlash = true
    · obtain ⟨xs, hxs⟩ : ∃ xs, p.bytes = xs ++ [Bytes.slash] := by
        refine List.getLast?_eq_some_iff.1 ?_
        simpa [endsWithSlash] using hslash
      refine ⟨partsAt Bytes.slash xs, .inr ?_, ?_⟩
      · rw [hxs, partsAt_append]
        rfl
      · rw [if_pos (.inr hslash), hxs, List.append_assoc, List.singleton_append, partsAt_append,
          hpart]
    · refine ⟨partsAt Bytes.slash p.bytes, .inl rfl, ?_⟩
      rw [if_neg (not_or.2 ⟨hempty, hslash⟩), partsAt_append, hpart]

/-- **A segment is one more step of a path.** -/
theorem components_join_segment (p : Path) (h : IsSegment part) :
    (p.join ⟨part⟩).components = p.components ++ [.name part] := by
  have habs : Path.isAbsolute ⟨part⟩ = false := by simpa using isAbsolute_of_isSegment h []
  obtain ⟨front, hfront, hjoin⟩ := parts_join_segment p h
  have hsteps : p.parts.filterMap Component.ofPart? = front.filterMap Component.ofPart? := by
    rcases hfront with hf | hf <;> rw [hf]
    rw [List.filterMap_append]
    exact List.append_nil _
  have hhead : (front ++ [part]).head? = some [Bytes.dot] ↔ p.parts.head? = some [Bytes.dot] := by
    cases front with
    | nil =>
      -- only an empty path has no part in front
      have hnil : p.parts = [[]] := hfront.resolve_left (partsAt_ne_nil _ _)
      rw [hnil]
      simpa using h.ne_dot
    | cons x xs => rcases hfront with hf | hf <;> rw [hf] <;> rfl
  rw [components, components, hjoin, isAbsolute_join p habs, hsteps, List.filterMap_append]
  simp only [hhead, List.filterMap_cons, ofPart?_of_isSegment h, List.filterMap_nil]
  split_ifs <;> rfl

end Path

namespace Registry

variable {r : Registry}

/-- The directory of a program is a child of the root of the suite. -/
theorem Sound.components_programDir (hr : r.Sound) (l : Layout) {p : Program}
    (hp : p ∈ r.programs) :
    (l.programDir p.name).components =
      l.benchRoot.components ++ [.name (Bytes.ofString p.name)] :=
  Path.components_join_segment _ <|
    Program.isSegment_name (Program.fault?_eq_none_iff.2 (hr.programs p hp))

/-- Different programs have directories with different steps. -/
theorem Sound.programDir_injective (hr : r.Sound) (l : Layout) {p q : Program}
    (hp : p ∈ r.programs) (hq : q ∈ r.programs)
    (h : (l.programDir p.name).components = (l.programDir q.name).components) : p = q := by
  rw [hr.components_programDir l hp, hr.components_programDir l hq] at h
  have hname := Component.name.inj (List.cons.inj (List.append_cancel_left h)).1
  exact hr.eq_of_name_eq hp hq (Bytes.ofString_injective hname)

/-- **The check of a suite accepts the sound lists of programs, and refuses any
other for its first offender.  Whatever is made with suites is sound, so a name
finds its only program, and the programs have directories of their own, each a
child of the root.** -/
theorem suites_are_sound :
    (∀ programs r, ofPrograms programs = .ok r ↔ r = ⟨programs⟩ ∧ Sound ⟨programs⟩) ∧
    (∀ programs e, ofPrograms programs = .error e ↔
      ∃ before p after, programs = before ++ p :: after ∧ Sound ⟨before⟩ ∧
        p.Offends (before.map (·.name)) e) ∧
    ∀ r, Made r →
      r.Sound ∧
      (∀ name p, r.find? name = some p ↔ p ∈ r.programs ∧ p.name = name) ∧
      ∀ (l : Layout), ∀ p ∈ r.programs,
        (l.programDir p.name).components =
          l.benchRoot.components ++ [.name (Bytes.ofString p.name)] ∧
        ∀ q ∈ r.programs, q ≠ p →
          (l.programDir q.name).components ≠ (l.programDir p.name).components := by
  refine ⟨fun _ _ => ofPrograms_eq_ok_iff, fun _ _ => ofPrograms_eq_error_iff, fun r hmade => ?_⟩
  have hr : r.Sound := hmade.sound
  refine ⟨hr, fun _ _ => hr.find?_eq_some_iff, fun l p hp => ?_⟩
  refine ⟨hr.components_programDir l hp, fun q hq hne heq => ?_⟩
  exact hne (hr.programDir_injective l hq hp heq)

/-- Of two programs with one name, the second is refused, and for its stack if
it has none. -/
example : ofPrograms [{ name := "sort" }, { name := "sort", stackSize := 0 }] =
    .error (.invalidProgram "sort" .noStack) := by decide

/-- Two programs, of which one is given as an array and has a blank in its name. -/
def sampleDocument : String := "program = [[\"merge sort\", [\"9\"]], \x7bname = \"sort\"\x7d]"

/-- One program of a document is left in a suite, and its name finds it. -/
theorem sample_suites_are_sound :
    ∃ r narrowed, ofDocument sampleDocument (.ofString "suite.toml") = .ok r ∧
      r.retain ["merge sort"] = .ok narrowed ∧
      narrowed.find? "merge sort" = some { name := "merge sort", arguments := ["9"] } ∧
      narrowed.find? "sort" = none ∧ narrowed.Sound := by
  have hdocument : ofDocument sampleDocument (.ofString "suite.toml") =
      .ok ⟨[{ name := "merge sort", arguments := ["9"] }, { name := "sort" }]⟩ := by
    decide +kernel
  have hretain : Registry.retain
      ⟨[{ name := "merge sort", arguments := ["9"] }, { name := "sort" }]⟩ ["merge sort"] =
      .ok ⟨[{ name := "merge sort", arguments := ["9"] }]⟩ := by decide +kernel
  obtain ⟨hsound, hfind, -⟩ := suites_are_sound.2.2 _ (.retain (.ofDocument hdocument) hretain)
  refine ⟨_, _, hdocument, hretain, ?_, by decide +kernel, hsound⟩
  exact (hfind _ _).2 ⟨List.mem_singleton_self _, rfl⟩

end Registry

end GuardCost
