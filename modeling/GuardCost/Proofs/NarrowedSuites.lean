/-
GuardCost/Proofs/NarrowedSuites.lean

Suites that are narrowed to some names.  Two passes have to agree here: the names
are looked up in the order of the list, and the programs are picked in the order
of the suite.  The first pass fails at the first name that no program has
(`retain_eq_error_iff`).  If it passes, then

    p ∈ narrowed  ↔  p ∈ suite  and  the name of p is in the list

and nothing is said of the list but which names are in it.  Since names are
unique, each listed name has one program in the narrowed suite
(`names_perm_dedup`) and finds the one it found before (`find?_of_retain`); and a
suite can be narrowed further as if it were the whole one (`retain_of_retain`).
-/
import GuardCost.Proofs.SoundSuites
import GuardCost.Proofs.Unprepared
import Mathlib.Data.List.Dedup
import Mathlib.Data.List.Perm.Basic

namespace GuardCost.Registry

variable {r narrowed : Registry} {names names' : List String}

theorem mem_names_iff {name : String} : name ∈ r.names ↔ ∃ p ∈ r.programs, p.name = name :=
  List.mem_map

theorem isNone_find?_iff {name : String} : (r.find? name).isNone = true ↔ name ∉ r.names := by
  rw [Option.isNone_iff_eq_none, find?, List.find?_eq_none, mem_names_iff]
  constructor
  · rintro h ⟨p, hp, rfl⟩
    exact h p hp (beq_self_eq_true _)
  · intro h p hp hname
    exact h ⟨p, hp, beq_iff_eq.1 hname⟩

/-! ### When a suite is narrowed -/

/-- A suite is narrowed if every name is in it, to the programs that have one of
the names. -/
theorem retain_eq_ok_iff : r.retain names = .ok narrowed ↔
    (∀ name ∈ names, name ∈ r.names) ∧
      narrowed = ⟨r.programs.filter fun p => decide (p.name ∈ names)⟩ := by
  constructor
  · intro h
    refine ⟨fun name hname => ?_, retain_eq_ok h⟩
    unfold retain at h
    split at h
    · cases h
    · next hnone =>
      by_contra hno
      exact List.find?_eq_none.1 hnone name hname (isNone_find?_iff.2 hno)
  · rintro ⟨hknown, rfl⟩
    have hnone : names.find? (fun name => (r.find? name).isNone) = none :=
      List.find?_eq_none.2 fun name hname hno => isNone_find?_iff.1 hno (hknown name hname)
    rw [retain, hnone]

/-! ### What is left of it -/

theorem mem_programs_of_retain (h : r.retain names = .ok narrowed) {p : Program} :
    p ∈ narrowed.programs ↔ p ∈ r.programs ∧ p.name ∈ names := by
  rw [(retain_eq_ok_iff.1 h).2, List.mem_filter, decide_eq_true_iff]

theorem mem_names_of_retain (h : r.retain names = .ok narrowed) {name : String} :
    name ∈ narrowed.names ↔ name ∈ names := by
  simp only [mem_names_iff, mem_programs_of_retain h]
  constructor
  · rintro ⟨p, ⟨-, hp⟩, rfl⟩
    exact hp
  · intro hname
    obtain ⟨p, hp, rfl⟩ := mem_names_iff.1 ((retain_eq_ok_iff.1 h).1 name hname)
    exact ⟨p, ⟨hp, hname⟩, rfl⟩

/-- Only which names are listed matters. -/
theorem retain_congr (h : r.retain names = .ok narrowed)
    (hsame : ∀ name, name ∈ names' ↔ name ∈ names) : r.retain names' = .ok narrowed := by
  obtain ⟨hknown, rfl⟩ := retain_eq_ok_iff.1 h
  refine retain_eq_ok_iff.2 ⟨fun name hname => hknown name ((hsame name).1 hname), ?_⟩
  simp only [hsame]

/-- A narrowed suite is narrowed further as the whole one is. -/
theorem retain_of_retain (h : r.retain names = .ok narrowed)
    (hsub : ∀ name ∈ names', name ∈ names) : narrowed.retain names' = r.retain names' := by
  have hknown : ∀ name ∈ names', name ∈ narrowed.names := fun name hname =>
    (mem_names_of_retain h).2 (hsub name hname)
  have hall : ∀ name ∈ names', name ∈ r.names := fun name hname =>
    (retain_eq_ok_iff.1 h).1 name (hsub name hname)
  rw [retain_eq_ok_iff.2 ⟨hknown, rfl⟩, retain_eq_ok_iff.2 ⟨hall, rfl⟩, retain_eq_ok h,
    List.filter_filter]
  refine congrArg (fun programs => Except.ok (Registry.mk programs)) ?_
  refine List.filter_congr fun p _ => ?_
  by_cases hp : p.name ∈ names'
  · simp [hp, hsub p.name hp]
  · simp [hp]

/-- A listed name finds what it found before, and no other name finds anything. -/
theorem find?_of_retain (hr : r.Sound) (h : r.retain names = .ok narrowed) (name : String) :
    narrowed.find? name = if name ∈ names then r.find? name else none := by
  refine Option.ext fun p => ?_
  rw [(hr.retain h).find?_eq_some_iff, mem_programs_of_retain h]
  split
  · next hname =>
    rw [hr.find?_eq_some_iff]
    constructor
    · rintro ⟨⟨hp, -⟩, rfl⟩
      exact ⟨hp, rfl⟩
    · rintro ⟨hp, rfl⟩
      exact ⟨⟨hp, hname⟩, rfl⟩
  · next hname =>
    refine iff_of_false ?_ (by simp)
    rintro ⟨⟨-, hp⟩, rfl⟩
    exact hname hp

/-- Each listed name has one program, however often it is listed. -/
theorem names_perm_dedup (hr : r.Sound) (h : r.retain names = .ok narrowed) :
    narrowed.names.Perm names.dedup := by
  refine (List.perm_ext_iff_of_nodup (hr.retain h).names (List.nodup_dedup _)).2 fun name => ?_
  rw [mem_names_of_retain h, List.mem_dedup]

/-- **A suite is narrowed to the programs with the listed names.**  This fails if
and only if a name in the list is not in the suite, with the first such name; the
suite is a value and stays as it is.  Otherwise what is left are the programs of
the suite whose names are listed, as they were and in the order of the suite, one
for each listed name.  The order of the list and repetitions in it make no
difference; a listed name finds what it found in the whole suite, and any other
name nothing; and narrowing what is left to some of the listed names does the same
as narrowing the whole suite. -/
theorem narrowed_to_names (hmade : Made r) (names : List String) :
    (∀ e, r.retain names = .error e ↔ ∃ before unknown after,
      names = before ++ unknown :: after ∧ (∀ name ∈ before, name ∈ r.names) ∧
        unknown ∉ r.names ∧ e = .unknownProgram unknown) ∧
    ((∀ name ∈ names, name ∈ r.names) → ∃ narrowed, r.retain names = .ok narrowed) ∧
    ∀ narrowed, r.retain names = .ok narrowed →
      narrowed.programs.Sublist r.programs ∧
      (∀ p, p ∈ narrowed.programs ↔ p ∈ r.programs ∧ p.name ∈ names) ∧
      narrowed.names.Perm names.dedup ∧
      (∀ names', (∀ name, name ∈ names' ↔ name ∈ names) → r.retain names' = .ok narrowed) ∧
      (∀ name, narrowed.find? name = if name ∈ names then r.find? name else none) ∧
      (∀ names', (∀ name ∈ names', name ∈ names) → narrowed.retain names' = r.retain names') ∧
      narrowed.retain names = .ok narrowed := by
  have hr : r.Sound := hmade.sound
  refine ⟨fun e => retain_eq_error_iff, fun hknown => ⟨_, retain_eq_ok_iff.2 ⟨hknown, rfl⟩⟩, ?_⟩
  intro narrowed h
  refine ⟨?_, fun p => mem_programs_of_retain h, names_perm_dedup hr h,
    fun names' hsame => retain_congr h hsame, find?_of_retain hr h,
    fun names' hsub => retain_of_retain h hsub, ?_⟩
  · rw [retain_eq_ok h]
    exact List.filter_sublist
  · rw [retain_of_retain h fun _ hname => hname, h]

/-- Three names of the standard suite, out of order and one of them twice. -/
def chosenNames : List String := ["custom_sqlite", "custom_memcmp", "custom_sqlite"]

theorem standard_narrowed : Made .standard ∧ ∃ narrowed,
    Registry.standard.retain chosenNames = .ok narrowed ∧
      narrowed.names.Perm ["custom_memcmp", "custom_sqlite"] ∧
      narrowed.find? "custom_memcmp" = some { name := "custom_memcmp" } ∧
      narrowed.find? "custom_libjpeg" = none ∧
      narrowed.retain ["custom_sqlite"] = Registry.standard.retain ["custom_sqlite"] ∧
      Registry.standard.retain ("custom_sqlite" :: "gcc" :: chosenNames) =
        .error (.unknownProgram "gcc") := by
  have hmade : Made .standard := .standard
  have hknown : ∀ name ∈ chosenNames, name ∈ Registry.standard.names := by decide
  obtain ⟨-, hok, hleft⟩ := narrowed_to_names hmade chosenNames
  obtain ⟨narrowed, h⟩ := hok hknown
  obtain ⟨-, -, hperm, -, hfind, hmore, -⟩ := hleft narrowed h
  refine ⟨hmade, narrowed, h, hperm, ?_, ?_, hmore _ (by decide), ?_⟩
  · rw [hfind]
    decide
  · rw [hfind]
    decide
  · refine ((narrowed_to_names hmade _).1 _).2
      ⟨["custom_sqlite"], "gcc", chosenNames, rfl, by decide, by decide, rfl⟩

end GuardCost.Registry
