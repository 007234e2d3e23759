/-
GuardCost/Proofs/RunnableTargets.lean

Which targets are treated as runnable on a machine.  A machine names its
architecture twice, by a family and by a text, and the two can be set apart:

    withArch    sets the text, and the family after it
    cpu :=      sets the family alone

A runnable target never has wider words than the machine, and on a machine of a
known family it has that family.  Otherwise only the texts are compared, and
only from the front, so the family of the target is anything that can begin
with the text of the machine: `Host.RunsAnyTail` says exactly on which machines
some target of another family is runnable (`exists_foreign_target_iff`).

The one with the x86 tail is built in `foreignText`; that there is no other
obstacle than the three in `Host.RunsAnyTail` is read off the comparison, which
keeps dashes, blanks and digits (`toNat_lowerChar`).
-/
import GuardCost.Host.Plan
import GuardCost.Proofs.Names
import GuardCost.Proofs.Trimming

namespace GuardCost

/-! ### Pieces of a sequence -/

section
variable {α : Type} [DecidableEq α]

theorem hasInfix_iff {part xs : List α} : hasInfix part xs = true ↔ part <:+: xs := by
  induction xs with
  | nil => simp [hasInfix]
  | cons x rest ih =>
    rw [hasInfix, Bool.or_eq_true, List.isPrefixOf_iff_prefix, ih, List.infix_cons_iff]

/-- What stands before the first separator is free of it. -/
theorem splitFirst?_eq_some {sep : α} {xs before after : List α} :
    splitFirst? sep xs = some (before, after) ↔ xs = before ++ sep :: after ∧ sep ∉ before := by
  induction xs generalizing before after with
  | nil => simp [splitFirst?]
  | cons x rest ih =>
    rw [splitFirst?]
    by_cases hx : x = sep
    · subst hx
      cases before with
      | nil => simp
      | cons y ys =>
        simp only [if_true, Option.some.injEq, Prod.mk.injEq, List.cons_append, List.cons.injEq,
          List.mem_cons, not_or]
        constructor
        · rintro ⟨h, -⟩
          cases h
        · rintro ⟨⟨h, -⟩, hne, -⟩
          exact absurd h hne
    · rw [if_neg hx]
      cases before with
      | nil => simp [hx]
      | cons y ys =>
        rw [Option.map_eq_some_iff, List.cons_append, List.cons.injEq, List.mem_cons, not_or]
        constructor
        · rintro ⟨⟨b, a⟩, hsplit, heq⟩
          cases heq
          obtain ⟨hrest, hb⟩ := ih.1 hsplit
          exact ⟨⟨rfl, hrest⟩, Ne.symm hx, hb⟩
        · rintro ⟨⟨rfl, hrest⟩, -, hys⟩
          exact ⟨(ys, after), ih.2 ⟨hrest, hys⟩, rfl⟩

end

/-! ### The case of letters -/

namespace Text

theorem toNat_lowerChar (c : Char) :
    (lowerChar c).toNat = if 65 ≤ c.toNat ∧ c.toNat ≤ 90 then c.toNat + 32 else c.toNat := by
  have hletter : ('A' ≤ c ∧ c ≤ 'Z') ↔ 65 ≤ c.toNat ∧ c.toNat ≤ 90 := Iff.rfl
  rw [lowerChar]
  simp only [hletter]
  split
  · next h =>
    have hvalid : (c.toNat + 32).isValidChar := .inl (by omega)
    rw [Char.ofNat, dif_pos hvalid]
    rfl
  · rfl

/-- Digits, dashes and blanks have no case. -/
theorem lowerChar_eq_iff {c d : Char} (hd : d.toNat < 65) : lowerChar c = d ↔ c = d := by
  rw [← Char.toNat_inj, ← Char.toNat_inj, toNat_lowerChar]
  split <;> omega

theorem isBlank_lowerChar (c : Char) : isBlank (lowerChar c) = isBlank c := by
  have h := toNat_lowerChar c
  split at h
  · next hletter =>
    -- neither a letter nor its lower form is a blank
    have hnot : ∀ d : Char, 65 ≤ d.toNat → d.toNat ≤ 122 → isBlank d = false := by
      intro d hlow hhigh
      simp only [isBlank, Bool.or_eq_false_iff, Bool.and_eq_false_iff, decide_eq_false_iff_not,
        beq_eq_false_iff_ne]
      omega
    rw [hnot c (by omega) (by omega), hnot (lowerChar c) (by omega) (by omega)]
  · rw [Char.toNat_inj.1 h]

theorem toList_lower (s : String) : (lower s).toList = s.toList.map lowerChar := by
  rw [lower, String.toList_ofList]

theorem lower_append (s t : String) : lower (s ++ t) = lower s ++ lower t := by
  rw [← String.toList_inj, String.toList_append, toList_lower, toList_lower, toList_lower,
    String.toList_append, List.map_append]

theorem contains_iff {s part : String} : contains s part = true ↔ part.toList <:+: s.toList :=
  hasInfix_iff

theorem startsWith_iff {s part : String} : startsWith s part = true ↔ part.toList <+: s.toList :=
  List.isPrefixOf_iff_prefix

/-- A text that is found in the middle or at the end. -/
theorem contains_append_of_right {s t part : String} (h : contains t part = true) :
    contains (s ++ t) part = true := by
  rw [contains_iff] at h ⊢
  rw [String.toList_append]
  exact h.trans (List.suffix_append _ _).isInfix

/-- A piece without letters is found in a text just when it is found in its
lower form. -/
theorem infix_lower_iff {part : List Char} (hpart : ∀ d ∈ part, d.toNat < 65) {s : List Char} :
    part <:+: s.map lowerChar ↔ part <:+: s := by
  have hfix : ∀ xs : List Char, xs.map lowerChar = part → xs = part := by
    intro xs hxs
    have hlen : xs.length = part.length := by rw [← hxs, List.length_map]
    refine List.ext_getElem hlen fun i h₁ h₂ => ?_
    refine (lowerChar_eq_iff (hpart _ (List.getElem_mem h₂))).1 ?_
    simp only [← hxs, List.getElem_map]
  constructor
  · rintro ⟨before, after, h⟩
    obtain ⟨xs, zs, rfl, hxs, -⟩ := List.map_eq_append_iff.1 h.symm
    obtain ⟨ws, ys, rfl, -, hys⟩ := List.map_eq_append_iff.1 hxs
    rw [hfix ys hys]
    exact ⟨ws, zs, rfl⟩
  · intro h
    have hself : part.map lowerChar = part := by
      refine (List.map_congr_left fun d hd => ?_).trans (List.map_id part)
      exact (lowerChar_eq_iff (hpart d hd)).2 rfl
    rw [← hself]
    exact h.map lowerChar

/-- A text that begins with the lower form of another has its digits. -/
theorem contains_of_startsWith_lower {s t part : String} (hpart : ∀ d ∈ part.toList, d.toNat < 65)
    (h : startsWith (lower t) (lower s) = true) (hs : contains s part = true) :
    contains t part = true := by
  rw [contains_iff, ← infix_lower_iff hpart] at hs ⊢
  rw [startsWith_iff, toList_lower, toList_lower] at h
  exact hs.trans h.isInfix

end Text

/-! ### Reading triples -/

namespace Triple

open Text

/-- What stands before the dash of a triple is its architecture: some text
without a dash that does not begin with a blank. -/
theorem arch_of_parse {text : String} {t : Triple} (h : Triple.parse text = .ok t) :
    '-' ∉ t.arch.toList ∧ ∃ c rest, t.arch.toList = c :: rest ∧ isBlank c = false := by
  unfold Triple.parse at h
  simp only at h
  split at h
  · next c before after hsplit =>
    obtain ⟨htrim, hdash⟩ := splitFirst?_eq_some.1 hsplit
    cases h
    refine ⟨by rwa [String.toList_ofList], c, before, String.toList_ofList, ?_⟩
    -- the trimmed text begins like the text without its leading blanks
    have hprefix : trimChars text.toList <+: text.toList.dropWhile isBlank := by
      rw [trimChars, ← List.reverse_suffix, List.reverse_reverse]
      exact List.dropWhile_suffix _
    have hhead := List.head?_dropWhile_not isBlank text.toList
    rw [htrim] at hprefix
    obtain ⟨rest, hrest⟩ := hprefix
    rw [← hrest] at hhead
    exact hhead
  · cases h

theorem toList_dashed (arch rest : String) :
    (arch ++ "-" ++ rest).toList = arch.toList ++ '-' :: rest.toList := by
  rw [String.toList_append, String.toList_append, List.append_assoc]
  rfl

/-- A text is a triple if it begins with an architecture and a dash, and does
not end with a blank. -/
theorem parse_dashed {arch rest : String} (hne : arch ≠ "") (hdash : '-' ∉ arch.toList)
    (hfirst : ∀ c ∈ arch.toList.head?, isBlank c = false)
    (hlast : ∀ c ∈ rest.toList.getLast?, isBlank c = false) :
    Triple.parse (arch ++ "-" ++ rest) = .ok ⟨arch ++ "-" ++ rest, arch⟩ := by
  have htext := toList_dashed arch rest
  obtain ⟨c, before, hcons⟩ := List.exists_cons_of_ne_nil
    (fun hnil => hne (String.toList_inj.1 hnil) : arch.toList ≠ [])
  have htrim : trimChars (arch ++ "-" ++ rest).toList = (arch ++ "-" ++ rest).toList := by
    refine trimChars_eq_self (fun d hd => ?_) (fun d hd => ?_) <;> rw [htext] at hd
    · refine hfirst d ?_
      rw [hcons] at hd ⊢
      exact hd
    · rw [List.getLast?_append, List.getLast?_cons, Option.some_or] at hd
      cases hrest : rest.toList.getLast? with
      | none =>
        -- the text ends with the dash
        rw [hrest] at hd
        cases hd
        decide
      | some e =>
        rw [hrest] at hd
        cases hd
        exact hlast _ hrest
  have hsplit : splitFirst? '-' (arch ++ "-" ++ rest).toList = some (c :: before, rest.toList) :=
    splitFirst?_eq_some.2 ⟨by rw [htext, hcons], hcons ▸ hdash⟩
  have harch : String.ofList (c :: before) = arch := by
    rw [← hcons, String.ofList_toList]
  unfold Triple.parse
  simp only [htrim, hsplit, String.ofList_toList, harch]

end Triple

namespace Host

open Text

/-! ### Settings -/

/-- A change to the description of a machine. -/
inductive Setting where
  | arch (name : String)
  | system (name : String)
  /-- A target; a text that is no triple changes nothing. -/
  | target (text : String)
  | wordWidth (w : WordWidth)
  /-- The family alone. -/
  | cpu (family : CpuFamily)
  deriving DecidableEq, Repr

/-- A machine after a change to its description. -/
def adjust (h : Host) : Setting → Host
  | .arch name => h.withArch name
  | .system name => h.withSystem name
  | .target text =>
    match Triple.parse text with
    | .ok t => h.withTarget t
    | .error _ => h
  | .wordWidth w => { h with wordWidth := w }
  | .cpu family => { h with cpu := family }

/-- The family of a machine is that of its architecture. -/
def InStep (h : Host) : Prop := h.cpu = CpuFamily.ofArch h.arch

theorem inStep_new (w : WordWidth) (c : CpuFamily) : (new w c).InStep := by
  show c = CpuFamily.ofArch (if CpuFamily.ofArch nativeArch = c then nativeArch else c.text)
  cases c <;> decide

/-- Only setting the family alone can take it out of step. -/
theorem InStep.adjust {h : Host} (hh : h.InStep) {s : Setting} (hs : ∀ c, s ≠ .cpu c) :
    (h.adjust s).InStep := by
  cases s with
  | arch name => simp only [InStep, Host.adjust, withArch]
  | system name => exact hh
  | target text =>
    rw [Host.adjust]
    split <;> exact hh
  | wordWidth w => exact hh
  | cpu family => exact absurd rfl (hs family)

theorem InStep.foldl {settings : List Setting} (hs : ∀ c, .cpu c ∉ settings) {h : Host}
    (hh : h.InStep) : (settings.foldl Host.adjust h).InStep := by
  induction settings generalizing h with
  | nil => exact hh
  | cons s rest ih =>
    have hhead : ∀ c, s ≠ .cpu c := fun c hc => hs c (hc ▸ List.mem_cons_self)
    exact ih (fun c hc => hs c (List.mem_cons_of_mem _ hc)) (hh.adjust hhead)

/-- The family does not depend on the case of letters. -/
theorem ofArch_congr {arch arch' : String} (h : lower arch = lower arch') :
    CpuFamily.ofArch arch = CpuFamily.ofArch arch' := by
  simp only [CpuFamily.ofArch, h]

/-! ### Runnable targets -/

variable {h : Host} {t : Triple}

theorem mode_ofHost : (Plan.ofHost h).mode = .full ↔ h.isRunnable = true := by
  rw [Plan.ofHost]
  split <;> simp_all

/-- Which variants apply does not depend on the target. -/
theorem applicable_withTarget (h : Host) (t : Triple) :
    Plan.applicable (h.withTarget t) = Plan.applicable h := by
  refine List.filter_congr fun v _ => ?_
  cases v <;> rfl

theorem isRunnable_iff (ht : h.target? = some t) :
    h.isRunnable = true ↔ t.isBareMetal = false ∧ h.executes t = true ∧
      t.wordWidth.bits ≤ h.wordWidth.bits ∧ t.matchesSystem h.os = true := by
  simp [isRunnable, ht, and_assoc]

theorem executes_known (hcpu : h.cpu ≠ .other) : h.executes t = true ↔ t.cpu = h.cpu := by
  unfold executes
  split
  · next heq => exact absurd heq hcpu
  · rw [beq_iff_eq]

theorem executes_other (hcpu : h.cpu = .other) :
    h.executes t = true ↔ startsWith (lower t.arch) (lower h.arch) = true := by
  rw [executes, hcpu]

/-- Only one width has room for 64 bits. -/
theorem eq_bits64_of_le {w : WordWidth} (h : WordWidth.bits64.bits ≤ w.bits) : w = .bits64 := by
  cases w with
  | bits32 => exact absurd h (by decide)
  | bits64 => rfl

/-! ### Targets of another family -/

/-- A machine of no known family, whose architecture can be continued in a
triple: it has no dash and does not begin with a blank, and if it mentions 64
bits, the machine has them. -/
structure RunsAnyTail (h : Host) : Prop where
  other : h.cpu = .other
  dashless : '-' ∉ h.arch.toList
  unblank : ∀ c ∈ h.arch.toList.head?, isBlank c = false
  width : contains h.arch "64" = true → h.wordWidth = .bits64

/-- What follows the architecture of a machine in a triple that names an x86
processor and every known system. -/
def foreignTail : String := "86-linux-macos-windows"

/-- An x86 triple that begins with the architecture of a machine. -/
def foreignText (h : Host) : String := h.arch ++ foreignTail

/-- The triple that `foreignText` writes. -/
def foreign (h : Host) : Triple := ⟨h.foreignText, h.arch ++ "86"⟩

theorem toList_foreignText (h : Host) : h.foreignText.toList =
    (h.arch ++ "86").toList ++ '-' :: "linux-macos-windows".toList := by
  have htail : foreignTail.toList = "86".toList ++ '-' :: "linux-macos-windows".toList := by decide
  rw [foreignText, String.toList_append, String.toList_append, List.append_assoc, htail]

theorem dashless_foreign (hdash : '-' ∉ h.arch.toList) : '-' ∉ (h.arch ++ "86").toList := by
  rw [String.toList_append, List.mem_append, not_or]
  exact ⟨hdash, by decide⟩

theorem parse_foreignText (hh : h.RunsAnyTail) : Triple.parse h.foreignText = .ok h.foreign := by
  have htext : h.foreignText = h.arch ++ "86" ++ "-" ++ "linux-macos-windows" := by
    rw [← String.toList_inj, toList_foreignText, Triple.toList_dashed]
  have hne : h.arch ++ "86" ≠ "" := fun hnil =>
    absurd (String.append_eq_empty_iff.1 hnil).2 (by decide)
  have hfirst : ∀ c ∈ (h.arch ++ "86").toList.head?, isBlank c = false := by
    intro c hc
    rw [String.toList_append] at hc
    cases harch : h.arch.toList with
    | nil =>
      rw [harch] at hc
      cases hc
      decide
    | cons a as =>
      rw [harch] at hc
      exact hh.unblank c (by rw [harch]; exact hc)
  rw [foreign, htext]
  refine Triple.parse_dashed hne (dashless_foreign hh.dashless) hfirst fun c hc => ?_
  cases hc
  decide

theorem not_bareMetal_foreign (hdash : '-' ∉ h.arch.toList) : h.foreign.isBareMetal = false := by
  rw [Triple.isBareMetal, foreign, toList_foreignText, partsAt_append,
    partsAt_of_notMem (dashless_foreign hdash), List.singleton_append, List.tail_cons]
  decide

theorem cpu_foreign (h : Host) : h.foreign.cpu = .x86 := by
  have hx86 : contains (lower (h.arch ++ "86")) "86" = true := by
    rw [lower_append]
    exact contains_append_of_right (by decide)
  rw [Triple.cpu, foreign, CpuFamily.ofArch]
  simp [hx86]

theorem matchesSystem_foreign (h : Host) (os : String) : h.foreign.matchesSystem os = true := by
  have hname : ∀ {part : String}, contains (lower foreignTail) part = true →
      contains (lower h.foreign.text) part = true := by
    intro part hpart
    rw [foreign, foreignText, lower_append]
    exact contains_append_of_right hpart
  unfold Triple.matchesSystem
  simp only
  split
  · exact hname (by decide)
  · split
    · have hmacos := @hname "macos" (by decide)
      simp [hmacos]
    · split
      · exact hname (by decide)
      · rfl

/-- The digits of the tail do not complete those of the architecture to 64. -/
theorem contains_foreign : contains (h.arch ++ "86") "64" = contains h.arch "64" := by
  have hlist : ∀ xs : List Char, hasInfix ['6', '4'] (xs ++ ['8', '6']) = hasInfix ['6', '4'] xs := by
    intro xs
    induction xs with
    | nil => decide
    | cons x rest ih =>
      have hprefix : ['6', '4'].isPrefixOf (x :: (rest ++ ['8', '6'])) =
          ['6', '4'].isPrefixOf (x :: rest) := by
        cases rest with
        | nil => simp [List.isPrefixOf]
        | cons y ys => rfl
      rw [List.cons_append, hasInfix, hasInfix, ih, hprefix]
  rw [contains, contains, String.toList_append]
  exact hlist h.arch.toList

theorem isRunnable_foreign (hh : h.RunsAnyTail) : (h.withTarget h.foreign).isRunnable = true := by
  refine (isRunnable_iff rfl).2 ⟨not_bareMetal_foreign hh.dashless, ?_, ?_,
    matchesSystem_foreign h _⟩
  · refine (executes_other hh.other).2 (startsWith_iff.2 ?_)
    show (lower h.arch).toList <+: (lower (h.arch ++ "86")).toList
    rw [lower_append, String.toList_append]
    exact List.prefix_append _ _
  · show h.foreign.wordWidth.bits ≤ h.wordWidth.bits
    rw [Triple.wordWidth, foreign, contains_foreign]
    split
    · next h64 => rw [hh.width h64]
    · cases h.wordWidth <;> decide

/-- A machine that runs a target of another family is of no known family, and
nothing stands in the way of a tail. -/
theorem runsAnyTail_of_foreign {text : String} (hparse : Triple.parse text = .ok t)
    (hrun : (h.withTarget t).isRunnable = true) (hcpu : t.cpu ≠ h.cpu) : h.RunsAnyTail := by
  obtain ⟨-, hexec, hwidth, -⟩ := (isRunnable_iff (h := h.withTarget t) rfl).1 hrun
  have hother : h.cpu = .other := by
    by_contra hknown
    exact hcpu ((executes_known (h := h.withTarget t) hknown).1 hexec)
  have hstart := (executes_other (h := h.withTarget t) hother).1 hexec
  have hlist : h.arch.toList.map lowerChar <+: t.arch.toList.map lowerChar := by
    rw [← toList_lower, ← toList_lower]
    exact startsWith_iff.1 hstart
  obtain ⟨hdash, c, rest, harch, hblank⟩ := Triple.arch_of_parse hparse
  refine ⟨hother, fun hmem => hdash ?_, fun d hd => ?_, fun h64 => ?_⟩
  · have hself : lowerChar '-' = '-' := by decide
    have hmem' := hlist.subset (List.mem_map_of_mem hmem)
    rw [hself] at hmem'
    obtain ⟨e, he, hlower⟩ := List.mem_map.1 hmem'
    have hdash : e = '-' := (lowerChar_eq_iff (by decide)).1 hlower
    rwa [← hdash]
  · obtain ⟨ds, hds⟩ := List.head?_eq_some_iff.1 hd
    rw [harch, hds, List.map_cons, List.map_cons] at hlist
    have hsame : lowerChar d = lowerChar c := (List.cons_prefix_cons.1 hlist).1
    rw [← isBlank_lowerChar, hsame, isBlank_lowerChar, hblank]
  · have hdigits : ∀ d ∈ "64".toList, d.toNat < 65 := by simp
    have ht64 : contains t.arch "64" = true := contains_of_startsWith_lower hdigits hstart h64
    rw [Triple.wordWidth, if_pos ht64] at hwidth
    exact eq_bits64_of_le hwidth

/-- Some target of another family is runnable just on the machines that run any
tail. -/
theorem exists_foreign_target_iff :
    (∃ text t, Triple.parse text = .ok t ∧ (Plan.ofHost (h.withTarget t)).mode = .full ∧
      t.cpu ≠ h.cpu) ↔ h.RunsAnyTail := by
  constructor
  · rintro ⟨text, t, hparse, hfull, hcpu⟩
    exact runsAnyTail_of_foreign hparse (mode_ofHost.1 hfull) hcpu
  · intro hh
    refine ⟨h.foreignText, h.foreign, parse_foreignText hh, mode_ofHost.2 (isRunnable_foreign hh), ?_⟩
    rw [cpu_foreign, hh.other]
    decide

/-! ### What a full plan promises -/

/-- **What is known of a target that is treated as runnable.**  For any machine,
however its description came about: a target with a full plan names a system,
has no wider words than the machine, and has its family if that is a known one;
otherwise its architecture begins like the one of the machine, letters of either
case alike.  If the family was never set alone, a target of the very
architecture of the machine has its family.  Some target of another family has a
full plan just if the machine is of no known family and its architecture can be
continued in a triple. -/
theorem full_plan_fits_target (w : WordWidth) (c : CpuFamily) (settings : List Setting) :
    let h := settings.foldl adjust (new w c)
    (∀ t, h.target? = some t → (Plan.ofHost h).mode = .full →
      t.isBareMetal = false ∧ t.wordWidth.bits ≤ h.wordWidth.bits ∧
        (h.cpu ≠ .other → t.cpu = h.cpu) ∧
        (h.cpu = .other → startsWith (lower t.arch) (lower h.arch) = true)) ∧
      ((∀ family, .cpu family ∉ settings) →
        ∀ t : Triple, lower t.arch = lower h.arch → t.cpu = h.cpu) ∧
      ((∃ text t, Triple.parse text = .ok t ∧ (Plan.ofHost (h.withTarget t)).mode = .full ∧
        t.cpu ≠ h.cpu) ↔ h.RunsAnyTail) := by
  intro h
  refine ⟨fun t ht hfull => ?_, fun hs t harch => ?_, exists_foreign_target_iff⟩
  · obtain ⟨hbare, hexec, hwidth, -⟩ := (isRunnable_iff ht).1 (mode_ofHost.1 hfull)
    exact ⟨hbare, hwidth, fun hknown => (executes_known hknown).1 hexec,
      fun hother => (executes_other hother).1 hexec⟩
  · have hstep : h.InStep := (inStep_new w c).foldl hs
    rw [Triple.cpu, ofArch_congr harch]
    exact hstep.symm

/-- Not every full plan is for a target of the family of the machine: where the
family of the running machine is set to an unknown one, x86 targets still run. -/
theorem full_plan_for_another_family :
    ¬ ∀ (w : WordWidth) (c : CpuFamily) (settings : List Setting) (t : Triple),
      (settings.foldl adjust (new w c)).target? = some t →
      (Plan.ofHost (settings.foldl adjust (new w c))).mode = .full →
      t.cpu = (settings.foldl adjust (new w c)).cpu ∧
        t.wordWidth.bits ≤ (settings.foldl adjust (new w c)).wordWidth.bits := by
  intro hall
  have hx86 := hall .bits64 .x86 [.cpu .other, .target "x86_64-pc-linux-gnu"]
    ⟨"x86_64-pc-linux-gnu", "x86_64"⟩ (by decide) (by decide)
  exact absurd hx86.1 (by decide)

end Host

end GuardCost
