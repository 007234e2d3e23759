/-
GuardCost/Proofs/TripleTexts.lean

Which texts are triples.  A text is read as a triple just if, without the blanks
around it, it is

    arch  -  rest

with something in front of its first dash, and the triple is then the trimmed
text together with that front (`parse_eq_ok_iff`).  So reading looks at the
trimmed text alone, and a triple that is written down is read back as it was
(`triples_are_dashed_texts`).
-/
import GuardCost.Proofs.RunnableTargets

namespace GuardCost.Triple

open Text

variable {s s' : String} {t : Triple}

/-- What is read of a text: the trimmed text, and what stands in it before the
first dash. -/
theorem parse_eq_ok_iff :
    parse s = .ok t ↔ t.text = trim s ∧ t.arch ≠ "" ∧ '-' ∉ t.arch.toList ∧
      t.arch.toList ++ ['-'] <+: t.text.toList := by
  constructor
  · intro h
    obtain ⟨hdash, c, rest, hcons, -⟩ := arch_of_parse h
    unfold parse at h
    simp only at h
    split at h
    · next c before after hsplit =>
      cases h
      have harch : String.ofList (c :: before) ≠ "" := by
        intro hnil
        rw [hnil] at hcons
        cases hcons
      refine ⟨rfl, harch, hdash, after, ?_⟩
      rw [String.toList_ofList, String.toList_ofList, (splitFirst?_eq_some.1 hsplit).1,
        List.append_assoc, List.singleton_append]
    · cases h
  · rintro ⟨htext, hne, hdash, after, hafter⟩
    obtain ⟨text, arch⟩ := t
    obtain ⟨c, before, hcons⟩ := List.exists_cons_of_ne_nil
      (fun hnil => hne (String.toList_inj.1 hnil) : arch.toList ≠ [])
    have hchars : trimChars s.toList = (c :: before) ++ '-' :: after := by
      rw [← toList_trim, ← htext, ← hcons, ← hafter, List.append_assoc, List.singleton_append]
    have hsplit : splitFirst? '-' (trimChars s.toList) = some (c :: before, after) :=
      splitFirst?_eq_some.2 ⟨hchars, hcons ▸ hdash⟩
    have harch : String.ofList (c :: before) = arch := by rw [← hcons, String.ofList_toList]
    have htrim : String.ofList (trimChars s.toList) = text := htext.symm
    unfold parse
    simp only [hsplit, harch, htrim]

/-- A text that is no triple is shown as it was given. -/
theorem parse_eq_error (h : ∀ t, parse s ≠ .ok t) : parse s = .error (.invalidTriple s) := by
  unfold parse at h ⊢
  simp only at h ⊢
  split at h
  · exact absurd rfl (h _)
  · rfl

/-- A text is a triple if it has a dash, and something before the first one. -/
theorem exists_triple_iff :
    (∃ t, parse s = .ok t) ↔ '-' ∈ (trim s).toList.tail ∧ (trim s).toList.head? ≠ some '-' := by
  constructor
  · rintro ⟨t, ht⟩
    obtain ⟨htext, hne, hdash, after, hafter⟩ := parse_eq_ok_iff.1 ht
    obtain ⟨c, before, hcons⟩ := List.exists_cons_of_ne_nil
      (fun hnil => hne (String.toList_inj.1 hnil) : t.arch.toList ≠ [])
    rw [hcons] at hafter hdash
    rw [← htext, ← hafter]
    refine ⟨by simp, fun hhead => hdash ?_⟩
    cases hhead
    exact List.mem_cons_self
  · rintro ⟨hmem, hhead⟩
    cases hchars : (trim s).toList with
    | nil => rw [hchars] at hmem; cases hmem
    | cons c rest =>
      rw [hchars] at hmem hhead
      -- the first dash is looked for behind the first character
      obtain ⟨before, after, hrest, hbefore⟩ := List.eq_append_cons_of_mem hmem
      refine ⟨⟨trim s, String.ofList (c :: before)⟩, parse_eq_ok_iff.2 ⟨rfl, ?_, ?_, after, ?_⟩⟩
      · intro hnil
        have hlist := congrArg String.toList hnil
        rw [String.toList_ofList] at hlist
        cases hlist
      · rw [String.toList_ofList, List.mem_cons, not_or]
        exact ⟨fun hc => hhead (hc ▸ rfl), hbefore⟩
      · rw [String.toList_ofList, hchars, List.tail_cons] at *
        rw [hrest, List.append_assoc, List.singleton_append, List.cons_append]

/-- **Which texts are triples, and what is read of them.**  A text is a triple just
if, with the blanks at both ends dropped, it has a dash that is not its first
character, and does not begin with one; any other text is refused and shown as it
was given.  The triple shows the trimmed text; its architecture is not empty, has
no dash and is followed by one; and reading what the triple shows gives the same
triple.  Texts that are the same but for the blanks around them are read alike. -/
theorem triples_are_dashed_texts (s : String) :
    ((∃ t, parse s = .ok t) ↔ '-' ∈ (trim s).toList.tail ∧ (trim s).toList.head? ≠ some '-') ∧
      ((∃ t, parse s = .ok t) ∨ parse s = .error (.invalidTriple s)) ∧
      (∀ t, parse s = .ok t →
        t.text = trim s ∧ t.arch ≠ "" ∧ '-' ∉ t.arch.toList ∧
          t.arch.toList ++ ['-'] <+: t.text.toList ∧ parse t.text = .ok t) ∧
      ∀ s', trim s' = trim s → (parse s').toOption = (parse s).toOption := by
  have hread : ∀ {s s' t}, trim s' = trim s → parse s = .ok t → parse s' = .ok t :=
    fun htrim h => parse_eq_ok_iff.2 (htrim ▸ parse_eq_ok_iff.1 h)
  refine ⟨exists_triple_iff, ?_, fun t ht => ?_, fun s' htrim => ?_⟩
  · by_cases h : ∃ t, parse s = .ok t
    · exact .inl h
    · exact .inr (parse_eq_error fun t ht => h ⟨t, ht⟩)
  · obtain ⟨htext, harch, hdash, hprefix⟩ := parse_eq_ok_iff.1 ht
    refine ⟨htext, harch, hdash, hprefix, hread ?_ ht⟩
    rw [htext, trim_trim]
  · by_cases h : ∃ t, parse s = .ok t
    · obtain ⟨t, ht⟩ := h
      rw [ht, hread htrim ht]
    · have h' : ∀ t, parse s' ≠ .ok t := fun t ht => h ⟨t, hread htrim.symm ht⟩
      rw [parse_eq_error h', parse_eq_error fun t ht => h ⟨t, ht⟩]
      rfl

/-- A triple with nothing behind its dash, in wide blanks. -/
theorem short_triple_among_blanks :
    let s := "\u2003é -\u00A0\n"
    let t : Triple := ⟨"é -", "é "⟩
    parse s = .ok t ∧ trim "é -" = trim s ∧
      (t.text = trim s ∧ t.arch ≠ "" ∧ '-' ∉ t.arch.toList ∧
        t.arch.toList ++ ['-'] <+: t.text.toList ∧ parse t.text = .ok t) ∧
      (parse "é -").toOption = (parse s).toOption := by
  intro s t
  have hparse : parse s = .ok t := by decide
  have htrim : trim "é -" = trim s := by decide
  obtain ⟨-, -, hread, hblanks⟩ := triples_are_dashed_texts s
  exact ⟨hparse, htrim, hread t hparse, hblanks _ htrim⟩

end GuardCost.Triple
