/-
GuardCost/Proofs/DistinctKeys.lean

Tables have no key twice.  A document is put together statement by statement, and an
inline table pair by pair; both go through tables under construction.  What keeps the
keys apart is that an entry is only ever added at a key that is not there, or put in
place of the entry that is:

    entries ++ [(key, node)]   with  entries.lookup key = none
    replace key node entries

So every edit of a table keeps `WellKeyed` (`Node.WellKeyed.descend`), and with it
every statement (`Draft.WellKeyed.add`).  The values that are scanned are well-keyed by
induction on the allowance of the scanners (`wellKeyed_scan`), since an inline table
is finished before it is used.

**Main theorem** (`wellKeyed_parse`): the tables of a document, at every depth.
-/
import GuardCost.Toml.Document
import Mathlib.Data.List.Nodup

namespace GuardCost.Toml

/-! ### Well-keyed values and nodes -/

/-- No table within a value has a key twice. -/
inductive Value.WellKeyed : Value → Prop
  | text (s : String) : WellKeyed (.text s)
  | integer (n : Int) : WellKeyed (.integer n)
  | float (x : Float) : WellKeyed (.float x)
  | boolean (b : Bool) : WellKeyed (.boolean b)
  | date : WellKeyed .date
  | array {items : List Value} : (∀ v ∈ items, WellKeyed v) → WellKeyed (.array items)
  | table {entries : List (String × Value)} : (entries.map Prod.fst).Nodup →
      (∀ entry ∈ entries, WellKeyed entry.2) → WellKeyed (.table entries)

/-- No table within a node has a key twice. -/
inductive Node.WellKeyed : Node → Prop
  | leaf {v : Value} : v.WellKeyed → WellKeyed (.leaf v)
  | table {implicit dotted : Bool} {entries : List (String × Node)} :
      (entries.map Prod.fst).Nodup → (∀ entry ∈ entries, WellKeyed entry.2) →
        WellKeyed (.table implicit dotted entries)
  | tables {elements : List Node} : (∀ node ∈ elements, WellKeyed node) →
      WellKeyed (.tables elements)

namespace Node

variable {implicit dotted implicit' dotted' : Bool} {entries : List (String × Node)}
  {key : String} {node node' child : Node}

theorem wellKeyed_empty : (Node.table implicit dotted []).WellKeyed := .table .nil nofun

theorem WellKeyed.nodup (h : (Node.table implicit dotted entries).WellKeyed) :
    (entries.map Prod.fst).Nodup := by
  cases h with
  | table hnodup _ => exact hnodup

theorem WellKeyed.entry (h : (Node.table implicit dotted entries).WellKeyed) :
    ∀ entry ∈ entries, entry.2.WellKeyed := by
  cases h with
  | table _ hentries => exact hentries

theorem WellKeyed.element {elements : List Node} (h : (Node.tables elements).WellKeyed) :
    ∀ node ∈ elements, node.WellKeyed := by
  cases h with
  | tables helements => exact helements

theorem WellKeyed.lookup (h : (Node.table implicit dotted entries).WellKeyed)
    (hlookup : entries.lookup key = some child) : child.WellKeyed := by
  obtain ⟨front, back, rfl, -⟩ := List.lookup_eq_some_iff.1 hlookup
  exact h.entry (key, child) (by simp)

/-- Whether a table is implicit or dotted does not matter. -/
theorem WellKeyed.mark (h : (Node.table implicit dotted entries).WellKeyed) :
    (Node.table implicit' dotted' entries).WellKeyed := .table h.nodup h.entry

/-! ### Edits of a table -/

/-- An entry can be added at a key that is not there. -/
theorem WellKeyed.insert (h : (Node.table implicit dotted entries).WellKeyed)
    (hlookup : entries.lookup key = none) (hnode : node.WellKeyed) :
    (Node.table implicit' dotted' (entries ++ [(key, node)])).WellKeyed := by
  have hnew : key ∉ entries.map Prod.fst := by
    intro hkey
    obtain ⟨entry, hentry, rfl⟩ := List.mem_map.1 hkey
    simpa using List.lookup_eq_none_iff.1 hlookup entry hentry
  refine .table ?_ fun entry hentry => ?_
  · rw [List.map_append]
    exact h.nodup.append (List.nodup_singleton _) (by simpa using hnew)
  · rcases List.mem_append.1 hentry with hentry | hentry
    · exact h.entry entry hentry
    · exact List.mem_singleton.1 hentry ▸ hnode

/-- An entry can be put in place of the one at its key. -/
theorem WellKeyed.replace (h : (Node.table implicit dotted entries).WellKeyed) (key : String)
    (hnode : node.WellKeyed) :
    (Node.table implicit' dotted' (replace key node entries)).WellKeyed := by
  have hkeys : (Node.replace key node entries).map Prod.fst = entries.map Prod.fst := by
    rw [Node.replace, List.map_map]
    refine List.map_congr_left fun entry _ => ?_
    rw [Function.comp_apply]
    split <;> rfl
  refine .table (hkeys ▸ h.nodup) fun entry hentry => ?_
  obtain ⟨old, hold, rfl⟩ := List.mem_map.1 hentry
  split
  · exact hnode
  · exact h.entry old hold

/-- Entries can be left out. -/
theorem WellKeyed.filter (h : (Node.table implicit dotted entries).WellKeyed)
    (keep : String × Node → Bool) : (Node.table implicit' dotted' (entries.filter keep)).WellKeyed :=
  .table (h.nodup.sublist (List.filter_sublist.map _)) fun entry hentry =>
    h.entry entry (List.mem_of_mem_filter hentry)

/-- Editing the end of a path keeps keys apart, if the edit does. -/
theorem WellKeyed.descend {edit : Node → Option Node}
    (hedit : ∀ node node', node.WellKeyed → edit node = some node' → node'.WellKeyed)
    {path : List String} (h : node.WellKeyed)
    (hdescend : Node.descend dotted edit path node = some node') : node'.WellKeyed := by
  induction path generalizing node node' with
  | nil => exact hedit node node' h (by rwa [Node.descend] at hdescend)
  | cons key path ih =>
    cases node with
    | leaf v => cases hdescend
    | tables elements => cases hdescend
    | table implicit isDotted entries =>
      rw [Node.descend] at hdescend
      split at hdescend
      · next hlookup =>
        obtain ⟨child, hchild, rfl⟩ := Option.map_eq_some_iff.1 hdescend
        exact h.insert hlookup (ih wellKeyed_empty hchild)
      · cases hdescend
      · next elements hlookup =>
        have helements := (h.lookup hlookup).element
        split at hdescend
        · cases hdescend
        · next last hlast =>
          obtain ⟨child, hchild, rfl⟩ := Option.map_eq_some_iff.1 hdescend
          have hchild := ih (helements last (List.mem_of_getLast? hlast)) hchild
          refine h.replace key (.tables fun element helement => ?_)
          rcases List.mem_append.1 helement with helement | helement
          · exact helements element (List.dropLast_subset _ helement)
          · exact List.mem_singleton.1 helement ▸ hchild
      · next hlookup =>
        split at hdescend
        · cases hdescend
        · obtain ⟨child, hchild, rfl⟩ := Option.map_eq_some_iff.1 hdescend
          exact h.replace key (ih (h.lookup hlookup) hchild)

theorem WellKeyed.put {path : List String} {v : Value} (h : node.WellKeyed) (hv : v.WellKeyed)
    (hput : Node.put path key v node = some node') : node'.WellKeyed := by
  refine h.descend (fun node node' hnode hedit => ?_) hput
  cases node with
  | leaf => cases hedit
  | tables => cases hedit
  | table implicit isDotted entries =>
    rw [putValue] at hedit
    split at hedit
    · cases hedit
    · next hfree =>
      cases hedit
      have hnew : ¬ (entries.lookup key).isSome = true := fun h =>
        hfree (Bool.or_eq_true_iff.2 (.inr h))
      exact hnode.insert (Option.not_isSome_iff_eq_none.1 hnew) (.leaf hv)

/-! ### Finished tables -/

theorem entriesToValue_eq (entries : List (String × Node)) :
    entriesToValue entries = entries.map fun entry => (entry.1, entry.2.toValue) := by
  induction entries with
  | nil => rfl
  | cons entry rest ih => rw [entriesToValue, ih, List.map_cons]

theorem elementsToValue_eq (elements : List Node) :
    elementsToValue elements = elements.map toValue := by
  induction elements with
  | nil => rfl
  | cons element rest ih => rw [elementsToValue, ih, List.map_cons]

theorem WellKeyed.toValue (h : node.WellKeyed) : node.toValue.WellKeyed := by
  induction h with
  | leaf hv => exact hv
  | table hnodup _ ih =>
    rw [Node.toValue, entriesToValue_eq]
    refine .table (by simpa [Function.comp_def] using hnodup) fun entry hentry => ?_
    obtain ⟨old, hold, rfl⟩ := List.mem_map.1 hentry
    exact ih old hold
  | tables _ ih =>
    rw [Node.toValue, elementsToValue_eq]
    refine .array fun v hv => ?_
    obtain ⟨element, helement, rfl⟩ := List.mem_map.1 hv
    exact ih element helement

/-- The entries of a finished table make a well-keyed value. -/
theorem WellKeyed.document (h : node.WellKeyed) : (Value.table node.entries).WellKeyed := by
  cases node with
  | leaf => exact .table .nil nofun
  | tables => exact .table .nil nofun
  | table => exact h.toValue

end Node

/-- What each step keeps, the steps together keep. -/
theorem foldlM_keeps {σ α : Type} {P : σ → Prop} {f : σ → α → Option σ} {xs : List α} {s s' : σ}
    (hstep : ∀ x ∈ xs, ∀ s s', P s → f s x = some s' → P s') (hs : P s)
    (h : xs.foldlM f s = some s') : P s' := by
  induction xs generalizing s with
  | nil =>
    cases h
    exact hs
  | cons x rest ih =>
    obtain ⟨hfirst, hrest⟩ := List.forall_mem_cons.1 hstep
    rw [List.foldlM_cons] at h
    obtain ⟨next, hnext, h⟩ := Option.bind_eq_some_iff.1 h
    exact ih hrest (hfirst s next hs hnext) h

/-- The pairs of an inline table are put into it one after the other. -/
theorem wellKeyed_entriesOfPairs {pairs : List Pair} {entries : List (String × Value)}
    (hpairs : ∀ pair ∈ pairs, pair.2.2.WellKeyed) (h : entriesOfPairs? pairs = some entries) :
    (Value.table entries).WellKeyed := by
  obtain ⟨node, hfold, rfl⟩ := Option.map_eq_some_iff.1 h
  have hnode : node.WellKeyed :=
    foldlM_keeps (fun pair hpair _ _ hnode => hnode.put (hpairs pair hpair))
      Node.wellKeyed_empty hfold
  exact hnode.document

/-! ### Documents under construction -/

namespace Draft

/-- No table of a document under construction has a key twice. -/
structure WellKeyed (d : Draft) : Prop where
  root : d.root.WellKeyed
  current : d.current.WellKeyed

variable {d d' : Draft} {root node : Node} {path : List String} {key : String}

theorem WellKeyed.finish (h : d.WellKeyed) (hfinish : d.finish = some node) : node.WellKeyed := by
  rw [Draft.finish] at hfinish
  split at hfinish
  · cases hfinish
    exact h.current
  · refine h.root.descend (fun node node' hnode hedit => ?_) hfinish
    cases node with
    | leaf => cases hedit
    | tables => cases hedit
    | table implicit dotted entries =>
      dsimp only at hedit
      split at hedit
      · cases hedit
      · next hnew =>
        cases hedit
        exact hnode.insert (Option.not_isSome_iff_eq_none.1 hnew) h.current
  · refine h.root.descend (fun node node' hnode hedit => ?_) hfinish
    cases node with
    | leaf => cases hedit
    | tables => cases hedit
    | table implicit dotted entries =>
      dsimp only at hedit
      split at hedit
      · next elements hlookup =>
        cases hedit
        refine hnode.replace _ (.tables fun element helement => ?_)
        rcases List.mem_append.1 helement with helement | helement
        · exact (hnode.lookup hlookup).element element helement
        · exact List.mem_singleton.1 helement ▸ h.current
      · cases hedit

theorem wellKeyed_openElement (h : root.WellKeyed) (hopen : openElement root path key = some d) :
    d.WellKeyed := by
  obtain ⟨node, hdescend, rfl⟩ := Option.map_eq_some_iff.1 hopen
  refine ⟨h.descend (fun node node' hnode hedit => ?_) hdescend, Node.wellKeyed_empty⟩
  cases node with
  | leaf => cases hedit
  | tables => cases hedit
  | table implicit dotted entries =>
    dsimp only at hedit
    split at hedit
    · next hlookup =>
      cases hedit
      exact hnode.insert hlookup (.tables nofun)
    · cases hedit
      exact hnode
    · cases hedit

/-- The entries at the end of a path make a well-keyed table. -/
theorem wellKeyed_entriesAt (h : node.WellKeyed) :
    (Node.table false false (entriesAt path node)).WellKeyed := by
  induction path generalizing node with
  | nil =>
    cases node with
    | table => exact h.mark
    | leaf | tables => exact Node.wellKeyed_empty
  | cons key path ih =>
    cases node with
    | leaf | tables => exact Node.wellKeyed_empty
    | table implicit dotted entries =>
      rw [entriesAt]
      split
      · next elements hlookup =>
        split
        · next last hlast => exact ih ((h.lookup hlookup).element last (List.mem_of_getLast? hlast))
        · exact Node.wellKeyed_empty
      · next child hlookup => exact ih (h.lookup hlookup)
      · exact Node.wellKeyed_empty

theorem wellKeyed_found {entries found : List (String × Node)}
    (h : (Node.table false false entries).WellKeyed) (hfound : found? key entries = some found) :
    (Node.table false false found).WellKeyed := by
  rw [found?] at hfound
  split at hfound
  · cases hfound
    exact Node.wellKeyed_empty
  · next hlookup =>
    cases hfound
    exact (h.lookup hlookup).mark
  · cases hfound

theorem wellKeyed_openTable (h : root.WellKeyed) (hopen : openTable root path key = some d) :
    d.WellKeyed := by
  rw [openTable] at hopen
  split at hopen
  · cases hopen
  · next entries hfound =>
    obtain ⟨node, hdescend, rfl⟩ := Option.map_eq_some_iff.1 hopen
    refine ⟨h.descend (fun node node' hnode hedit => ?_) hdescend,
      wellKeyed_found (wellKeyed_entriesAt h) hfound⟩
    cases node with
    | leaf => cases hedit
    | tables => cases hedit
    | table implicit dotted siblings =>
      cases hedit
      exact hnode.filter _

end Draft

/-- A statement whose value, if it has one, is well-keyed. -/
def Statement.WellKeyed : Statement → Prop
  | .pair _ _ v => v.WellKeyed
  | _ => True

/-- A statement keeps the keys of a document apart. -/
theorem Draft.WellKeyed.add {d d' : Draft} {s : Statement} (h : d.WellKeyed) (hs : s.WellKeyed)
    (hadd : d.add s = some d') : d'.WellKeyed := by
  cases s with
  | pair path key v =>
    obtain ⟨current, hput, rfl⟩ := Option.map_eq_some_iff.1 hadd
    exact ⟨h.root, h.current.put hs hput⟩
  | header path key =>
    obtain ⟨root, hfinish, hopen⟩ := Option.bind_eq_some_iff.1 hadd
    exact wellKeyed_openTable (h.finish hfinish) hopen
  | arrayHeader path key =>
    obtain ⟨root, hfinish, hopen⟩ := Option.bind_eq_some_iff.1 hadd
    exact wellKeyed_openElement (h.finish hfinish) hopen

theorem wellKeyed_documentOfStatements {statements : List Statement}
    {entries : List (String × Value)} (hs : ∀ s ∈ statements, s.WellKeyed)
    (h : documentOfStatements? statements = some entries) : (Value.table entries).WellKeyed := by
  obtain ⟨node, hnode, rfl⟩ := Option.map_eq_some_iff.1 h
  obtain ⟨d, hfold, hfinish⟩ := Option.bind_eq_some_iff.1 hnode
  have hd : d.WellKeyed :=
    foldlM_keeps (fun s hmem _ _ hd => hd.add (hs s hmem))
      ⟨Node.wellKeyed_empty, Node.wellKeyed_empty⟩ hfold
  exact (hd.finish hfinish).document

/-! ### Scanned values -/

section
variable {cs left : List Char} {v : Value}

theorem wellKeyed_scanDate (h : scanDate cs = some (v, left)) : v.WellKeyed := by
  obtain rfl : v = .date := by
    unfold scanDate at h
    split at h
    · split at h
      · split at h
        · split at h <;> cases h <;> rfl
        · cases h
          rfl
      · cases h
        rfl
    · obtain ⟨_, -, heq⟩ := Option.map_eq_some_iff.1 h
      cases heq
      rfl
  exact .date

theorem wellKeyed_fitting {n : Int} {cs : List Char} (h : fitting n cs = some (v, left)) :
    v.WellKeyed := by
  unfold fitting at h
  split at h <;> cases h
  exact .integer n

theorem wellKeyed_scanInteger (h : scanInteger cs = some (v, left)) : v.WellKeyed := by
  unfold scanInteger at h
  split at h <;>
    obtain ⟨_, -, hfits⟩ := Option.bind_eq_some_iff.1 h <;>
    exact wellKeyed_fitting hfits

theorem wellKeyed_scanFloat (h : scanFloat cs = some (v, left)) : v.WellKeyed := by
  unfold scanFloat at h
  dsimp only at h
  split at h
  · cases h
    exact .float _
  · cases h
    exact .float _
  · obtain ⟨_, -, h⟩ := Option.bind_eq_some_iff.1 h
    obtain ⟨_, -, h⟩ := Option.bind_eq_some_iff.1 h
    split at h <;> cases h
    exact .float _

theorem wellKeyed_scanNumber (h : scanNumber cs = some (v, left)) : v.WellKeyed := by
  unfold scanNumber at h
  rcases hdate : scanDate cs with - | date
  · rcases hfloat : scanFloat cs with - | x
    · rw [hdate, hfloat] at h
      exact wellKeyed_scanInteger h
    · rw [hdate, hfloat] at h
      cases h
      exact wellKeyed_scanFloat hfloat
  · rw [hdate] at h
    cases h
    exact wellKeyed_scanDate hdate

end

/-- The values of the three scanners that call each other are well-keyed. -/
theorem wellKeyed_scan (allowance : Nat) :
    (∀ depth cs v left, scanValue allowance depth cs = some (v, left) → v.WellKeyed) ∧
      (∀ depth cs items left, scanItems allowance depth cs = some (items, left) →
        ∀ v ∈ items, v.WellKeyed) ∧
      ∀ depth first cs pairs left, scanPairs allowance depth first cs = some (pairs, left) →
        ∀ pair ∈ pairs, pair.2.2.WellKeyed := by
  induction allowance with
  | zero => exact ⟨nofun, nofun, nofun⟩
  | succ allowance ih =>
    obtain ⟨hvalue, hitems, hpairs⟩ := ih
    refine ⟨?_, ?_, ?_⟩
    · intro depth cs v left h
      rw [scanValue.eq_def] at h
      dsimp only at h
      split at h
      · obtain ⟨_, -, heq⟩ := Option.map_eq_some_iff.1 h
        cases heq
        exact .text _
      · obtain ⟨_, -, heq⟩ := Option.map_eq_some_iff.1 h
        cases heq
        exact .text _
      · split at h
        · obtain ⟨_, hscan, heq⟩ := Option.map_eq_some_iff.1 h
          cases heq
          exact .array (hitems _ _ _ _ hscan)
        · cases h
      · split at h
        · obtain ⟨_, hscan, h⟩ := Option.bind_eq_some_iff.1 h
          obtain ⟨_, hentries, heq⟩ := Option.map_eq_some_iff.1 h
          cases heq
          exact wellKeyed_entriesOfPairs (hpairs _ _ _ _ _ hscan) hentries
        · cases h
      · cases h
        exact .boolean _
      · cases h
        exact .boolean _
      · exact wellKeyed_scanNumber h
    · intro depth cs items left h
      rw [scanItems.eq_def] at h
      dsimp only at h
      split at h
      · cases h
      · cases h
        nofun
      · obtain ⟨_, hitem, h⟩ := Option.bind_eq_some_iff.1 h
        have hitem := hvalue _ _ _ _ hitem
        split at h
        · cases h
          exact List.forall_mem_singleton.2 hitem
        · obtain ⟨_, hrest, heq⟩ := Option.map_eq_some_iff.1 h
          cases heq
          exact List.forall_mem_cons.2 ⟨hitem, hitems _ _ _ _ hrest⟩
        · cases h
    · intro depth first cs pairs left h
      rw [scanPairs.eq_def] at h
      dsimp only at h
      split at h
      · cases h
        nofun
      · obtain ⟨_, -, h⟩ := Option.bind_eq_some_iff.1 h
        obtain ⟨_, -, h⟩ := Option.bind_eq_some_iff.1 h
        obtain ⟨_, hv, h⟩ := Option.bind_eq_some_iff.1 h
        have hv := hvalue _ _ _ _ hv
        split at h
        · cases h
          exact List.forall_mem_singleton.2 hv
        · obtain ⟨_, hrest, heq⟩ := Option.map_eq_some_iff.1 h
          cases heq
          exact List.forall_mem_cons.2 ⟨hv, hpairs _ _ _ _ _ hrest⟩
        · cases h

/-! ### Documents -/

theorem wellKeyed_scanStatement {cs left : List Char} {statement? : Option Statement}
    (h : scanStatement cs = some (statement?, left)) : ∀ s ∈ statement?, s.WellKeyed := by
  unfold scanStatement at h
  split at h
  · obtain ⟨_, -, heq⟩ := Option.map_eq_some_iff.1 h
    cases heq
    nofun
  · cases h
    nofun
  · cases h
    nofun
  · obtain ⟨_, -, h⟩ := Option.bind_eq_some_iff.1 h
    obtain ⟨_, -, h⟩ := Option.bind_eq_some_iff.1 h
    obtain ⟨_, -, h⟩ := Option.bind_eq_some_iff.1 h
    obtain ⟨_, -, heq⟩ := Option.map_eq_some_iff.1 h
    cases heq
    rintro _ ⟨⟩
    trivial
  · obtain ⟨_, -, h⟩ := Option.bind_eq_some_iff.1 h
    obtain ⟨_, -, h⟩ := Option.bind_eq_some_iff.1 h
    obtain ⟨_, -, heq⟩ := Option.map_eq_some_iff.1 h
    cases heq
    rintro _ ⟨⟩
    trivial
  · obtain ⟨_, -, h⟩ := Option.bind_eq_some_iff.1 h
    obtain ⟨_, -, h⟩ := Option.bind_eq_some_iff.1 h
    obtain ⟨_, hv, h⟩ := Option.bind_eq_some_iff.1 h
    obtain ⟨_, -, heq⟩ := Option.map_eq_some_iff.1 h
    cases heq
    rintro _ ⟨⟩
    exact (wellKeyed_scan _).1 _ _ _ _ hv

theorem wellKeyed_scanStatements {allowance : Nat} {cs : List Char} {statements : List Statement}
    (h : scanStatements allowance cs = some statements) : ∀ s ∈ statements, s.WellKeyed := by
  induction allowance generalizing cs statements with
  | zero => cases h
  | succ allowance ih =>
    rw [scanStatements] at h
    split at h
    · cases h
      nofun
    · obtain ⟨_, hfirst, h⟩ := Option.bind_eq_some_iff.1 h
      obtain ⟨_, hrest, rfl⟩ := Option.map_eq_some_iff.1 h
      refine List.forall_mem_append.2 ⟨fun s hs => ?_, ih hrest⟩
      exact wellKeyed_scanStatement hfirst s (by simpa using hs)

/-- **No table of a document has a key twice**, neither the document itself nor a table
within it. -/
theorem wellKeyed_parse {s : String} {entries : List (String × Value)}
    (h : parse? s = some entries) : (Value.table entries).WellKeyed := by
  obtain ⟨_, hscan, hdocument⟩ := Option.bind_eq_some_iff.1 h
  exact wellKeyed_documentOfStatements (wellKeyed_scanStatements hscan) hdocument

end GuardCost.Toml
