/-
GuardCost/Proofs/Walks.lean

What a walk depends on.  Times aside, a file system is the function `node?`
from locations to nodes, and a walk looks at that function only at the few
locations in `looked`:

    fs' = fs on fs.looked links here todo
      →  fs'.walk … = fs.walk …  and  fs'.looked … = fs.looked …   (walk_congr)

`walk_snoc` and `walk_of_snoc` take the last name of a walk apart, and
`looked_made` says that making a directory draws no walk to it elsewhere.
-/
import GuardCost.Machine.Command
import Mathlib.Data.Set.Insert

namespace GuardCost

/-! ### Nodes without times -/

/-- A node without the time of its last change. -/
def Node.timeless : Node → Node
  | .file content rights _ => .file content rights 0
  | .directory _ => .directory 0
  | node => node

/-- Whether a part of a path is the name of a file. -/
structure IsName (part : Bytes) : Prop where
  ne_nil : part ≠ []
  ne_dot : part ≠ [Bytes.dot]
  ne_dots : part ≠ [Bytes.dot, Bytes.dot]

instance (part : Bytes) : Decidable (IsName part) :=
  decidable_of_iff (part ≠ [] ∧ part ≠ [Bytes.dot] ∧ part ≠ [Bytes.dot, Bytes.dot])
    ⟨fun h => ⟨h.1, h.2.1, h.2.2⟩, fun h => ⟨h.ne_nil, h.ne_dot, h.ne_dots⟩⟩

namespace FileSystem

/-- What stands at a location, times aside. -/
def node? (fs : FileSystem) (loc : Location) : Option Node := (fs.lookup? loc).map Node.timeless

/-- Whether there is a directory at a location. -/
def HasDirectory (fs : FileSystem) (loc : Location) : Prop :=
  fs.node? loc = some (.directory 0)

instance (fs : FileSystem) (loc : Location) : Decidable (fs.HasDirectory loc) :=
  inferInstanceAs (Decidable (fs.node? loc = some (.directory 0)))

/-- Whether there is no link at a location. -/
def HasNoLink (fs : FileSystem) (loc : Location) : Prop :=
  ∀ target, fs.node? loc ≠ some (.link target)

/-! ### The table -/

theorem lookup_filter_ne (entries : List (Location × Node)) {loc loc' : Location}
    (h : loc' ≠ loc) : (entries.filter fun entry => entry.1 != loc).lookup loc' =
      entries.lookup loc' := by
  induction entries with
  | nil => rfl
  | cons entry rest ih =>
    obtain ⟨key, node⟩ := entry
    by_cases hkey : key = loc
    · subst hkey
      have hne : (loc' == key) = false := by simpa using h
      rw [List.filter_cons_of_neg (by simp), ih, List.lookup_cons, hne]
    · rw [List.filter_cons_of_pos (by simpa using hkey), List.lookup_cons, List.lookup_cons, ih]

theorem lookup_filter_self (entries : List (Location × Node)) (loc : Location) :
    (entries.filter fun entry => entry.1 != loc).lookup loc = none := by
  rw [List.lookup_eq_none_iff]
  intro entry h
  have := (List.mem_filter.1 h).2
  simpa using fun h' => by simp [h'] at this

variable (fs : FileSystem)

theorem node?_root : fs.node? [] = some (.directory 0) := rfl

theorem node?_insert_self {loc : Location} (hloc : loc ≠ []) (node : Node) :
    (fs.insert loc node).node? loc = some node.timeless := by
  rw [node?, lookup?, if_neg hloc, insert, List.lookup_cons_self]
  rfl

theorem node?_insert_ne {loc loc' : Location} (h : loc' ≠ loc) (node : Node) :
    (fs.insert loc node).node? loc' = fs.node? loc' := by
  have hne : (loc' == loc) = false := by simpa using h
  rw [node?, node?, lookup?, lookup?, insert, List.lookup_cons, hne,
    lookup_filter_ne fs.entries h]

theorem node?_erase_self {loc : Location} (hloc : loc ≠ []) : (fs.erase loc).node? loc = none := by
  rw [node?, lookup?, if_neg hloc, erase, restrict, lookup_filter_self]
  rfl

theorem node?_erase_ne {loc loc' : Location} (h : loc' ≠ loc) :
    (fs.erase loc).node? loc' = fs.node? loc' := by
  rw [node?, node?, lookup?, lookup?, erase, restrict, lookup_filter_ne fs.entries h]

/-- What stands somewhere below the root is in the table. -/
theorem mem_entries_of_node? {fs : FileSystem} {loc : Location} {node : Node} (hloc : loc ≠ [])
    (h : fs.node? loc = some node) : ∃ node', (loc, node') ∈ fs.entries ∧ node'.timeless = node := by
  rw [node?, lookup?, if_neg hloc] at h
  obtain ⟨node', hlookup, htimes⟩ := Option.map_eq_some_iff.1 h
  refine ⟨node', ?_, htimes⟩
  obtain ⟨before, after, hentries, -⟩ := List.lookup_eq_some_iff.1 hlookup
  rw [hentries]
  simp

/-- A table without links. -/
theorem hasNoLink_of_entries {fs : FileSystem}
    (h : ∀ entry ∈ fs.entries, ∀ target, entry.2 ≠ .link target) (loc : Location) :
    fs.HasNoLink loc := by
  intro target hlink
  by_cases hloc : loc = []
  · subst hloc
    rw [node?_root] at hlink
    cases hlink
  · obtain ⟨node, hmem, htimes⟩ := mem_entries_of_node? hloc hlink
    cases node with
    | link target' => exact h _ hmem target' rfl
    | _ => cases htimes

/-- A change that is noted in a directory is one of times only. -/
theorem node?_touchDirectory {loc : Location} (hd : fs.HasDirectory loc) (now : Time)
    (loc' : Location) : (fs.touchDirectory loc now).node? loc' = fs.node? loc' := by
  unfold touchDirectory
  split
  · rfl
  · next hloc =>
    by_cases h : loc' = loc
    · subst h
      rw [node?_insert_self fs hloc, hd]
      rfl
    · exact node?_insert_ne fs h _

/-! ### Steps of a walk -/

/-- Where the target of a link is looked for. -/
def linkStart (here : Location) (target : Bytes) : Location :=
  if target.head? = some Bytes.slash then [] else here

theorem walk_nil (fl : Bool) (n : Nat) (here : Location) : fs.walk fl n here [] = .ok here := by
  rw [walk]

theorem walk_skip (fl : Bool) (n : Nat) (here : Location) {part : Bytes} (rest : List Bytes)
    (h : part = [] ∨ part = [Bytes.dot]) :
    fs.walk fl n here (part :: rest) = fs.walk fl n here rest := by
  rw [walk, if_pos h]

theorem walk_up (fl : Bool) (n : Nat) (here : Location) (rest : List Bytes) :
    fs.walk fl n here ([Bytes.dot, Bytes.dot] :: rest) = fs.walk fl n here.dropLast rest := by
  rw [walk, if_neg (by decide), if_pos rfl]

/-- A step of a walk to a name. -/
theorem walk_name (fl : Bool) (n : Nat) (here : Location) {part : Bytes} (rest : List Bytes)
    (h : IsName part) :
    fs.walk fl n here (part :: rest) =
      if longestName < part.length then .error .nameTooLong
      else match fs.node? (here ++ [part]) with
        | none => if rest = [] then .ok (here ++ [part]) else .error .notFound
        | some (.directory _) => fs.walk fl n (here ++ [part]) rest
        | some (.file ..) => if rest = [] then .ok (here ++ [part]) else .error .notDirectory
        | some (.device _) => if rest = [] then .ok (here ++ [part]) else .error .notDirectory
        | some (.link target) =>
          if rest = [] ∧ !fl then .ok (here ++ [part])
          else match n with
            | 0 => .error .linkLoop
            | n + 1 => fs.walk fl n (linkStart here target) (partsAt Bytes.slash target ++ rest) := by
  have hskip : ¬(part = [] ∨ part = [Bytes.dot]) := fun hp => hp.elim h.ne_nil h.ne_dot
  rw [walk, if_neg hskip, if_neg h.ne_dots, node?]
  split
  · rfl
  · dsimp only
    cases fs.lookup? (here ++ [part]) with
    | none => rfl
    | some node => cases node <;> rfl

/-- A walk goes into a directory that is named. -/
theorem walk_into (fl : Bool) (n : Nat) {here : Location} {part : Bytes} (rest : List Bytes)
    (h : IsName part) (hlong : part.length ≤ longestName)
    (hd : fs.HasDirectory (here ++ [part])) :
    fs.walk fl n here (part :: rest) = fs.walk fl n (here ++ [part]) rest := by
  rw [walk_name fs fl n here rest h, if_neg (Nat.not_lt.2 hlong), hd]

/-- A walk goes on with the target of a link, unless it ends there and follows none. -/
theorem walk_link {fl : Bool} (n : Nat) {here : Location} {part target : Bytes}
    {rest : List Bytes} (h : IsName part) (hlong : part.length ≤ longestName)
    (hlink : fs.node? (here ++ [part]) = some (.link target)) (hgo : ¬(rest = [] ∧ !fl)) :
    fs.walk fl (n + 1) here (part :: rest) =
      fs.walk fl n (linkStart here target) (partsAt Bytes.slash target ++ rest) := by
  rw [walk_name fs fl (n + 1) here rest h, if_neg (Nat.not_lt.2 hlong), hlink]
  exact if_neg hgo

/-- The locations that a walk looks at; it follows every link. -/
def looked (links : Nat) (here : Location) (todo : List Bytes) : List Location :=
  match todo with
  | [] => [here]
  | part :: rest =>
    if part = [] ∨ part = [Bytes.dot] then looked links here rest
    else if part = [Bytes.dot, Bytes.dot] then looked links here.dropLast rest
    else if longestName < part.length then []
    else (here ++ [part]) :: match fs.node? (here ++ [part]) with
      | some (.directory _) => looked links (here ++ [part]) rest
      | some (.link target) =>
        match links with
        | 0 => []
        | links + 1 => looked links (linkStart here target) (partsAt Bytes.slash target ++ rest)
      | _ => []
termination_by (links, todo.length)

theorem looked_nil (n : Nat) (here : Location) : fs.looked n here [] = [here] := by
  rw [looked]

theorem looked_skip (n : Nat) (here : Location) {part : Bytes} (rest : List Bytes)
    (h : part = [] ∨ part = [Bytes.dot]) :
    fs.looked n here (part :: rest) = fs.looked n here rest := by
  rw [looked, if_pos h]

theorem looked_up (n : Nat) (here : Location) (rest : List Bytes) :
    fs.looked n here ([Bytes.dot, Bytes.dot] :: rest) = fs.looked n here.dropLast rest := by
  rw [looked, if_neg (by decide), if_pos rfl]

theorem looked_name (n : Nat) (here : Location) {part : Bytes} (rest : List Bytes)
    (h : IsName part) :
    fs.looked n here (part :: rest) =
      if longestName < part.length then []
      else (here ++ [part]) :: match fs.node? (here ++ [part]) with
        | some (.directory _) => fs.looked n (here ++ [part]) rest
        | some (.link target) =>
          match n with
          | 0 => []
          | n + 1 => fs.looked n (linkStart here target) (partsAt Bytes.slash target ++ rest)
        | _ => [] := by
  have hskip : ¬(part = [] ∨ part = [Bytes.dot]) := fun hp => hp.elim h.ne_nil h.ne_dot
  rw [looked, if_neg hskip, if_neg h.ne_dots]

/-- Induction along walks: a name leads on into a directory, or to the target
of a link with one link less to go. -/
theorem walk_induction {motive : Nat → Location → List Bytes → Prop}
    (nil : ∀ n here, motive n here [])
    (skip : ∀ n here part rest, part = [] ∨ part = [Bytes.dot] →
      motive n here rest → motive n here (part :: rest))
    (up : ∀ n here rest, motive n here.dropLast rest →
      motive n here ([Bytes.dot, Bytes.dot] :: rest))
    (name : ∀ n here part rest, IsName part → motive n (here ++ [part]) rest →
      (∀ m target, n = m + 1 →
        motive m (linkStart here target) (partsAt Bytes.slash target ++ rest)) →
      motive n here (part :: rest)) (n : Nat) (here : Location) (todo : List Bytes) :
    motive n here todo := by
  induction n generalizing here todo with
  | zero =>
    induction todo generalizing here with
    | nil => exact nil 0 here
    | cons part rest ih =>
      by_cases hskip : part = [] ∨ part = [Bytes.dot]
      · exact skip 0 here part rest hskip (ih here)
      · by_cases hup : part = [Bytes.dot, Bytes.dot]
        · subst hup
          exact up 0 here rest (ih _)
        · rw [not_or] at hskip
          refine name 0 here part rest ⟨hskip.1, hskip.2, hup⟩ (ih _) ?_
          intro m target hm
          cases hm
  | succ n ihn =>
    induction todo generalizing here with
    | nil => exact nil (n + 1) here
    | cons part rest ih =>
      by_cases hskip : part = [] ∨ part = [Bytes.dot]
      · exact skip (n + 1) here part rest hskip (ih here)
      · by_cases hup : part = [Bytes.dot, Bytes.dot]
        · subst hup
          exact up (n + 1) here rest (ih _)
        · rw [not_or] at hskip
          refine name (n + 1) here part rest ⟨hskip.1, hskip.2, hup⟩ (ih _) ?_
          intro m target hm
          obtain rfl : n = m := Nat.succ.inj hm
          exact ihn _ _

theorem hasDirectory_of_node? {fs : FileSystem} {loc : Location} {t : Time}
    (h : fs.node? loc = some (.directory t)) : fs.HasDirectory loc := by
  obtain ⟨node, hnode, ht⟩ := Option.map_eq_some_iff.1 h
  cases node with
  | directory modified => exact congrArg (Option.map Node.timeless) hnode
  | _ => cases ht

/-- How a walk gets past a name: it ends there, or there is a directory to go
on from, or a link to follow. -/
theorem walk_name_cases {fs : FileSystem} {fl : Bool} {n : Nat} {here : Location} {part : Bytes}
    {rest : List Bytes} {loc : Location} (hp : IsName part)
    (h : fs.walk fl n here (part :: rest) = .ok loc) :
    part.length ≤ longestName ∧
      ((rest = [] ∧ loc = here ++ [part] ∧ ¬ fs.HasDirectory (here ++ [part])) ∨
        (fs.HasDirectory (here ++ [part]) ∧ fs.walk fl n (here ++ [part]) rest = .ok loc) ∨
        ∃ m target, n = m + 1 ∧ fs.node? (here ++ [part]) = some (.link target) ∧
          fs.walk fl m (linkStart here target) (partsAt Bytes.slash target ++ rest) = .ok loc) := by
  rw [walk_name fs fl n here rest hp] at h
  have hend : ∀ {e : SystemError}, (if rest = [] then Except.ok (here ++ [part])
      else .error e) = .ok loc → rest = [] ∧ loc = here ++ [part] := by
    intro e he
    split at he
    · next hrest => exact ⟨hrest, (Except.ok.inj he).symm⟩
    · cases he
  split at h
  · cases h
  · next hlong =>
    refine ⟨Nat.not_lt.1 hlong, ?_⟩
    unfold HasDirectory
    cases hn : fs.node? (here ++ [part]) with
    | none =>
      rw [hn] at h
      exact .inl ⟨(hend h).1, (hend h).2, by simp⟩
    | some node =>
      rw [hn] at h
      cases node with
      | file content rights modified => exact .inl ⟨(hend h).1, (hend h).2, by simp⟩
      | device device => exact .inl ⟨(hend h).1, (hend h).2, by simp⟩
      | directory modified => exact .inr (.inl ⟨hn ▸ hasDirectory_of_node? hn, h⟩)
      | link target =>
        dsimp only at h
        split at h
        · next hlast => exact .inl ⟨hlast.1, (Except.ok.inj h).symm, by simp⟩
        · cases n with
          | zero => cases h
          | succ m => exact .inr (.inr ⟨m, target, rfl, rfl, h⟩)

/-! ### What a walk depends on -/

/-- File systems that agree where one of them is looked at give the same
walks. -/
theorem walk_congr {fs fs' : FileSystem} (fl : Bool) {n : Nat} {here : Location}
    {todo : List Bytes} (h : ∀ loc ∈ fs.looked n here todo, fs'.node? loc = fs.node? loc) :
    fs'.walk fl n here todo = fs.walk fl n here todo ∧
      fs'.looked n here todo = fs.looked n here todo := by
  induction n, here, todo using walk_induction with
  | nil n here =>
    rw [walk_nil, walk_nil, looked_nil, looked_nil]
    exact ⟨rfl, rfl⟩
  | skip n here part rest hp ih =>
    rw [walk_skip fs' fl n here rest hp, walk_skip fs fl n here rest hp,
      looked_skip fs' n here rest hp, looked_skip fs n here rest hp]
    rw [looked_skip fs n here rest hp] at h
    exact ih h
  | up n here rest ih =>
    rw [walk_up, walk_up, looked_up, looked_up]
    rw [looked_up] at h
    exact ih h
  | name n here part rest hp ihd ihl =>
    rw [walk_name fs' fl n here rest hp, walk_name fs fl n here rest hp,
      looked_name fs' n here rest hp, looked_name fs n here rest hp]
    rw [looked_name fs n here rest hp] at h
    by_cases hlong : longestName < part.length
    · rw [if_pos hlong, if_pos hlong, if_pos hlong, if_pos hlong]
      exact ⟨rfl, rfl⟩
    · simp only [if_neg hlong] at h ⊢
      rw [h _ List.mem_cons_self]
      cases hn : fs.node? (here ++ [part]) with
      | none => exact ⟨rfl, rfl⟩
      | some node =>
        rw [hn] at h
        cases node with
        | file content rights modified => exact ⟨rfl, rfl⟩
        | device device => exact ⟨rfl, rfl⟩
        | directory modified =>
          obtain ⟨hw, hk⟩ := ihd fun loc hloc => h loc (List.mem_cons_of_mem _ hloc)
          exact ⟨hw, congrArg _ hk⟩
        | link target =>
          cases n with
          | zero => exact ⟨rfl, rfl⟩
          | succ m =>
            obtain ⟨hw, hk⟩ := ihl m target rfl fun loc hloc => h loc (List.mem_cons_of_mem _ hloc)
            dsimp only
            rw [hw, hk]
            exact ⟨rfl, rfl⟩

/-- A walk ends where it looks. -/
theorem mem_looked_of_walk {fs : FileSystem} {fl : Bool} {n : Nat} {here : Location}
    {todo : List Bytes} {loc : Location} (h : fs.walk fl n here todo = .ok loc) :
    loc ∈ fs.looked n here todo := by
  induction n, here, todo using walk_induction with
  | nil n here =>
    rw [walk_nil] at h
    rw [looked_nil]
    cases h
    exact List.mem_singleton.2 rfl
  | skip n here part rest hp ih =>
    rw [walk_skip fs fl n here rest hp] at h
    rw [looked_skip fs n here rest hp]
    exact ih h
  | up n here rest ih =>
    rw [walk_up] at h
    rw [looked_up]
    exact ih h
  | name n here part rest hp ihd ihl =>
    obtain ⟨hlen, ⟨-, rfl, -⟩ | ⟨hd, hw⟩ | ⟨m, target, rfl, hl, hw⟩⟩ := walk_name_cases hp h
    all_goals rw [looked_name fs _ here rest hp, if_neg (Nat.not_lt.2 hlen)]
    · exact List.mem_cons_self
    · rw [hd]
      exact List.mem_cons_of_mem _ (ihd hw)
    · rw [hl]
      exact List.mem_cons_of_mem _ (ihl m target rfl hw)

/-- On the way to a directory there is something wherever a walk looks. -/
theorem exists_of_mem_looked {fs : FileSystem} {n : Nat} {here : Location} {todo : List Bytes}
    {R : Location} (h : fs.walk true n here todo = .ok R) (hd : fs.HasDirectory R) :
    ∀ loc ∈ fs.looked n here todo, fs.node? loc ≠ none := by
  induction n, here, todo using walk_induction with
  | nil n here =>
    rw [walk_nil] at h
    cases h
    rw [looked_nil]
    rintro loc hloc
    rw [List.mem_singleton.1 hloc, hd]
    exact Option.some_ne_none _
  | skip n here part rest hp ih =>
    rw [walk_skip fs true n here rest hp] at h
    rw [looked_skip fs n here rest hp]
    exact ih h
  | up n here rest ih =>
    rw [walk_up] at h
    rw [looked_up]
    exact ih h
  | name n here part rest hp ihd ihl =>
    obtain ⟨hlen, ⟨-, rfl, hnd⟩ | ⟨hd', hw⟩ | ⟨m, target, rfl, hl, hw⟩⟩ := walk_name_cases hp h
    · exact absurd hd hnd
    · rw [looked_name fs _ here rest hp, if_neg (Nat.not_lt.2 hlen), hd']
      rintro loc hloc
      rcases List.mem_cons.1 hloc with rfl | hloc
      · rw [hd']
        exact Option.some_ne_none _
      · exact ihd hw loc hloc
    · rw [looked_name fs _ here rest hp, if_neg (Nat.not_lt.2 hlen), hl]
      rintro loc hloc
      rcases List.mem_cons.1 hloc with rfl | hloc
      · rw [hl]
        exact Option.some_ne_none _
      · exact ihl m target rfl hw loc hloc

/-! ### The last name of a walk -/

/-- A walk goes on from the directory that the walk before it gets to. -/
theorem walk_snoc {fs : FileSystem} {n : Nat} {here : Location} {xs : List Bytes} {R : Location}
    (hR : fs.walk true n here xs = .ok R) (hd : fs.HasDirectory R) {part : Bytes}
    (hp : IsName part) {fl : Bool} (hl : fl = true → fs.HasNoLink (R ++ [part])) :
    fs.walk fl n here (xs ++ [part]) =
      if longestName < part.length then .error .nameTooLong else .ok (R ++ [part]) := by
  induction n, here, xs using walk_induction with
  | nil n here =>
    obtain rfl : here = R := Except.ok.inj ((walk_nil fs true n here).symm.trans hR)
    rw [List.nil_append, walk_name fs fl n here [] hp]
    split
    · rfl
    · cases hn : fs.node? (here ++ [part]) with
      | none => rfl
      | some node =>
        cases node with
        | file content rights modified => rfl
        | device device => rfl
        | directory modified => exact walk_nil fs fl n _
        | link target =>
          cases fl with
          | false => rfl
          | true => exact absurd hn (hl rfl target)
  | skip n here p rest hs ih =>
    rw [walk_skip fs true n here rest hs] at hR
    rw [List.cons_append, walk_skip fs fl n here _ hs]
    exact ih hR
  | up n here rest ih =>
    rw [walk_up] at hR
    rw [List.cons_append, walk_up]
    exact ih hR
  | name n here p rest hs ihd ihl =>
    obtain ⟨hlen, ⟨-, rfl, hnd⟩ | ⟨hd', hw⟩ | ⟨m, target, rfl, hl', hw⟩⟩ := walk_name_cases hs hR
    · exact absurd hd hnd
    · rw [List.cons_append, walk_into fs fl n _ hs hlen hd']
      exact ihd hw
    · rw [List.cons_append, walk_link fs m hs hlen hl' (by simp), ← List.append_assoc]
      exact ihl m target rfl hw

theorem walk_last {fs : FileSystem} {n : Nat} {here : Location} {part : Bytes} (hp : IsName part)
    (hlong : part.length ≤ longestName) : fs.walk false n here [part] = .ok (here ++ [part]) := by
  rw [walk_name fs false n here [] hp, if_neg (Nat.not_lt.2 hlong)]
  cases hnode : fs.node? (here ++ [part]) with
  | none => rfl
  | some node =>
    cases node with
    | directory t => exact walk_nil fs false n _
    | _ => rfl

/-- A walk gets to its last name through the walk before it. -/
theorem walk_of_snoc {fs : FileSystem} {n : Nat} {here : Location} {xs : List Bytes}
    {part : Bytes} (hp : IsName part) {fl : Bool} {loc : Location}
    (h : fs.walk fl n here (xs ++ [part]) = .ok loc) :
    ∃ R, fs.walk true n here xs = .ok R ∧
      ((fl = true → fs.HasNoLink (R ++ [part])) → loc = R ++ [part]) := by
  induction n, here, xs using walk_induction with
  | nil n here =>
    refine ⟨here, walk_nil fs true n here, fun hl => ?_⟩
    obtain ⟨hlong, ⟨-, hloc, -⟩ | ⟨-, hw⟩ | ⟨m, target, -, hl', -⟩⟩ := walk_name_cases hp h
    · exact hloc
    · rw [walk_nil] at hw
      exact (Except.ok.inj hw).symm
    · -- only a walk that is to follow it gets past a link at its end
      cases fl with
      | true => exact absurd hl' (hl rfl target)
      | false =>
        rw [List.nil_append, walk_last hp hlong] at h
        exact (Except.ok.inj h).symm
  | skip n here p rest hs ih =>
    rw [List.cons_append, walk_skip fs fl n here _ hs] at h
    rw [walk_skip fs true n here rest hs]
    exact ih h
  | up n here rest ih =>
    rw [List.cons_append, walk_up] at h
    rw [walk_up]
    exact ih h
  | name n here p rest hs ihd ihl =>
    rw [List.cons_append] at h
    obtain ⟨hlen, ⟨hnil, -⟩ | ⟨hd, hw⟩ | ⟨m, target, rfl, hl, hw⟩⟩ := walk_name_cases hs h
    · exact absurd hnil (by simp)
    · rw [walk_into fs true n rest hs hlen hd]
      exact ihd hw
    · rw [walk_link fs m hs hlen hl (by simp)]
      rw [← List.append_assoc] at hw
      exact ihl m target rfl hw

/-- A directory that is made where there was nothing is walked to without
looking anywhere else. -/
theorem looked_made {fs fs' : FileSystem} {n : Nat} {here : Location} {xs : List Bytes}
    {R : Location} (hR : fs.walk true n here xs = .ok R) (hd : fs.HasDirectory R) {part : Bytes}
    (hp : IsName part) (hfree : fs.node? (R ++ [part]) = none)
    (hsame : ∀ loc, loc ≠ R ++ [part] → fs'.node? loc = fs.node? loc)
    (hmade : fs'.HasDirectory (R ++ [part])) :
    fs'.looked n here (xs ++ [part]) ⊆ fs.looked n here (xs ++ [part]) := by
  induction n, here, xs using walk_induction with
  | nil n here =>
    obtain rfl : here = R := Except.ok.inj ((walk_nil fs true n here).symm.trans hR)
    rw [List.nil_append, looked_name fs' n here [] hp, looked_name fs n here [] hp, hmade, hfree]
    split
    · exact List.Subset.refl _
    · simp [looked_nil]
  | skip n here p rest hs ih =>
    rw [walk_skip fs true n here rest hs] at hR
    rw [List.cons_append, looked_skip fs' n here _ hs, looked_skip fs n here _ hs]
    exact ih hR
  | up n here rest ih =>
    rw [walk_up] at hR
    rw [List.cons_append, looked_up, looked_up]
    exact ih hR
  | name n here p rest hs ihd ihl =>
    -- what is walked through is not what is made
    have hother : ∀ node, fs.node? (here ++ [p]) = some node → here ++ [p] ≠ R ++ [part] := by
      intro node hn heq
      rw [heq, hfree] at hn
      cases hn
    obtain ⟨hlen, ⟨-, rfl, hnd⟩ | ⟨hd', hw⟩ | ⟨m, target, rfl, hl, hw⟩⟩ := walk_name_cases hs hR
    · exact absurd hd hnd
    · rw [List.cons_append, looked_name fs' n here _ hs, looked_name fs n here _ hs,
        if_neg (Nat.not_lt.2 hlen), if_neg (Nat.not_lt.2 hlen), hsame _ (hother _ hd'), hd']
      exact List.cons_subset_cons _ (ihd hw)
    · rw [List.cons_append, looked_name fs' _ here _ hs, looked_name fs _ here _ hs,
        if_neg (Nat.not_lt.2 hlen), if_neg (Nat.not_lt.2 hlen), hsame _ (hother _ hl), hl]
      dsimp only
      rw [← List.append_assoc]
      exact List.cons_subset_cons _ (ihl m target rfl hw)

/-! ### Walks without links -/

/-- Where a part of a path leads if it names no link. -/
def partStep (here : Location) (part : Bytes) : Location :=
  if part = [] ∨ part = [Bytes.dot] then here
  else if part = [Bytes.dot, Bytes.dot] then here.dropLast
  else here ++ [part]

theorem partStep_name (here : Location) {part : Bytes} (h : IsName part) :
    partStep here part = here ++ [part] := by
  rw [partStep, if_neg fun hp => hp.elim h.ne_nil h.ne_dot, if_neg h.ne_dots]

/-- A walk through directories gets to the last one. -/
theorem walk_directories {fs : FileSystem} {fl : Bool} {n : Nat} {here : Location}
    {todo : List Bytes} (hnames : ∀ part ∈ todo, IsName part ∧ part.length ≤ longestName)
    (hdirs : ∀ loc ∈ todo.scanl partStep here, fs.HasDirectory loc) :
    fs.walk fl n here todo = .ok (todo.foldl partStep here) := by
  induction todo generalizing here with
  | nil => exact walk_nil fs fl n here
  | cons part rest ih =>
    obtain ⟨hp, hlen⟩ := hnames part List.mem_cons_self
    rw [List.scanl_cons, partStep_name here hp] at hdirs
    have hd : fs.HasDirectory (here ++ [part]) :=
      hdirs _ (List.mem_cons_of_mem _ (by cases rest <;> simp))
    rw [walk_into fs fl n rest hp hlen hd, List.foldl_cons, partStep_name here hp]
    exact ih (fun part hpart => hnames part (List.mem_cons_of_mem _ hpart))
      fun loc hloc => hdirs loc (List.mem_cons_of_mem _ hloc)

/-- Without links a walk takes one part after the other. -/
theorem walk_linkless {fs : FileSystem} (hl : ∀ loc, fs.HasNoLink loc) {fl : Bool} {n : Nat}
    {here : Location} {todo : List Bytes} {loc : Location}
    (h : fs.walk fl n here todo = .ok loc) : loc = todo.foldl partStep here := by
  induction n, here, todo using walk_induction with
  | nil n here =>
    rw [walk_nil] at h
    exact (Except.ok.inj h).symm
  | skip n here part rest hp ih =>
    rw [walk_skip fs fl n here rest hp] at h
    rw [List.foldl_cons, partStep, if_pos hp]
    exact ih h
  | up n here rest ih =>
    rw [walk_up] at h
    rw [List.foldl_cons, partStep, if_neg (by decide), if_pos rfl]
    exact ih h
  | name n here part rest hp ihd ihl =>
    rw [List.foldl_cons, partStep_name here hp]
    obtain ⟨-, ⟨rfl, rfl, -⟩ | ⟨-, hw⟩ | ⟨m, target, -, hlink, -⟩⟩ := walk_name_cases hp h
    · rfl
    · exact ihd hw
    · exact absurd hlink (hl _ target)

/-- Without links a walk looks nowhere but on its way. -/
theorem looked_linkless {fs : FileSystem} (hl : ∀ loc, fs.HasNoLink loc) {n : Nat}
    {here : Location} {todo : List Bytes} :
    fs.looked n here todo ⊆ todo.scanl partStep here := by
  induction n, here, todo using walk_induction with
  | nil n here => simp [looked_nil]
  | skip n here part rest hp ih =>
    rw [looked_skip fs n here rest hp, List.scanl_cons, partStep, if_pos hp]
    exact List.subset_cons_of_subset _ ih
  | up n here rest ih =>
    rw [looked_up, List.scanl_cons, partStep, if_neg (by decide), if_pos rfl]
    exact List.subset_cons_of_subset _ ih
  | name n here part rest hp ihd ihl =>
    have hhead : here ++ [part] ∈ rest.scanl partStep (here ++ [part]) := by
      cases rest <;> simp
    rw [looked_name fs n here rest hp, List.scanl_cons, partStep_name here hp]
    refine List.subset_cons_of_subset _ ?_
    split
    · exact List.nil_subset _
    · refine List.cons_subset.2 ⟨hhead, ?_⟩
      cases hn : fs.node? (here ++ [part]) with
      | none => exact List.nil_subset _
      | some node =>
        cases node with
        | file content rights modified => exact List.nil_subset _
        | device device => exact List.nil_subset _
        | directory modified => exact ihd
        | link target => exact absurd hn (hl _ target)

end FileSystem

end GuardCost
