/-
GuardCost/Proofs/SuiteDocuments.lean

Suites that are read from documents.  A typed value is written in one way only, so
each decoder of a field is the inverse of a writing (`Text`, `List`, ...), and the
fields that have been read are again a partial table, `Fields.value?`:

    f.setAll fields = ok f'  ↔  all keys are known
                                 ∧ f'.value? key = (fields.lookup key).or (f.value? key)

which needs that `fields` has no key twice (`wellKeyed_parse`).  So a table is read as
the program that it writes, with the usual values at the keys that it leaves out
(`Program.decode_table_eq_ok_iff`), and a document is read if and only if it fits
(`Registry.exists_decodePrograms_iff`).

**Main theorem** (`Registry.documents_of_tables`): which documents are suites, what
they hold, and with which kind of error the others are refused.
-/
import GuardCost.Proofs.Chains
import GuardCost.Proofs.DistinctKeys
import GuardCost.Proofs.SoundSuites
import Mathlib

namespace GuardCost

open Toml (Value Fault)

/-! ### Values of one type -/

namespace Toml

/-- A list of texts as a value. -/
def ofTexts (ss : List String) : Value := .array (ss.map .text)

/-- A number of 32 bits as a value. -/
def ofNumber (n : UInt32) : Value := .integer n.toNat

variable {v : Value}

theorem decodeText_eq_ok_iff {s : String} : decodeText v = .ok s ↔ v = .text s := by
  cases v <;> simp [decodeText]

theorem decodeBool_eq_ok_iff {b : Bool} : decodeBool v = .ok b ↔ v = .boolean b := by
  cases v <;> simp [decodeBool]

theorem decodeUInt32_eq_ok_iff {k : UInt32} : decodeUInt32 v = .ok k ↔ v = ofNumber k := by
  cases v with
  | integer n =>
    rw [decodeUInt32, ofNumber, Value.integer.injEq]
    constructor
    · intro h
      split at h
      · next hrange =>
        cases h
        have hlt : n.toNat < UInt32.size := by omega
        rw [Nat.toUInt32, UInt32.toNat_ofNat_of_lt' hlt]
        omega
      · cases h
    · rintro rfl
      have hlt := k.toNat_lt_size
      rw [if_pos ⟨by omega, by omega⟩, Int.toNat_natCast]
      exact congrArg _ UInt32.ofNat_toNat
  | _ => simp [decodeUInt32, ofNumber]

theorem ofNumber_injective : Function.Injective ofNumber := fun _ _ h =>
  UInt32.toNat_inj.1 (Int.ofNat_inj.1 (Value.integer.inj h))

/-- The numbers of 32 bits are those between 0 and 4294967295. -/
theorem exists_ofNumber_iff :
    (∃ k, v = ofNumber k) ↔ ∃ n : Int, v = .integer n ∧ 0 ≤ n ∧ n ≤ 4294967295 := by
  constructor
  · rintro ⟨k, rfl⟩
    have hlt : k.toNat < 4294967296 := k.toNat_lt_size
    exact ⟨k.toNat, rfl, by omega, by omega⟩
  · rintro ⟨n, rfl, hpos, hmost⟩
    refine ⟨UInt32.ofNat n.toNat, ?_⟩
    have hlt : n.toNat < UInt32.size := by
      show n.toNat < 4294967296
      omega
    rw [ofNumber, UInt32.toNat_ofNat_of_lt' hlt, Int.toNat_of_nonneg hpos]

/-- Items are read one for one, in their order. -/
theorem decodeAll_eq_ok_iff {α : Type} {decode : Decoder α} {vs : List Value} {xs : List α} :
    decodeAll decode vs = .ok xs ↔ List.Forall₂ (fun v x => decode v = .ok x) vs xs := by
  induction vs generalizing xs with
  | nil =>
    rw [decodeAll, List.forall₂_nil_left_iff, Except.ok.injEq, eq_comm]
  | cons v rest ih =>
    rw [decodeAll, List.forall₂_cons_left_iff]
    simp only [bind_eq_ok_iff, ih]
    constructor
    · rintro ⟨x, hx, xs', hxs, heq⟩
      cases heq
      exact ⟨x, xs', hx, hxs, rfl⟩
    · rintro ⟨x, xs', hx, hxs, rfl⟩
      exact ⟨x, hx, xs', hxs, rfl⟩

theorem decodeList_text_eq_ok_iff {ss : List String} :
    decodeList decodeText v = .ok ss ↔ v = ofTexts ss := by
  cases v with
  | array items =>
    rw [decodeList, decodeAll_eq_ok_iff, ofTexts, Value.array.injEq]
    simp only [decodeText_eq_ok_iff]
    rw [← List.forall₂_eq_eq_eq, List.forall₂_map_right_iff]
  | _ => simp [decodeList, ofTexts]

theorem ofTexts_injective : Function.Injective ofTexts := fun _ _ h =>
  List.map_injective_iff.2 (fun _ _ => Value.text.inj) (Value.array.inj h)

end Toml

/-! ### Tables of fields -/

namespace Program

open Toml

/-- What has been read, as the value at a key. -/
def Fields.value? (f : Fields) : String → Option Value
  | "name" => f.name?.map .text
  | "args" => f.arguments?.map ofTexts
  | "stack_size" => f.stackSize?.map ofNumber
  | "flags" => f.flags?.map ofTexts
  | "lto" => f.lto?.map .boolean
  | "multi_language" => f.multiLanguage?.map .boolean
  | _ => none

/-- A property of all known keys. -/
theorem forall_fieldNames_iff {P : String → Prop} : (∀ key ∈ fieldNames, P key) ↔
    P "name" ∧ P "args" ∧ P "stack_size" ∧ P "flags" ∧ P "lto" ∧ P "multi_language" := by
  simp only [fieldNames, List.forall_mem_cons, List.not_mem_nil, false_implies, implies_true,
    and_true]

/-- The values at the known keys are all that fields are. -/
theorem Fields.eq_of_value? {f f' : Fields}
    (h : ∀ key ∈ fieldNames, f.value? key = f'.value? key) : f = f' := by
  obtain ⟨hname, harguments, hstack, hflags, hlto, hlanguage⟩ := forall_fieldNames_iff.1 h
  obtain ⟨name?, arguments?, stackSize?, flags?, lto?, multiLanguage?⟩ := f
  congr 1
  · exact Option.map_injective (fun _ _ => Value.text.inj) hname
  · exact Option.map_injective ofTexts_injective harguments
  · exact Option.map_injective ofNumber_injective hstack
  · exact Option.map_injective ofTexts_injective hflags
  · exact Option.map_injective (fun _ _ => Value.boolean.inj) hlto
  · exact Option.map_injective (fun _ _ => Value.boolean.inj) hlanguage

variable {f f' : Fields} {name : String} {v : Value}

/-- A value is read into the field at its key, and the other fields stay. -/
theorem Fields.value?_of_set (h : f.set name v = .ok f') : name ∈ fieldNames ∧
    ∀ key ∈ fieldNames, f'.value? key = if key = name then some v else f.value? key := by
  unfold Fields.set at h
  split at h
  case h_7 => cases h
  all_goals
    obtain ⟨x, hx, heq⟩ := bind_eq_ok_iff.1 h
    cases heq
    refine ⟨by decide, forall_fieldNames_iff.2 ?_⟩
    simp only [decodeText_eq_ok_iff, decodeList_text_eq_ok_iff, decodeUInt32_eq_ok_iff,
      decodeBool_eq_ok_iff] at hx
    subst hx
    exact ⟨rfl, rfl, rfl, rfl, rfl, rfl⟩

/-- A value that stands at a known key of some fields can be read there. -/
theorem Fields.exists_set (hname : name ∈ fieldNames) (h : f'.value? name = some v) :
    ∃ f₁, f.set name v = .ok f₁ := by
  have hall : ∀ key ∈ fieldNames, f'.value? key = some v → ∃ f₁, f.set key v = .ok f₁ := by
    refine forall_fieldNames_iff.2 ⟨?_, ?_, ?_, ?_, ?_, ?_⟩ <;> intro h <;>
      obtain ⟨x, -, rfl⟩ := Option.map_eq_some_iff.1 h
    · exact ⟨_, bind_eq_ok_iff.2 ⟨x, decodeText_eq_ok_iff.2 rfl, rfl⟩⟩
    · exact ⟨_, bind_eq_ok_iff.2 ⟨x, decodeList_text_eq_ok_iff.2 rfl, rfl⟩⟩
    · exact ⟨_, bind_eq_ok_iff.2 ⟨x, decodeUInt32_eq_ok_iff.2 rfl, rfl⟩⟩
    · exact ⟨_, bind_eq_ok_iff.2 ⟨x, decodeList_text_eq_ok_iff.2 rfl, rfl⟩⟩
    · exact ⟨_, bind_eq_ok_iff.2 ⟨x, decodeBool_eq_ok_iff.2 rfl, rfl⟩⟩
    · exact ⟨_, bind_eq_ok_iff.2 ⟨x, decodeBool_eq_ok_iff.2 rfl, rfl⟩⟩
  exact hall name hname h

/-- Fields are read from a table without double keys: the given values take the place
of what was there. -/
theorem Fields.setAll_eq_ok_iff {fields : List (String × Value)}
    (hnodup : (fields.map Prod.fst).Nodup) : f.setAll fields = .ok f' ↔
      (∀ field ∈ fields, field.1 ∈ fieldNames) ∧
        ∀ key ∈ fieldNames, f'.value? key = (fields.lookup key).or (f.value? key) := by
  induction fields generalizing f with
  | nil =>
    rw [setAll, Except.ok.injEq]
    constructor
    · rintro rfl
      exact ⟨nofun, fun key _ => rfl⟩
    · rintro ⟨-, h⟩
      exact (eq_of_value? h).symm
  | cons field rest ih =>
    obtain ⟨name, v⟩ := field
    rw [List.map_cons, List.nodup_cons] at hnodup
    have hrest : rest.lookup name = none := by
      refine List.lookup_eq_none_iff.2 fun field hfield => ?_
      have hne : name ≠ field.1 := by
        rintro rfl
        exact hnodup.1 (List.mem_map.2 ⟨field, hfield, rfl⟩)
      simpa using hne
    -- the first entry takes its place before the rest, which leaves it there
    have hvalue : ∀ key, (rest.lookup key).or (if key = name then some v else f.value? key) =
        (((name, v) :: rest).lookup key).or (f.value? key) := by
      intro key
      by_cases hkey : key = name
      · rw [hkey, hrest, List.lookup_cons_self, if_pos rfl]
        rfl
      · rw [List.lookup_cons, beq_false_of_ne hkey, if_neg hkey]
    rw [setAll, List.forall_mem_cons, bind_eq_ok_iff]
    simp only [ih hnodup.2]
    constructor
    · rintro ⟨f₁, hset, hknown, hvalues⟩
      obtain ⟨hname, hset⟩ := value?_of_set hset
      refine ⟨⟨hname, hknown⟩, fun key hkey => ?_⟩
      rw [hvalues key hkey, hset key hkey, hvalue]
    · rintro ⟨⟨hname, hknown⟩, hvalues⟩
      have hthere : f'.value? name = some v := by
        rw [hvalues name hname, List.lookup_cons_self]
        rfl
      obtain ⟨f₁, hset⟩ := exists_set (f := f) hname hthere
      refine ⟨f₁, hset, hknown, fun key hkey => ?_⟩
      rw [hvalues key hkey, (value?_of_set hset).2 key hkey, hvalue]

/-! ### Programs -/

/-- A table writes a program: it has no unknown key, and at each key the value of the
program, or nothing and the program the usual value. -/
structure Writes (fields : List (String × Value)) (p : Program) : Prop where
  known : ∀ field ∈ fields, field.1 ∈ fieldNames
  name : fields.lookup "name" = some (.text p.name)
  arguments : (fields.lookup "args").getD (ofTexts []) = ofTexts p.arguments
  stackSize : (fields.lookup "stack_size").getD (ofNumber 16384) = ofNumber p.stackSize
  flags : (fields.lookup "flags").getD (ofTexts []) = ofTexts p.flags
  lto : (fields.lookup "lto").getD (.boolean true) = .boolean p.lto
  multiLanguage : (fields.lookup "multi_language").getD (.boolean false) =
    .boolean p.multiLanguage

/-- What a table must hold to write a program. -/
structure Fits (fields : List (String × Value)) : Prop where
  known : ∀ field ∈ fields, field.1 ∈ fieldNames
  name : ∃ s, fields.lookup "name" = some (.text s)
  arguments : ∀ v, fields.lookup "args" = some v → ∃ ss, v = ofTexts ss
  stackSize : ∀ v, fields.lookup "stack_size" = some v →
    ∃ n : Int, v = .integer n ∧ 0 ≤ n ∧ n ≤ 4294967295
  flags : ∀ v, fields.lookup "flags" = some v → ∃ ss, v = ofTexts ss
  lto : ∀ v, fields.lookup "lto" = some v → ∃ b, v = .boolean b
  multiLanguage : ∀ v, fields.lookup "multi_language" = some v → ∃ b, v = .boolean b

section
variable {α : Type} {write : α → Value} {v? : Option Value} {usual x : α}

/-- A field that is left out where the usual value is meant. -/
theorem field_of_getD (hwrite : Function.Injective write)
    (h : v?.getD (write usual) = write x) :
    (v?.map fun _ => x).map write = v? ∧ (v?.map fun _ => x).getD usual = x := by
  cases v? with
  | none => exact ⟨rfl, hwrite h⟩
  | some v => exact ⟨congrArg some h.symm, rfl⟩

/-- There is a value for a field if what is given is one. -/
theorem exists_getD_iff : (∃ x, v?.getD (write usual) = write x) ↔
    ∀ v, v? = some v → ∃ x, v = write x := by
  cases v? with
  | none => exact ⟨fun _ => nofun, fun _ => ⟨usual, rfl⟩⟩
  | some v => exact ⟨fun h w hw => Option.some.inj hw ▸ h, fun h => h v rfl⟩

end

variable {fields : List (String × Value)} {p : Program}

theorem exists_writes_iff : (∃ p, Writes fields p) ↔ Fits fields := by
  constructor
  · rintro ⟨p, h⟩
    have hstack := exists_getD_iff.1 ⟨_, h.stackSize⟩
    exact ⟨h.known, ⟨_, h.name⟩, exists_getD_iff.1 ⟨_, h.arguments⟩,
      fun v hv => exists_ofNumber_iff.1 (hstack v hv), exists_getD_iff.1 ⟨_, h.flags⟩,
      exists_getD_iff.1 ⟨_, h.lto⟩, exists_getD_iff.1 ⟨_, h.multiLanguage⟩⟩
  · intro h
    obtain ⟨name, hname⟩ := h.name
    obtain ⟨arguments, harguments⟩ := exists_getD_iff.2 h.arguments
    obtain ⟨stackSize, hstack⟩ := exists_getD_iff.2 fun v hv =>
      exists_ofNumber_iff.2 (h.stackSize v hv)
    obtain ⟨flags, hflags⟩ := exists_getD_iff.2 h.flags
    obtain ⟨lto, hlto⟩ := exists_getD_iff.2 h.lto
    obtain ⟨multiLanguage, hlanguage⟩ := exists_getD_iff.2 h.multiLanguage
    exact ⟨⟨name, arguments, stackSize, flags, lto, multiLanguage⟩, h.known, hname, harguments,
      hstack, hflags, hlto, hlanguage⟩

/-- The fields of a program that a table gives. -/
def given (p : Program) (fields : List (String × Value)) : Fields where
  name? := some p.name
  arguments? := (fields.lookup "args").map fun _ => p.arguments
  stackSize? := (fields.lookup "stack_size").map fun _ => p.stackSize
  flags? := (fields.lookup "flags").map fun _ => p.flags
  lto? := (fields.lookup "lto").map fun _ => p.lto
  multiLanguage? := (fields.lookup "multi_language").map fun _ => p.multiLanguage

/-- A table without double keys is read as the program that it writes. -/
theorem decode_table_eq_ok_iff (hnodup : (fields.map Prod.fst).Nodup) :
    decode (.table fields) = .ok p ↔ Writes fields p := by
  have hdecode : decode (.table fields) = .ok p ↔
      ∃ f name, ({} : Fields).setAll fields = .ok f ∧ f.name? = some name ∧
        ofFields name f = p := by
    rw [decode, bind_eq_ok_iff]
    refine exists_congr fun f => ?_
    cases f.name? <;> simp
  simp only [hdecode, Fields.setAll_eq_ok_iff hnodup, forall_fieldNames_iff]
  constructor
  · rintro ⟨f, name, ⟨hknown, hname, harguments, hstack, hflags, hlto, hlanguage⟩, hf, rfl⟩
    simp only [Fields.value?, Option.map_none, Option.or_none] at *
    rw [hf] at hname
    refine ⟨hknown, hname.symm, ?_, ?_, ?_, ?_, ?_⟩
    · rw [← harguments, Option.getD_map, ofFields]
    · rw [← hstack, Option.getD_map, ofFields]
    · rw [← hflags, Option.getD_map, ofFields]
    · rw [← hlto, Option.getD_map, ofFields]
    · rw [← hlanguage, Option.getD_map, ofFields]
  · intro h
    obtain ⟨harguments, harguments'⟩ := field_of_getD ofTexts_injective h.arguments
    obtain ⟨hstack, hstack'⟩ := field_of_getD ofNumber_injective h.stackSize
    obtain ⟨hflags, hflags'⟩ := field_of_getD ofTexts_injective h.flags
    obtain ⟨hlto, hlto'⟩ := field_of_getD (fun _ _ => Value.boolean.inj) h.lto
    obtain ⟨hlanguage, hlanguage'⟩ :=
      field_of_getD (fun _ _ => Value.boolean.inj) h.multiLanguage
    refine ⟨p.given fields, p.name, ⟨h.known, ?_⟩, rfl, ?_⟩
    · simp only [Fields.value?, Option.map_none, Option.or_none]
      exact ⟨h.name.symm, harguments, hstack, hflags, hlto, hlanguage⟩
    · simp only [ofFields, given, harguments', hstack', hflags', hlto', hlanguage']

/-! ### Names and stacks -/

/-- A name that a program can have: one segment of a path that is not all blank. -/
structure NameFits (name : String) : Prop where
  not_blank : ∃ c ∈ name.toList, Text.isBlank c = false
  ne_dot : name ≠ "."
  ne_dots : name ≠ ".."
  no_slash : '/' ∉ name.toList
  no_backslash : '\\' ∉ name.toList

theorem sound_iff : p.Sound ↔ NameFits p.name ∧ p.stackSize ≠ 0 := by
  have hblank : ¬ p.HasBlankName ↔ ∃ c ∈ p.name.toList, Text.isBlank c = false := by
    simp [HasBlankName]
  constructor
  · intro h
    exact ⟨⟨hblank.1 h.not_blank, h.segment.ne_dot, h.segment.ne_dots, h.segment.no_slash,
      h.segment.no_backslash⟩, UInt32.pos_iff_ne_zero.1 h.stack_pos⟩
  · rintro ⟨h, hstack⟩
    exact ⟨hblank.2 h.not_blank, ⟨h.ne_dot, h.ne_dots, h.no_slash, h.no_backslash⟩,
      UInt32.pos_iff_ne_zero.2 hstack⟩

/-- The name in a table. -/
def nameOf? (fields : List (String × Value)) : Option String :=
  match fields.lookup "name" with
  | some (.text s) => some s
  | _ => none

/-- A table whose name and stack size a suite can hold. -/
structure Acceptable (fields : List (String × Value)) : Prop where
  name : ∀ s, nameOf? fields = some s → NameFits s
  stackSize : fields.lookup "stack_size" ≠ some (.integer 0)

theorem Writes.nameOf?_eq (h : Writes fields p) : nameOf? fields = some p.name := by
  rw [nameOf?, h.name]

theorem Writes.acceptable_iff (h : Writes fields p) : Acceptable fields ↔ p.Sound := by
  have hstack : fields.lookup "stack_size" = some (.integer 0) ↔ p.stackSize = 0 := by
    have hwritten := h.stackSize
    constructor
    · intro hzero
      rw [hzero] at hwritten
      have hwritten : ofNumber 0 = ofNumber p.stackSize := hwritten
      exact (ofNumber_injective hwritten).symm
    · intro hzero
      rw [hzero] at hwritten
      cases hlookup : fields.lookup "stack_size" with
      | none =>
        rw [hlookup] at hwritten
        exact absurd (ofNumber_injective hwritten) (by decide)
      | some v =>
        rw [hlookup] at hwritten
        exact congrArg some hwritten
  rw [sound_iff]
  constructor
  · rintro ⟨hname, hsize⟩
    exact ⟨hname p.name h.nameOf?_eq, mt hstack.2 hsize⟩
  · rintro ⟨hname, hsize⟩
    refine ⟨fun s hs => ?_, mt hstack.1 hsize⟩
    rw [h.nameOf?_eq] at hs
    exact Option.some.inj hs ▸ hname

end Program

/-! ### Documents -/

namespace Registry

open Toml

variable {entries : List (String × Value)} {tables : List (List (String × Value))}
  {programs : List Program}

/-- A document without double keys is read if it has no key but that of the programs. -/
theorem decodePrograms_eq_ok_iff (hnodup : (entries.map Prod.fst).Nodup) :
    decodePrograms [] entries = .ok programs ↔ (∀ entry ∈ entries, entry.1 = "program") ∧
      match entries.lookup "program" with
      | none => programs = []
      | some v => decodeList Program.decode v = .ok programs := by
  rcases entries with - | ⟨⟨key, v⟩, rest⟩
  · simp [decodePrograms, eq_comm]
  by_cases hkey : key = "program"
  · subst hkey
    rw [decodePrograms, if_pos (beq_self_eq_true _), List.forall_mem_cons, List.lookup_cons_self,
      and_iff_right rfl]
    rcases rest with - | ⟨⟨key, w⟩, rest⟩
    · simp [decodePrograms, bind_eq_ok_iff]
    · have hother : key ≠ "program" := by
        rintro rfl
        simp at hnodup
      have hrefused : ∀ programs, decodePrograms programs ((key, w) :: rest) =
          .error (.unknownField key ["program"]) := by
        intro programs
        rw [decodePrograms, beq_false_of_ne hother]
        rfl
      simp [hrefused, bind_eq_ok_iff, hother]
  · rw [decodePrograms, beq_false_of_ne hkey]
    simp [hkey]

/-- The fields of a table. -/
def asTable? : Value → Option (List (String × Value))
  | .table fields => some fields
  | _ => none

/-- The tables of the programs of a document, in order. -/
def tablesOf (entries : List (String × Value)) : List (List (String × Value)) :=
  match entries.lookup "program" with
  | some (.array items) => items.filterMap asTable?
  | _ => []

/-- The programs of a document, if there are any, are tables. -/
def HasTables (entries : List (String × Value)) : Prop :=
  ∀ items, entries.lookup "program" = some (.array items) →
    ∀ item ∈ items, ∃ fields, item = .table fields

/-- What a document must hold to write programs. -/
structure Fits (entries : List (String × Value)) : Prop where
  only : ∀ entry ∈ entries, entry.1 = "program"
  array : ∀ v, entries.lookup "program" = some v → ∃ items, v = .array items
  programs : ∀ fields ∈ tablesOf entries, Program.Fits fields

/-- Tables whose names and stack sizes a suite can hold. -/
structure Acceptable (tables : List (List (String × Value))) : Prop where
  programs : ∀ fields ∈ tables, Program.Acceptable fields
  distinct : (tables.filterMap Program.nameOf?).Nodup

theorem eq_map_table {items : List Value} (h : ∀ item ∈ items, ∃ fields, item = .table fields) :
    items = (items.filterMap asTable?).map .table := by
  induction items with
  | nil => rfl
  | cons item rest ih =>
    obtain ⟨⟨fields, rfl⟩, hrest⟩ := List.forall_mem_cons.1 h
    show _ = Value.table fields :: (rest.filterMap asTable?).map .table
    rw [← ih hrest]

/-- Tables without double keys are read as the programs that they write. -/
theorem decodeAll_tables_eq_ok_iff (hnodup : ∀ fields ∈ tables, (fields.map Prod.fst).Nodup) :
    decodeAll Program.decode (tables.map .table) = .ok programs ↔
      List.Forall₂ Program.Writes tables programs := by
  rw [decodeAll_eq_ok_iff, List.forall₂_map_left_iff]
  constructor
  · intro h
    exact ((List.forall₂_and_left _ _).2 ⟨hnodup, h⟩).imp fun fields p h =>
      (Program.decode_table_eq_ok_iff h.1).1 h.2
  · intro h
    exact ((List.forall₂_and_left _ _).2 ⟨hnodup, h⟩).imp fun fields p h =>
      (Program.decode_table_eq_ok_iff h.1).2 h.2

/-- A document of tables is read as the programs that the tables write, in order. -/
theorem decodePrograms_eq_ok_iff_writes (hkeys : (Value.table entries).WellKeyed)
    (htables : HasTables entries) : decodePrograms [] entries = .ok programs ↔
      (∀ entry ∈ entries, entry.1 = "program") ∧
        (∀ v, entries.lookup "program" = some v → ∃ items, v = .array items) ∧
          List.Forall₂ Program.Writes (tablesOf entries) programs := by
  obtain ⟨hnodup, hentries⟩ : (entries.map Prod.fst).Nodup ∧
      ∀ entry ∈ entries, entry.2.WellKeyed := by
    cases hkeys with
    | table hnodup hentries => exact ⟨hnodup, hentries⟩
  rw [decodePrograms_eq_ok_iff hnodup, tablesOf]
  refine and_congr_right fun _ => ?_
  cases hlookup : entries.lookup "program" with
  | none => simp [List.forall₂_nil_left_iff]
  | some v =>
    cases v with
    | array items =>
      have hitems := eq_map_table (htables items hlookup)
      have hitem : ∀ item ∈ items, item.WellKeyed := by
        obtain ⟨front, back, rfl, -⟩ := List.lookup_eq_some_iff.1 hlookup
        cases hentries ("program", .array items) (by simp) with
        | array hitem => exact hitem
      have hfields : ∀ fields ∈ items.filterMap asTable?, (fields.map Prod.fst).Nodup := by
        intro fields hmem
        rw [hitems] at hitem
        cases hitem (.table fields) (List.mem_map_of_mem hmem) with
        | table hnodup => exact hnodup
      have hread : decodeList Program.decode (.array items) = .ok programs ↔
          List.Forall₂ Program.Writes (items.filterMap asTable?) programs := by
        rw [decodeList, ← decodeAll_tables_eq_ok_iff hfields, ← hitems]
      simpa using hread
    | _ => simp [decodeList]

theorem exists_forall₂_iff {α β : Type} {R : α → β → Prop} {xs : List α} :
    (∃ ys, List.Forall₂ R xs ys) ↔ ∀ x ∈ xs, ∃ y, R x y := by
  induction xs with
  | nil => exact ⟨fun _ => nofun, fun _ => ⟨[], .nil⟩⟩
  | cons x rest ih =>
    rw [List.forall_mem_cons, ← ih]
    constructor
    · rintro ⟨_, hx | ⟨hx, hrest⟩⟩
      exact ⟨⟨_, hx⟩, _, hrest⟩
    · rintro ⟨⟨y, hy⟩, ys, hys⟩
      exact ⟨y :: ys, .cons hy hys⟩

theorem forall_iff_of_forall₂ {α β : Type} {R : α → β → Prop} {P : α → Prop} {Q : β → Prop}
    {xs : List α} {ys : List β} (hR : ∀ x y, R x y → (P x ↔ Q y)) (h : List.Forall₂ R xs ys) :
    (∀ x ∈ xs, P x) ↔ ∀ y ∈ ys, Q y := by
  induction h with
  | nil => exact ⟨fun _ => nofun, fun _ => nofun⟩
  | cons hxy _ ih => rw [List.forall_mem_cons, List.forall_mem_cons, hR _ _ hxy, ih]

/-- A document of tables can be read if and only if it fits. -/
theorem exists_decodePrograms_iff (hkeys : (Value.table entries).WellKeyed)
    (htables : HasTables entries) :
    (∃ programs, decodePrograms [] entries = .ok programs) ↔ Fits entries := by
  simp only [decodePrograms_eq_ok_iff_writes hkeys htables, exists_and_left, exists_forall₂_iff,
    Program.exists_writes_iff]
  exact ⟨fun ⟨honly, harray, hprograms⟩ => ⟨honly, harray, hprograms⟩,
    fun h => ⟨h.only, h.array, h.programs⟩⟩

theorem names_of_writes (h : List.Forall₂ Program.Writes tables programs) :
    tables.filterMap Program.nameOf? = names ⟨programs⟩ := by
  induction h with
  | nil => rfl
  | cons hwrites _ ih =>
    rw [List.filterMap_cons, hwrites.nameOf?_eq, ih]
    rfl

/-- The programs that tables write are a suite if and only if the tables are
acceptable. -/
theorem acceptable_iff (h : List.Forall₂ Program.Writes tables programs) :
    Acceptable tables ↔ Sound ⟨programs⟩ := by
  have hprograms : (∀ fields ∈ tables, Program.Acceptable fields) ↔ ∀ p ∈ programs, p.Sound :=
    forall_iff_of_forall₂ (fun _ _ hwrites => hwrites.acceptable_iff) h
  have hnames := names_of_writes h
  constructor
  · rintro ⟨hall, hdistinct⟩
    exact ⟨hprograms.1 hall, hnames ▸ hdistinct⟩
  · rintro ⟨hall, hdistinct⟩
    exact ⟨hprograms.2 hall, hnames.symm ▸ hdistinct⟩

/-- **Which documents are suites.**  Take any text that is a document, with tables for
its programs, if it has any.  It is read as a suite if and only if it has no key but
`program`, with an array there, every table holds a name and otherwise only known keys
with values of their types, and the names and stack sizes are acceptable and the names
distinct.  The suite then holds one program for each table, in order, with the given
value in each field or, where the key is left out, the usual one.  A document that does
not fit is refused as unfit, whatever its names are; one that fits is refused only for
a program, or for a name that is taken. -/
theorem documents_of_tables {text : String} {entries : List (String × Value)} (origin : Path)
    (hparse : Toml.parse? text = some entries) (htables : HasTables entries) :
    ((∃ r, ofDocument text origin = .ok r) ↔ Fits entries ∧ Acceptable (tablesOf entries)) ∧
      (∀ r, ofDocument text origin = .ok r →
        List.Forall₂ Program.Writes (tablesOf entries) r.programs) ∧
      ∀ e, ofDocument text origin = .error e →
        (¬ Fits entries → ∃ fault, e = .registryParse origin (.unfit fault)) ∧
          (Fits entries →
            ∃ name, (∃ fault, e = .invalidProgram name fault) ∨ e = .duplicateProgram name) := by
  have hkeys := Toml.wellKeyed_parse hparse
  have hfits := exists_decodePrograms_iff hkeys htables
  cases hprograms : decodePrograms [] entries with
  | error fault =>
    have hdocument : ofDocument text origin = .error (.registryParse origin (.unfit fault)) := by
      simp only [ofDocument, hparse, hprograms]
    have hunfit : ¬ Fits entries := fun h => by
      obtain ⟨programs, hok⟩ := hfits.2 h
      rw [hok] at hprograms
      cases hprograms
    rw [hdocument]
    refine ⟨⟨?_, fun h => absurd h.1 hunfit⟩, ?_, fun e he => ?_⟩
    · rintro ⟨r, hr⟩
      cases hr
    · intro r hr
      cases hr
    · cases he
      exact ⟨fun _ => ⟨fault, rfl⟩, fun h => absurd h hunfit⟩
  | ok programs =>
    have hdocument : ofDocument text origin = ofPrograms programs := by
      simp only [ofDocument, hparse, hprograms]
    have hfit : Fits entries := hfits.1 ⟨programs, hprograms⟩
    obtain ⟨-, -, hwrites⟩ := (decodePrograms_eq_ok_iff_writes hkeys htables).1 hprograms
    simp only [hdocument, ofPrograms_eq_ok_iff, ofPrograms_eq_error_iff]
    refine ⟨?_, ?_, ?_⟩
    · rw [and_iff_right hfit, acceptable_iff hwrites]
      refine ⟨?_, fun hsound => ⟨_, rfl, hsound⟩⟩
      rintro ⟨_, -, hsound⟩
      exact hsound
    · rintro r ⟨rfl, -⟩
      exact hwrites
    · rintro e ⟨before, p, after, -, -, hoffends⟩
      refine ⟨fun h => absurd hfit h, fun _ => ⟨p.name, ?_⟩⟩
      cases hoffends with
      | invalid => exact .inl ⟨_, rfl⟩
      | duplicate => exact .inr rfl

/-- Two programs, of which one has no arguments and the other one no stack size. -/
def tablesDocument : String :=
  "[[program]]\nname = \"sort\"\nargs = [\"9\"]\n[[program]]\nstack_size = 512\nname = \"merge\""

def sortTable : List (String × Value) := [("name", .text "sort"), ("args", ofTexts ["9"])]

def mergeTable : List (String × Value) := [("stack_size", ofNumber 512), ("name", .text "merge")]

theorem parse_tablesDocument : Toml.parse? tablesDocument =
    some [("program", .array [.table sortTable, .table mergeTable])] := by
  cbv

/-- The two programs are a suite, in their order. -/
theorem tablesDocument_is_suite : ∃ r, ofDocument tablesDocument (.ofString "suite.toml") = .ok r ∧
    List.Forall₂ Program.Writes [sortTable, mergeTable] r.programs := by
  have htables : HasTables [("program", .array [.table sortTable, .table mergeTable])] := by
    rintro items ⟨⟩ item hitem
    simp only [List.mem_cons, List.not_mem_nil, or_false] at hitem
    rcases hitem with rfl | rfl <;> exact ⟨_, rfl⟩
  obtain ⟨hsuite, hwrites, -⟩ :=
    documents_of_tables (.ofString "suite.toml") parse_tablesDocument htables
  have hsort : Program.Fits sortTable :=
    ⟨by decide, ⟨_, rfl⟩, by rintro v ⟨⟩; exact ⟨_, rfl⟩, nofun, nofun, nofun, nofun⟩
  have hmerge : Program.Fits mergeTable :=
    ⟨by decide, ⟨_, rfl⟩, nofun, by rintro v ⟨⟩; exact ⟨512, rfl, by decide, by decide⟩, nofun,
      nofun, nofun⟩
  have hfits : Fits [("program", .array [.table sortTable, .table mergeTable])] :=
    ⟨by decide, by rintro v ⟨⟩; exact ⟨_, rfl⟩,
      List.forall_mem_cons.2 ⟨hsort, List.forall_mem_singleton.2 hmerge⟩⟩
  have hname : ∀ s ∈ ["sort", "merge"], Program.NameFits s := by
    intro s hs
    simp only [List.mem_cons, List.not_mem_nil, or_false] at hs
    rcases hs with rfl | rfl <;>
      exact ⟨⟨'r', by decide, by decide⟩, by decide, by decide, by decide +kernel, by decide +kernel⟩
  have hacceptable : Acceptable [sortTable, mergeTable] := by
    refine ⟨List.forall_mem_cons.2 ⟨⟨?_, nofun⟩, List.forall_mem_singleton.2 ⟨?_, ?_⟩⟩, by decide⟩
    · rintro s ⟨⟩
      exact hname "sort" (by decide)
    · rintro s ⟨⟩
      exact hname "merge" (by decide)
    · intro h
      cases h
  obtain ⟨r, hr⟩ := hsuite.2 ⟨hfits, hacceptable⟩
  exact ⟨r, hr, hwrites r hr⟩

end Registry

end GuardCost
