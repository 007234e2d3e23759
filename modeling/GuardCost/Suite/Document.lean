/-
GuardCost/Suite/Document.lean

Suites written down.  A suite document has at most one key, `program`, with
an array of programs.  A program is a table of named fields, of which only
the name is required, or an array of the same fields in their order, where
the ones at the end can be left out.
-/
import GuardCost.Suite.Registry
import GuardCost.Toml.Document

namespace GuardCost

open Toml (Value Fault)

namespace Program

/-- The fields of a program, in their order. -/
def fieldNames : List String :=
  ["name", "args", "stack_size", "flags", "lto", "multi_language"]

/-- What a program is called in a fault. -/
def expected : String := "struct ProgramSpec"

/-- The fields of a program that have been read so far. -/
structure Fields where
  name? : Option String := none
  arguments? : Option (List String) := none
  stackSize? : Option UInt32 := none
  flags? : Option (List String) := none
  lto? : Option Bool := none
  multiLanguage? : Option Bool := none

/-- Read the field of a name. -/
def Fields.set (f : Fields) (name : String) (v : Value) : Except Fault Fields :=
  match name with
  | "name" => do return { f with name? := some (← Toml.decodeText v) }
  | "args" => do return { f with arguments? := some (← Toml.decodeList Toml.decodeText v) }
  | "stack_size" => do return { f with stackSize? := some (← Toml.decodeUInt32 v) }
  | "flags" => do return { f with flags? := some (← Toml.decodeList Toml.decodeText v) }
  | "lto" => do return { f with lto? := some (← Toml.decodeBool v) }
  | "multi_language" => do return { f with multiLanguage? := some (← Toml.decodeBool v) }
  | _ => .error (.unknownField name fieldNames)

/-- Read fields in the order of their entries. -/
def Fields.setAll (f : Fields) : List (String × Value) → Except Fault Fields
  | [] => .ok f
  | (name, v) :: rest => do
    let f ← f.set name v
    f.setAll rest

/-- The program of a name and further fields, of which the missing ones have
their usual values. -/
def ofFields (name : String) (f : Fields) : Program where
  name
  arguments := f.arguments?.getD []
  stackSize := f.stackSize?.getD 16384
  flags := f.flags?.getD []
  lto := f.lto?.getD true
  multiLanguage := f.multiLanguage?.getD false

/-- The key under which a date appears when it is read as a table. -/
def dateKey : String := "$__toml_private_datetime"

/-- Read a program. -/
def decode : Toml.Decoder Program
  | .table entries => do
    let f ← ({} : Fields).setAll entries
    match f.name? with
    | some name => .ok (ofFields name f)
    | none => .error (.missingField "name")
  | .array items => do
    let f ← ({} : Fields).setAll (fieldNames.zip items)
    match f.name? with
    | some name => .ok (ofFields name f)
    | none => .error (.tooShort 0 (expected ++ " with 6 elements"))
  | .date => .error (.unknownField dateKey fieldNames)
  | v => .error (.wrongKind v.shown expected)

end Program

namespace Registry

/-- Read the programs of a document; a key but `program` is refused. -/
def decodePrograms (programs : List Program) :
    List (String × Value) → Except Fault (List Program)
  | [] => .ok programs
  | (key, v) :: rest =>
    if key == "program" then do
      let programs ← Toml.decodeList Program.decode v
      decodePrograms programs rest
    else .error (.unknownField key ["program"])

/-- The registry of a suite document that comes from `origin`. -/
def ofDocument (text : String) (origin : Path) : Except ConfigError Registry :=
  match Toml.parse? text with
  | none => .error (.registryParse origin .malformed)
  | some entries =>
    match decodePrograms [] entries with
    | .error fault => .error (.registryParse origin (.unfit fault))
    | .ok programs => ofPrograms programs

end Registry

end GuardCost
