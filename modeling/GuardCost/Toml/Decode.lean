/-
GuardCost/Toml/Decode.lean

Reading typed data out of values.  A decoder accepts the values of one kind
and says of any other what was found and what was expected.  A table is read
entry by entry in the order of the document, so of several faults the first
one in the text is reported; what is missing shows only at its end.
-/
import GuardCost.Number.Decimal
import GuardCost.Text.Basic
import GuardCost.Text.Visible
import GuardCost.Toml.Tree

namespace GuardCost.Toml

/-- Why a value does not fit. -/
inductive Fault where
  | wrongKind (found expected : String)
  | outOfRange (found expected : String)
  | unknownField (name : String) (known : List String)
  | missingField (name : String)
  | tooShort (length : Nat) (expected : String)
  deriving DecidableEq, Repr

/-- The names of the known fields. -/
def knownFields : List String → String
  | [] => "there are no fields"
  | [name] => "expected `" ++ name ++ "`"
  | names => "expected one of " ++ Text.join ", " (names.map fun name => "`" ++ name ++ "`")

/-- The wording of a fault. -/
def Fault.message : Fault → String
  | wrongKind found expected => "invalid type: " ++ found ++ ", expected " ++ expected
  | outOfRange found expected => "invalid value: " ++ found ++ ", expected " ++ expected
  | unknownField name known => "unknown field `" ++ name ++ "`, " ++ knownFields known
  | missingField name => "missing field `" ++ name ++ "`"
  | tooShort length expected =>
    "invalid length " ++ toString length ++ ", expected " ++ expected

/-- A double with at least one place and no exponent. -/
def shownFloat (x : Float) : String := Decimal.text ⟨1, none, none⟩ x

/-- A value as a fault shows it. -/
def Value.shown : Value → String
  | text s => "string " ++ Text.quote s
  | integer n => "integer `" ++ Decimal.integer n ++ "`"
  | float x => "floating point `" ++ shownFloat x ++ "`"
  | boolean b => "boolean `" ++ (if b then "true" else "false") ++ "`"
  | date => "map"
  | array _ => "sequence"
  | table _ => "map"

/-- A reader of values of a type. -/
abbrev Decoder (α : Type) := Value → Except Fault α

/-- A text. -/
def decodeText : Decoder String
  | .text s => .ok s
  | v => .error (.wrongKind v.shown "a string")

/-- A truth value. -/
def decodeBool : Decoder Bool
  | .boolean b => .ok b
  | v => .error (.wrongKind v.shown "a boolean")

/-- A natural number below `2 ^ 32`. -/
def decodeUInt32 : Decoder UInt32
  | .integer n =>
    if 0 ≤ n ∧ n < UInt32.size then .ok n.toNat.toUInt32
    else .error (.outOfRange (Value.integer n).shown "u32")
  | v => .error (.wrongKind v.shown "u32")

/-- Read every item of a list. -/
def decodeAll {α : Type} (decode : Decoder α) : List Value → Except Fault (List α)
  | [] => .ok []
  | v :: rest => do
    let x ← decode v
    let xs ← decodeAll decode rest
    return x :: xs

/-- A list of values of one type. -/
def decodeList {α : Type} (decode : Decoder α) : Decoder (List α)
  | .array items => decodeAll decode items
  | v => .error (.wrongKind v.shown "a sequence")

end GuardCost.Toml
