/-
GuardCost/Utility/Record/Value.lean

Values of scripts that go through records.  A value is a number, a text, or a
text from outside that looks like a number and is compared as one.
-/
import GuardCost.Number.Reading
import GuardCost.Text.Format
import GuardCost.Text.Basic

namespace GuardCost.Utility.Record

/-! ### Values -/

/-- A value. -/
inductive Value where
  | nothing
  | number (x : Float)
  | text (s : String)
  /-- A text from outside that looks like a number. -/
  | spelled (s : String) (x : Float)

/-- A blank around a number. -/
def isBlank (c : Char) : Bool := c == ' ' || ('\t' ≤ c && c ≤ '\r')

/-- The number at the front of a text, and what is left. -/
def leadingNumber? (s : String) : Option (Float × List Char) := Decimal.readDouble? s.toList

/-- The value of a text from outside. -/
def Value.ofInput (s : String) : Value :=
  match leadingNumber? s with
  | some (x, rest) =>
    if rest.all isBlank && s.toList.any Char.isDigit then spelled s x else text s
  | none => text s

/-- A whole number as a double. -/
def Value.ofInt (n : Int) : Value := number (Float.ofInt n)

/-- A count as a value. -/
def Value.ofNat (n : Nat) : Value := number (Float.ofNat n)

/-- A truth value. -/
def Value.ofBool (b : Bool) : Value := number (if b then 1 else 0)

/-- The number that a text starts with. -/
def numberOfText (s : String) : Float := ((leadingNumber? s).map (·.1)).getD 0

/-- A value as a number. -/
def Value.toNumber : Value → Float
  | nothing => 0
  | number x => x
  | text s => numberOfText s
  | spelled _ x => x

/-- Whether a value holds as a condition. -/
def Value.holds : Value → Bool
  | nothing => false
  | number x => x != 0
  | text s => !s.isEmpty
  | spelled _ x => x != 0

/-! ### Numbers as texts -/

/-- The whole part of a double, within the bounds of 64 bits. -/
def wholeOf (x : Float) : Int :=
  if x.isNaN then 0
  else match Binary64.view x with
    | .nan => 0
    | .infinite negative => if negative then -0x8000000000000000 else 0x7FFFFFFFFFFFFFFF
    | .finite negative m e =>
      let (num, den) := Decimal.power 2 e
      let n : Int := (m * num / den : Nat)
      let n := if negative then -n else n
      max (-0x8000000000000000) (min n 0x7FFFFFFFFFFFFFFF)

/-- Whether a double is a whole number that is written without an exponent. -/
def isWhole (x : Float) : Bool :=
  x.floor == x && x.abs < 9.2e18

/-- Write a number as the conversion at the front of a format says. -/
def writeNumber (format : String) (x : Float) : String :=
  if isWhole x then Decimal.integer (wholeOf x)
  else
    let cs := format.toList
    let lead := cs.takeWhile (· != '%')
    let (c, _, rest) := Text.Conversion.read (cs.drop (lead.length + 1)) []
    let c := { c with letter := rest.headD 'g' }
    String.ofList lead ++ c.double x ++ String.ofList (rest.drop 1)

/-- A value as a text, where numbers are written in some format. -/
def Value.toText (format : String) : Value → String
  | nothing => ""
  | number x => writeNumber format x
  | text s => s
  | spelled s _ => s

/-! ### Comparing -/

/-- The order of two texts. -/
def compareTexts (a b : String) : Ordering := compareOfLessAndEq a b

/-- The order of two values: as numbers, unless one of them is a text. -/
def Value.order (format : String) (a b : Value) : Ordering :=
  let asTexts := match a, b with
    | text _, _ => true
    | _, text _ => true
    | _, _ => false
  if asTexts then compareTexts (a.toText format) (b.toText format)
  else
    let x := a.toNumber
    let y := b.toNumber
    if x < y then .lt else if x == y then .eq else .gt

/-! ### Tables -/

/-- A table from texts to values; the key that was looked at last comes first. -/
abbrev Table := List (String × Value)

namespace Table

/-- The value of a key. -/
def get? (t : Table) (key : String) : Option Value := t.lookup key

/-- Take a key away. -/
def remove (key : String) (t : Table) : Table := t.filter fun entry => entry.1 != key

/-- Give a key a value. -/
def insert (key : String) (v : Value) (t : Table) : Table := (key, v) :: t.remove key

/-- A table of values that are counted from one. -/
def ofList (values : List Value) : Table :=
  (values.zipIdx 1).foldl (fun t (v, i) => (toString i, v) :: t) []

/-- The number of places that keys are spread over. -/
def places : Nat := 64

/-- The keys by their places; of those at one place the one that was looked at
last comes first. -/
def keys (t : Table) : List String :=
  (t.map (·.1)).mergeSort fun a b => Text.spreadOver .after places a ≤ Text.spreadOver .after places b

end Table

end GuardCost.Utility.Record
