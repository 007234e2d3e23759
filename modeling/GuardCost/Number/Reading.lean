/-
GuardCost/Number/Reading.lean

Reading doubles.  The longest start of a text that is a number is read: digits
with a point and an exponent, in base ten or, after a zero and an x, in base
sixteen, or one of the words for what is no number.
-/
import GuardCost.Number.Binary64

namespace GuardCost.Decimal

/-- The value of a digit in any base up to sixteen. -/
def digitValue? (c : Char) : Option Nat :=
  if c.isDigit then some (c.toNat - '0'.toNat)
  else if 'a' ≤ c && c ≤ 'f' then some (c.toNat - 'a'.toNat + 10)
  else if 'A' ≤ c && c ≤ 'F' then some (c.toNat - 'A'.toNat + 10)
  else none

/-- Whether a character is a digit in a base. -/
def isDigitOf (base : Nat) (c : Char) : Bool := (digitValue? c).any (· < base)

/-- The number that digits write in a base. -/
def digitsValue (base : Nat) (cs : List Char) : Nat :=
  cs.foldl (fun n c => n * base + (digitValue? c).getD 0) 0

/-- Digits with a point among them: the digits, how many of them stand after
the point, and what follows. -/
def mantissa (base : Nat) (cs : List Char) : List Char × Nat × List Char :=
  let whole := cs.takeWhile (isDigitOf base)
  match cs.drop whole.length with
  | '.' :: rest =>
    let places := rest.takeWhile (isDigitOf base)
    if whole.isEmpty && places.isEmpty then ([], 0, cs)
    else (whole ++ places, places.length, rest.drop places.length)
  | rest => (whole, 0, rest)

/-- The exponent after one of two letters, if digits follow it, and the rest. -/
def exponent (letters : List Char) (cs : List Char) : Int × List Char :=
  let read := fun (negative : Bool) (rest : List Char) =>
    let ds := rest.takeWhile Char.isDigit
    if ds.isEmpty then ((0 : Int), cs)
    else
      let n : Int := min (digitsValue 10 ds) 100000
      (if negative then -n else n, rest.drop ds.length)
  match cs with
  | e :: '-' :: rest => if letters.contains e then read true rest else (0, cs)
  | e :: '+' :: rest => if letters.contains e then read false rest else (0, cs)
  | e :: rest => if letters.contains e then read false rest else (0, cs)
  | [] => (0, cs)

/-- A number times a power of ten. -/
def scaledTen (m : Nat) (e : Int) : Float :=
  if m = 0 then 0
  else if e < -6000 then 0
  else if 6000 < e then Binary64.infinity
  else Float.ofScientific m (e < 0) e.natAbs

/-- The number of so many sixteenths at the front of a text, and the rest. -/
def readHexadecimal? (cs : List Char) : Option (Float × List Char) :=
  match mantissa 16 cs with
  | ([], _, _) => none
  | (ds, places, rest) =>
    let (e, rest) := exponent ['p', 'P'] rest
    some (Float.scaleB (Float.ofNat (digitsValue 16 ds)) (e - 4 * (places : Int)), rest)

/-- The unsigned number at the front of a text, and the rest. -/
def readUnsigned? (cs : List Char) : Option (Float × List Char) :=
  let lower := (cs.take 8).map Char.toLower
  if ("infinity".toList).isPrefixOf lower then some (Binary64.infinity, cs.drop 8)
  else if ("inf".toList).isPrefixOf lower then some (Binary64.infinity, cs.drop 3)
  else if ("nan".toList).isPrefixOf lower then some (0 / 0, cs.drop 3)
  else if ("0x".toList).isPrefixOf lower && (readHexadecimal? (cs.drop 2)).isSome then
    readHexadecimal? (cs.drop 2)
  else
    match mantissa 10 cs with
    | ([], _, _) => none
    | (ds, places, rest) =>
      let (e, rest) := exponent ['e', 'E'] rest
      some (scaledTen (digitsValue 10 ds) (e - places), rest)

/-- The number at the front of a text after white space and a sign, and the
rest. -/
def readDouble? (cs : List Char) : Option (Float × List Char) :=
  let cs := cs.dropWhile fun c => c == ' ' || ('\t' ≤ c && c ≤ '\r')
  match cs with
  | '-' :: rest => (readUnsigned? rest).map fun (x, rest) => (-x, rest)
  | '+' :: rest => readUnsigned? rest
  | rest => readUnsigned? rest

end GuardCost.Decimal
