/-
GuardCost/Number/Decimal.lean

Decimal text of doubles.  `shortest` finds the fewest digits that read back
as the same double: it walks the decimal grids `10 ^ k · ℤ` from coarse to
fine and stops at the first one with a point in the interval of reals that
round to the double.  If a grid has a point there, one of the two grid points
next to the value is one, so only these two are tried; of two the nearer
wins.  `fixed` rounds the exact value to a number of places, a half going to
the even neighbour.

How digits are laid out is a record, `Layout`, with one value per format of
the program: `plain` never uses an exponent, `precise` keeps a fraction and
changes to an exponent outside `10 ^ -4 … 10 ^ 16`.
-/
import GuardCost.Number.Binary64

namespace GuardCost.Decimal

/-! ### Digits -/

/-- The decimal digits of a natural number. -/
def digits (n : Nat) : String := String.ofList (Nat.toDigits 10 n)

/-- The decimal text of an integer. -/
def integer (n : Int) : String :=
  if n < 0 then "-" ++ digits n.natAbs else digits n.natAbs

/-- A power of two or ten as numerator and denominator. -/
def power (base : Nat) (e : Int) : Nat × Nat :=
  if 0 ≤ e then (Nat.pow base e.toNat, 1) else (1, Nat.pow base (-e).toNat)

/-- The nearest natural number to a quotient; a half goes to the even
neighbour. -/
def roundDiv (num den : Nat) : Nat :=
  let q := num / den
  let r := num % den
  if 2 * r < den then q
  else if den < 2 * r then q + 1
  else if q % 2 = 0 then q else q + 1

/-! ### Shortest digits -/

/-- The reals that round to a double, in quarters of its last place: the
value, the lower and the upper end, and whether the ends belong to it. -/
structure Interval where
  value : Nat
  low : Nat
  high : Nat
  closed : Bool

/-- The interval of the double `m · 2 ^ e`.  Below a power of two the next
double is only half as far away. -/
def interval (m : Nat) (e : Int) : Interval where
  value := 4 * m
  low := if m = Binary64.hiddenBit ∧ -1074 < e then 4 * m - 1 else 4 * m - 2
  high := 4 * m + 2
  closed := m % 2 == 0

/-- The point of the grid `10 ^ k · ℤ` that stands for the double with
interval `i` and exponent `e`, if the grid has one; of two points the nearer,
and of two equally near ones the upper. -/
def gridPoint? (i : Interval) (e k : Int) : Option Nat :=
  let (twoNum, twoDen) := power 2 (e - 2)
  let (tenNum, tenDen) := power 10 k
  let grid := tenNum * twoDen
  let unit := twoNum * tenDen
  let inside (d : Nat) : Bool :=
    let p := d * grid
    if i.closed then i.low * unit ≤ p && p ≤ i.high * unit
    else i.low * unit < p && p < i.high * unit
  let v := i.value * unit
  let lower := v / grid
  let upper := lower + 1
  match inside lower, inside upper with
  | true, true => if v - lower * grid < upper * grid - v then some lower else some upper
  | true, false => some lower
  | false, true => some upper
  | false, false => none

/-- Try the grids from `10 ^ k` down. -/
def search (i : Interval) (e : Int) : (tries : Nat) → (k : Int) → Nat × Int
  | 0, k => (i.value, k)
  | tries + 1, k =>
    match gridPoint? i e k with
    | some d => (d, k)
    | none => search i e tries (k - 1)

/-- The fewest digits `d` that read back as the double `m · 2 ^ e`, as
`d · 10 ^ k`.  The first grid is coarser than the value; seventeen digits
always suffice. -/
def shortest (m : Nat) (e : Int) : Nat × Int :=
  let bits : Int := (Nat.log2 m + 1 : Nat)
  search (interval m e) e 24 ((bits + e) * 1233 / 4096 + 2)

/-! ### Layouts -/

/-- How the digits of a number are laid out.  The point of a number stands
after `point` digits, counted from its first one. -/
structure Layout where
  /-- Digits after the point, at least. -/
  leastPlaces : Nat
  /-- Write an exponent when the point would stand before this position. -/
  lowestPoint? : Option Int
  /-- Write an exponent when the point would stand after this position. -/
  highestPoint? : Option Int

/-- No exponent, and no more places than there are digits. -/
def plain : Layout := ⟨0, none, none⟩

/-- At least one place; an exponent below `10 ^ -4` and from `10 ^ 16` on. -/
def precise : Layout := ⟨1, some (-3), some 16⟩

/-- A text of zeros. -/
def zeros (n : Nat) : String := String.ofList (List.replicate n '0')

/-- Fill up with zeros on the right. -/
def padRight (n : Nat) (s : String) : String := s ++ zeros (n - s.length)

/-- Whole part and places, with a point between them if there are places. -/
def withPlaces (whole places : String) : String :=
  if places.isEmpty then whole else whole ++ "." ++ places

/-- Digits `ds` with the point after `point` of them. -/
def positional (least : Nat) (ds : String) (point : Int) : String :=
  let n : Int := ds.length
  if point ≤ 0 then withPlaces "0" (padRight least (zeros (-point).toNat ++ ds))
  else if n ≤ point then withPlaces (ds ++ zeros (point - n).toNat) (zeros least)
  else
    let whole := String.ofList (ds.toList.take point.toNat)
    withPlaces whole (padRight least (String.ofList (ds.toList.drop point.toNat)))

/-- Digits `ds` with one digit before the point, and the exponent. -/
def scientific (ds : String) (point : Int) : String :=
  let first := String.ofList (ds.toList.take 1)
  withPlaces first (String.ofList (ds.toList.drop 1)) ++ "e" ++ integer (point - 1)

/-- Lay out `d · 10 ^ k`. -/
def Layout.write (l : Layout) (d : Nat) (k : Int) : String :=
  if d = 0 then positional l.leastPlaces "0" 1
  else
    let ds := digits d
    let point := ds.length + k
    if l.lowestPoint?.any (point < ·) || l.highestPoint?.any (· < point) then
      scientific ds point
    else positional l.leastPlaces ds point

/-- A minus sign if asked for. -/
def signed (negative : Bool) (s : String) : String := if negative then "-" ++ s else s

/-! ### Doubles -/

/-- The text of a double in a layout, with the fewest digits that read back. -/
def text (l : Layout) (x : Float) : String :=
  match Binary64.view x with
  | .nan => "NaN"
  | .infinite negative => signed negative "inf"
  | .finite negative 0 _ => signed negative (l.write 0 0)
  | .finite negative m e =>
    let (d, k) := shortest m e
    signed negative (l.write d k)

/-- A whole number of units `10 ^ -places`. -/
def writeScaled (places n : Nat) : String :=
  let ds := digits n
  let padded := zeros (places + 1 - ds.length) ++ ds
  positional places padded ((padded.length : Int) - places)

/-- The text of a double with a fixed number of places. -/
def fixed (places : Nat) (x : Float) : String :=
  match Binary64.view x with
  | .nan => "NaN"
  | .infinite negative => signed negative "inf"
  | .finite negative m e =>
    let (num, den) := power 2 e
    signed negative (writeScaled places (roundDiv (m * num * Nat.pow 10 places) den))

end GuardCost.Decimal
