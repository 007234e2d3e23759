/-
GuardCost/Number/Binary64.lean

What a double stands for.  A finite double is `± m · 2 ^ e` with a natural
mantissa `m < 2 ^ 53` and an exponent `e ≥ -1074`; `View` is that triple, or
one of the values that stand for no number.  Everything that needs the
value of a double rather than the double reads it through `view`, so that
rounding and printing are exact arithmetic on natural numbers.

The second half holds the operations of the benchmark on doubles: the lesser
and the greater of two values where a NaN gives way, the midpoint, the total
order, and rounding to whole numbers.
-/
namespace GuardCost.Binary64

/-! ### The value of a double -/

/-- What a double stands for. -/
inductive View where
  | nan
  | infinite (negative : Bool)
  | finite (negative : Bool) (mantissa : Nat) (exponent : Int)
  deriving DecidableEq, Repr

/-- The weight of the sign bit, `2 ^ 63`. -/
def signBit : Nat := 0x8000000000000000

/-- The weight of the bit that is not stored, `2 ^ 52`. -/
def hiddenBit : Nat := 0x10000000000000

/-- Read sign, exponent and fraction off the bits of a double. -/
def viewBits (bits : Nat) : View :=
  let negative := decide (signBit ≤ bits)
  let biased : Nat := bits / hiddenBit % 2048
  let fraction : Nat := bits % hiddenBit
  if biased = 2047 then if fraction = 0 then .infinite negative else .nan
  else if biased = 0 then .finite negative fraction (-1074)
  else .finite negative (hiddenBit + fraction) ((biased : Int) - 1075)

/-- What `x` stands for. -/
def view (x : Float) : View := viewBits x.toBits.toNat

/-- Whether a double is a number greater than zero: positive, and neither
infinite nor a NaN. -/
def isUsable (x : Float) : Bool := x.isFinite && decide (0 < x)

/-! ### Order -/

/-- The lesser of two doubles, the first one if neither is less; a NaN gives
way to a number. -/
def lesser (a b : Float) : Float :=
  if b < a then b else if a.isNaN then b else a

/-- The greater of two doubles, the first one if neither is greater; a NaN
gives way to a number. -/
def greater (a b : Float) : Float :=
  if a < b then b else if a.isNaN then b else a

/-- The rank of a double in the total order: negative values from the largest
magnitude down, then positive ones up; `-0` comes just before `0`, and a NaN
after every number. -/
def rank (x : Float) : Nat :=
  let bits := x.toBits.toNat
  if bits < signBit then bits + signBit else 2 * signBit - 1 - bits

/-- Positive infinity. -/
def infinity : Float := Float.ofBits 0x7FF0000000000000

/-! ### Sums and means -/

/-- The sum from left to right; the sum of nothing is `-0`, which is neutral
for every double. -/
def sum (xs : List Float) : Float := xs.foldl (· + ·) (-0.0)

/-- The arithmetic mean. -/
def mean (xs : List Float) : Float := sum xs / Float.ofNat xs.length

/-- Half of the largest double. -/
def halfMax : Float := Float.ofBits 0x7FDFFFFFFFFFFFFF

/-- Twice the smallest normal double. -/
def twiceMinNormal : Float := Float.ofBits 0x0020000000000000

/-- The midpoint of two doubles.  The sum is halved where it cannot
overflow; otherwise each half is taken first, unless it is too small to be
halved exactly. -/
def midpoint (a b : Float) : Float :=
  if a.abs ≤ halfMax && b.abs ≤ halfMax then (a + b) / 2
  else if a.abs < twiceMinNormal then a + b / 2
  else if b.abs < twiceMinNormal then a / 2 + b
  else a / 2 + b / 2

/-! ### Whole numbers -/

/-- Negate if asked to. -/
def withSign (negative : Bool) (x : Float) : Float := if negative then -x else x

/-- The nearest whole number; a half goes away from zero. -/
def round (x : Float) : Float :=
  match view x with
  | .finite negative m e =>
    if 0 ≤ e then x
    else
      let unit := Nat.pow 2 (-e).toNat
      withSign negative (Float.ofNat ((2 * m + unit) / (2 * unit)))
  | _ => x

end GuardCost.Binary64
