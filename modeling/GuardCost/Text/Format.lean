/-
GuardCost/Text/Format.lean

Formats with flags, a width and a precision.  A conversion says how one value
is written: a text, a whole number in some base, or a double with a fixed
number of places, with an exponent, or in whichever of the two is shorter.
Doubles are rounded from their exact values, a half going to the even
neighbour.
-/
import GuardCost.Number.Decimal

namespace GuardCost.Text

/-- How one value is written. -/
structure Conversion where
  /-- Fill up on the right. -/
  left : Bool := false
  /-- Fill up with zeros between the sign and the digits. -/
  zeros : Bool := false
  plus : Bool := false
  /-- A blank where a plus sign could stand. -/
  blank : Bool := false
  /-- Write the base, and keep the zeros at the end of places. -/
  alternate : Bool := false
  width : Nat := 0
  precision? : Option Nat := none
  letter : Char := 's'
  deriving DecidableEq, Repr

namespace Conversion

/-- So many times the same character. -/
def fill (n : Nat) (c : Char) : String := String.ofList (List.replicate n c)

/-- Fill a text up to the width. -/
def pad (c : Conversion) (s : String) : String :=
  let missing := c.width - s.length
  if c.left then s ++ fill missing ' ' else fill missing ' ' ++ s

/-- Fill up what stands after a sign or a base to the width. -/
def padNumber (c : Conversion) (zeros : Bool) (lead body : String) : String :=
  if zeros && !c.left then lead ++ fill (c.width - (lead.length + body.length)) '0' ++ body
  else c.pad (lead ++ body)

/-- The sign of a number. -/
def sign (c : Conversion) (negative : Bool) : String :=
  if negative then "-" else if c.plus then "+" else if c.blank then " " else ""

/-- Write a text, or its start. -/
def text (c : Conversion) (s : String) : String :=
  c.pad (match c.precision? with
    | some n => String.ofList (s.toList.take n)
    | none => s)

/-- The digits of a number, at least as many as the precision says. -/
def digits (c : Conversion) (base n : Nat) : String :=
  let ds := if n = 0 && c.precision? == some 0 then "" else String.ofList (Nat.toDigits base n)
  fill ((c.precision?.getD 1) - ds.length) '0' ++ ds

/-- Write a whole number with its sign. -/
def signed (c : Conversion) (n : Int) : String :=
  c.padNumber (c.zeros && c.precision?.isNone) (c.sign (n < 0)) (c.digits 10 n.natAbs)

/-- Write a whole number without a sign, in the base of the letter. -/
def unsigned (c : Conversion) (n : Nat) : String :=
  let zeros := c.zeros && c.precision?.isNone
  match c.letter with
  | 'x' => c.padNumber zeros (if c.alternate && n != 0 then "0x" else "") (c.digits 16 n)
  | 'X' => c.padNumber zeros (if c.alternate && n != 0 then "0X" else "") (c.digits 16 n).toUpper
  | 'o' =>
    let ds := c.digits 8 n
    c.padNumber zeros "" (if c.alternate && ds.toList.head? != some '0' then "0" ++ ds else ds)
  | _ => c.padNumber zeros "" (c.digits 10 n)

/-! ### Doubles -/

/-- The exponent of ten of a positive quotient: the number of its digits before
the point, less one.  The search goes down from a bound. -/
def exponentOf (num den : Nat) (tries : Nat) (k : Int) : Int :=
  match tries with
  | 0 => k
  | n + 1 =>
    let (a, b) := Decimal.power 10 k
    if a * den ≤ num * b then k else exponentOf num den n (k - 1)

/-- The digits of a positive quotient, the first and so many places, with the
exponent of ten. -/
def scientificDigits (num den places : Nat) : String × Int :=
  let size (n : Nat) : Int := Nat.log2 n
  let k := exponentOf num den 8 ((size num - size den) * 1233 / 4096 + 2)
  let (a, b) := Decimal.power 10 (k - places)
  let ds := Decimal.digits (Decimal.roundDiv (num * b) (den * a))
  if ds.length > places + 1 then (String.ofList ds.toList.dropLast, k + 1) else (ds, k)

/-- An exponent with its sign and at least two digits. -/
def exponentText (k : Int) : String :=
  let ds := Decimal.digits k.natAbs
  (if k < 0 then "-" else "+") ++ (if ds.length < 2 then "0" ++ ds else ds)

/-- Take the zeros at the end of places away, and a point that is left at the
end. -/
def dropZeros (s : String) : String :=
  if s.toList.contains '.' then
    let cs := s.toList.reverse.dropWhile (· == '0')
    String.ofList (if cs.head? == some '.' then cs.tail else cs).reverse
  else s

/-- Digits with a point after the first of them. -/
def pointed (keepPoint : Bool) (ds : String) : String :=
  let places := String.ofList (ds.toList.drop 1)
  String.ofList (ds.toList.take 1) ++ (if places.isEmpty && !keepPoint then "" else ".") ++ places

/-- A quotient with an exponent. -/
def withExponent (keepPoint : Bool) (places num den : Nat) : String :=
  let (ds, k) := if num = 0 then (fill (places + 1) '0', 0) else scientificDigits num den places
  pointed keepPoint ds ++ "e" ++ exponentText k

/-- A quotient with a fixed number of places. -/
def withPlaces (keepPoint : Bool) (places num den : Nat) : String :=
  let s := Decimal.writeScaled places (Decimal.roundDiv (num * Nat.pow 10 places) den)
  if keepPoint && places = 0 then s ++ "." else s

/-- A quotient with so many digits that count, without an exponent where that
is short enough. -/
def withDigits (alternate : Bool) (precision num den : Nat) : String :=
  let p := max precision 1
  let k := if num = 0 then 0 else (scientificDigits num den (p - 1)).2
  if -4 ≤ k ∧ k < p then
    let s := withPlaces alternate (p - 1 - k).toNat num den
    if alternate then s else dropZeros s
  else
    let (ds, k) := scientificDigits num den (p - 1)
    let mantissa := pointed alternate ds
    (if alternate then mantissa else dropZeros mantissa) ++ "e" ++ exponentText k

/-- The size of a double, without its sign. -/
def magnitude (c : Conversion) (num den : Nat) : String :=
  let precision := c.precision?.getD 6
  match c.letter.toLower with
  | 'e' => withExponent c.alternate precision num den
  | 'g' => withDigits c.alternate precision num den
  | _ => withPlaces c.alternate precision num den

/-- Write a double. -/
def double (c : Conversion) (x : Float) : String :=
  let s := match Binary64.view x with
    | .nan => c.pad "nan"
    | .infinite negative => c.pad (c.sign negative ++ "inf")
    | .finite negative m e =>
      let (num, den) := Decimal.power 2 e
      c.padNumber c.zeros (c.sign negative) (c.magnitude (m * num) den)
  if c.letter.isUpper then s.toUpper else s

/-! ### Reading -/

/-- Read the flags, the width and the precision of a conversion after its
percent sign; a star in their place takes the next of some numbers.  The
result has no letter yet. -/
def read (cs : List Char) (next : List Int) : Conversion × List Int × List Char :=
  let isFlag := fun c : Char => c == '-' || c == '0' || c == '+' || c == ' ' || c == '#'
  let flags := cs.takeWhile isFlag
  let number := fun (cs : List Char) (next : List Int) =>
    match cs with
    | '*' :: rest => (next.headD 0, next.tail, rest)
    | cs =>
      let ds := cs.takeWhile Char.isDigit
      let n := ds.foldl (fun (n : Nat) (c : Char) => n * 10 + (c.toNat - '0'.toNat)) 0
      ((n : Int), next, cs.drop ds.length)
  let (width, next, cs) := number (cs.drop flags.length) next
  let c : Conversion :=
    { left := '-' ∈ flags || width < 0, zeros := '0' ∈ flags, plus := '+' ∈ flags
      blank := ' ' ∈ flags, alternate := '#' ∈ flags, width := width.natAbs }
  match cs with
  | '.' :: rest =>
    let (precision, next, rest) := number rest next
    ({ c with precision? := if precision < 0 then none else some precision.toNat }, next, rest)
  | rest => (c, next, rest)

/-- How many stars stand in the width and the precision that come next. -/
def starsAhead (cs : List Char) : Nat :=
  let isPart := fun c : Char =>
    c == '-' || c == '0' || c == '+' || c == ' ' || c == '#' || c == '*' || c == '.' || c.isDigit
  (cs.takeWhile isPart).count '*'

end Conversion

end GuardCost.Text
