/-
GuardCost/Shell/Escape.lean

The escapes of the extended dialect: what the characters after a backslash
stand for.  Octal numbers are not among them, for where those count differs
from place to place.
-/
import GuardCost.Shell.Arithmetic

namespace GuardCost.Shell.Escape

/-- Whether a character is an octal digit. -/
def isOctal (c : Char) : Bool := '0' ≤ c && c ≤ '7'

/-- The byte that a number stands for. -/
def byteChar (n : Nat) : Char := Char.ofNat (n % 256)

/-- The hexadecimal digits at the front of some characters, up to a number of
them. -/
def hexDigits (most : Nat) (cs : List Char) : List Char :=
  (cs.take most).takeWhile (Arithmetic.isDigitIn 16)

/-- A character of a larger set as it is written where only the smallest set
is known. -/
def wideChar (n : Nat) : List Char :=
  if n < 128 then [Char.ofNat n]
  else
    let digits := (Nat.toDigits 16 n).map Char.toUpper
    let width := if n < 0x10000 then 4 else 8
    '\\' :: (if n < 0x10000 then 'u' else 'U')
      :: List.replicate (width - digits.length) '0' ++ digits

/-- What an escape with a letter stands for. -/
def ofLetter? (c : Char) : Option Char :=
  match c with
  | '\\' => some '\\'
  | 'a' => some '\x07'
  | 'b' => some '\x08'
  | 'e' => some '\x1b'
  | 'E' => some '\x1b'
  | 'f' => some '\x0c'
  | 'n' => some '\n'
  | 'r' => some '\r'
  | 't' => some '\t'
  | 'v' => some '\x0b'
  | _ => none

/-- What the characters after a backslash stand for, and how many of them
there are. -/
def read? (cs : List Char) : Option (List Char × Nat) :=
  let wide := fun (most : Nat) (rest : List Char) (make : Nat → List Char) =>
    match hexDigits most rest with
    | [] => none
    | ds => some (make (Arithmetic.ofDigits 16 ds), ds.length + 1)
  match cs with
  | 'x' :: rest => wide 2 rest fun n => [byteChar n]
  | 'u' :: rest => wide 4 rest wideChar
  | 'U' :: rest => wide 8 rest wideChar
  | c :: _ => (ofLetter? c).map fun e => ([e], 1)
  | [] => none

/-- The octal number at the front of some characters, and its length. -/
def octal? (most : Nat) (cs : List Char) : Option (Char × Nat) :=
  match (cs.take most).takeWhile isOctal with
  | [] => none
  | ds => some (byteChar (Arithmetic.ofDigits 8 ds), ds.length)

/-- What a backslash between the marks of a text with escapes stands for, and
how many characters follow it. -/
def quotedEscape (cs : List Char) : List Char × Nat :=
  match octal? 3 cs, read? cs, cs with
  | some (c, n), _, _ => ([c], n)
  | none, some found, _ => found
  | none, none, 'c' :: c :: _ => ([byteChar (c.toUpper.toNat % 32)], 2)
  | none, none, c :: _ =>
    if c == '\'' || c == '"' || c == '?' then ([c], 1) else (['\\'], 0)
  | none, none, [] => (['\\'], 0)

/-- A text with escapes up to its closing mark, and how many characters it
takes with that. -/
def quotedText? (allowance : Nat) (cs : List Char) : Option (List Char × Nat) :=
  match allowance, cs with
  | 0, _ => none
  | _, [] => none
  | _, '\'' :: _ => some ([], 1)
  | n + 1, '\\' :: rest =>
    let (found, k) := quotedEscape rest
    (quotedText? n (rest.drop k)).map fun (more, m) => (found ++ more, m + k + 1)
  | n + 1, c :: rest => (quotedText? n rest).map fun (more, m) => (c :: more, m + 1)

end GuardCost.Shell.Escape
