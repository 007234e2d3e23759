/-
GuardCost/Text/Basic.lean

Texts.  Architecture and system names are compared without regard to the case
of the letters A to Z; no other character has a case here.  `isBlank` is the
property White_Space of the Unicode character database, twenty-five
characters; `trim` drops blanks at both ends.  A line ends at a line feed, and a
carriage return just before that feed belongs to the line break; a carriage
return elsewhere is part of its line.

`spreadOver` gives a text a place in a table.  The number of a text comes from
its characters one after the other: each changes the low bits of what there
is, and this is multiplied by a prime before or after that.  Texts that differ
in one character only rarely have the same place.
-/
import GuardCost.Text.Bytes
import GuardCost.Text.Parts

namespace GuardCost.Text

/-! ### Letters and words -/

/-- The lower-case form of an ASCII letter; any other character is left
alone. -/
def lowerChar (c : Char) : Char :=
  if 'A' ≤ c ∧ c ≤ 'Z' then Char.ofNat (c.toNat + 32) else c

/-- Lower-case the ASCII letters. -/
def lower (s : String) : String := String.ofList (s.toList.map lowerChar)

/-- Whether `part` occurs in `s`. -/
def contains (s part : String) : Bool := hasInfix part.toList s.toList

/-- Whether `s` starts with `part`. -/
def startsWith (s part : String) : Bool := part.toList.isPrefixOf s.toList

/-- Join texts with a separator between them. -/
def join (sep : String) : List String → String
  | [] => ""
  | [s] => s
  | s :: t :: rest => s ++ sep ++ join sep (t :: rest)

/-- A text repeated. -/
def spaces (n : Nat) : String := String.ofList (List.replicate n ' ')

/-! ### White space -/

/-- The characters with the property White_Space. -/
def isBlank (c : Char) : Bool :=
  let n := c.toNat
  (0x09 ≤ n && n ≤ 0x0D) || n == 0x20 || n == 0x85 || n == 0xA0 || n == 0x1680
    || (0x2000 ≤ n && n ≤ 0x200A) || n == 0x2028 || n == 0x2029 || n == 0x202F
    || n == 0x205F || n == 0x3000

/-- Drop the blanks at both ends of a list of characters. -/
def trimChars (cs : List Char) : List Char :=
  ((cs.dropWhile isBlank).reverse.dropWhile isBlank).reverse

/-- Drop the blanks at both ends. -/
def trim (s : String) : String := String.ofList (trimChars s.toList)

/-- Whether a text has no character but blanks. -/
def isBlankText (s : String) : Bool := s.toList.all isBlank

/-! ### Lines -/

/-- Split at every line feed; what follows the last feed is a line of its
own unless it is empty. -/
def splitFeeds : List Char → List (List Char)
  | [] => []
  | '\n' :: rest => ['\n'] :: splitFeeds rest
  | c :: rest =>
    match splitFeeds rest with
    | [] => [[c]]
    | line :: lines => (c :: line) :: lines

/-- A line without its line break. -/
def dropBreak (line : List Char) : List Char :=
  match line.reverse with
  | '\n' :: '\r' :: rest => rest.reverse
  | '\n' :: rest => rest.reverse
  | _ => line

/-- The lines of a text, without their line breaks. -/
def lines (s : String) : List String :=
  (splitFeeds s.toList).map fun line => String.ofList (dropBreak line)

/-- The first line that is not blank. -/
def firstUsefulLine? (s : String) : Option String :=
  (lines s).find? fun line => !isBlankText line

/-! ### Places in a table -/

/-- When a number is multiplied. -/
inductive Mixing where
  | before | after
  deriving DecidableEq, Repr

/-- Let a character change a number. -/
def Mixing.step (m : Mixing) (n : UInt32) (c : Char) : UInt32 :=
  match m with
  | .before => n * 16777619 ^^^ c.toNat.toUInt32
  | .after => (n ^^^ c.toNat.toUInt32) * 16777619

/-- The place of a text among so many. -/
def spreadOver (m : Mixing) (places : Nat) (s : String) : Nat :=
  (s.toList.foldl m.step 2166136261).toNat % places

end GuardCost.Text
