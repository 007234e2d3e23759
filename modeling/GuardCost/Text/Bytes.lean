/-
GuardCost/Text/Bytes.lean

Bytes and text.  File names, command words and captured output are byte
strings; everything the program says is text.  Going from text to bytes
is UTF-8 and loses nothing.  Going back is exact on UTF-8 (`decode?`), and
otherwise replaces every maximal ill-formed subpart by one replacement
character (`lossy`).

The scanner looks at the first byte only, which fixes how many bytes the
character has and in which range its second byte lies; the remaining bytes
are plain continuation bytes.  What has been accepted before the first
unfit byte is the maximal subpart.

A program that works on bytes can still be written with characters when every
byte is shown by the character of its number (`widen`).  No byte is lost,
whatever encoding the bytes are in.
-/
namespace GuardCost

/-- A string of bytes. -/
abbrev Bytes := List UInt8

namespace Bytes

/-! ### Text to bytes -/

/-- The UTF-8 form of a text. -/
def ofString (s : String) : Bytes := s.toUTF8.data.toList

/-- The bytes of one ASCII character. -/
def ascii (c : Char) : UInt8 := c.toNat.toUInt8

/-- The slash, which separates the parts of a path. -/
def slash : UInt8 := 47

/-- The dot. -/
def dot : UInt8 := 46

/-! ### Bytes to text -/

/-- The text whose UTF-8 form this is, if there is one. -/
def decode? (b : Bytes) : Option String := String.fromUTF8? ⟨b.toArray⟩

/-- The replacement character. -/
def replacement : Char := '\uFFFD'

/-- What a first byte announces: its payload, how many bytes follow it, and
the range of the first of them.  `none` for a byte that starts nothing. -/
def lead (b : UInt8) : Option (Nat × Nat × UInt8 × UInt8) :=
  if b < 0x80 then some (b.toNat, 0, 0x80, 0xBF)
  else if 0xC2 ≤ b && b ≤ 0xDF then some (b.toNat - 0xC0, 1, 0x80, 0xBF)
  else if b == 0xE0 then some (0, 2, 0xA0, 0xBF)
  else if b == 0xED then some (0x0D, 2, 0x80, 0x9F)
  else if 0xE1 ≤ b && b ≤ 0xEF then some (b.toNat - 0xE0, 2, 0x80, 0xBF)
  else if b == 0xF0 then some (0, 3, 0x90, 0xBF)
  else if 0xF1 ≤ b && b ≤ 0xF3 then some (b.toNat - 0xF0, 3, 0x80, 0xBF)
  else if b == 0xF4 then some (4, 3, 0x80, 0x8F)
  else none

/-- Take up to `n` continuation bytes, the first of them between `lo` and
`hi`: the payload so far, how many were taken, and whether all were there. -/
def tail : (n : Nat) → (lo hi : UInt8) → (payload : Nat) → Bytes → Nat × Nat × Bool
  | 0, _, _, payload, _ => (payload, 0, true)
  | _ + 1, _, _, payload, [] => (payload, 0, false)
  | n + 1, lo, hi, payload, b :: rest =>
    if lo ≤ b && b ≤ hi then
      let (p, k, full) := tail n 0x80 0xBF (payload * 64 + (b.toNat - 0x80)) rest
      (p, k + 1, full)
    else (payload, 0, false)

/-- The character at the head of a byte string and how many bytes of the
rest belong to it; the replacement character stands for a maximal
ill-formed subpart. -/
def head (b : UInt8) (rest : Bytes) : Char × Nat :=
  match lead b with
  | none => (replacement, 0)
  | some (payload, n, lo, hi) =>
    let (p, k, full) := tail n lo hi payload rest
    (if full then Char.ofNat p else replacement, k)

/-- Decode, replacing what is ill-formed. -/
def replaceInvalid : Bytes → List Char
  | [] => []
  | b :: rest =>
    let (c, k) := head b rest
    c :: replaceInvalid (rest.drop k)
termination_by b => b.length
decreasing_by simp only [List.length_drop, List.length_cons]; omega

/-- The text of a byte string; what is not UTF-8 shows as replacement
characters. -/
def lossy (b : Bytes) : String :=
  match decode? b with
  | some s => s
  | none => String.ofList (replaceInvalid b)

/-! ### Searching -/

/-- Whether one byte string starts with another. -/
def startsWith (b p : Bytes) : Bool := p.isPrefixOf b

/-! ### Bytes as characters -/

/-- A byte as the character of its number. -/
def toChar (b : UInt8) : Char := Char.ofNat b.toNat

/-- A byte string, one character per byte. -/
def widen (b : Bytes) : String := String.ofList (b.map toChar)

/-- The byte string that a text with one character per byte shows. -/
def narrow (s : String) : Bytes := s.toList.map ascii

/-- The characters below 256 are those that show a byte. -/
theorem toChar_toNat (b : UInt8) : (toChar b).toNat = b.toNat := by
  have h : b.toNat < 256 := b.toNat_lt
  have hv : b.toNat.isValidChar := Or.inl (by omega)
  rw [toChar, Char.ofNat, dif_pos hv]
  rfl

/-- Nothing is lost by showing bytes as characters. -/
@[simp] theorem narrow_widen (b : Bytes) : narrow (widen b) = b := by
  have h : ascii ∘ toChar = id := by
    funext x
    simp [ascii, toChar_toNat]
  simp [narrow, widen, h]

end Bytes

end GuardCost
