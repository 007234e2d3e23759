/-
GuardCost/Utility/Digest.lean

Digests of files.  A message is aligned up to whole blocks of sixty-four bytes
with a one bit, zeros, and its length in bits; the blocks are mixed into the
state of the digest one after the other.
-/
import GuardCost.Utility.Compare

namespace GuardCost.Utility.Digest

open Process

/-! ### Blocks -/

/-- The bytes of a number, the least significant one first. -/
def littleBytes (count n : Nat) : List UInt8 :=
  (List.range count).map fun i => UInt8.ofNat (n / Nat.pow 256 i)

/-- A message aligned up to whole blocks. -/
def padded (bigEndian : Bool) (message : List UInt8) : List UInt8 :=
  let zeros := (119 - message.length % 64) % 64
  let length := littleBytes 8 (message.length * 8)
  message ++ 0x80 :: List.replicate zeros 0 ++ (if bigEndian then length.reverse else length)

/-- The word that four bytes stand for. -/
def wordOf (bigEndian : Bool) (bytes : List UInt8) : UInt32 :=
  (if bigEndian then bytes else bytes.reverse).foldl
    (fun w b => w <<< 8 ||| UInt32.ofNat b.toNat) 0

/-- The words of a block. -/
def wordsOf (bigEndian : Bool) (block : List UInt8) : List UInt32 :=
  (List.range 16).map fun i => wordOf bigEndian ((block.drop (4 * i)).take 4)

/-- The blocks of a message. -/
def blocksOf (bytes : List UInt8) : List (List UInt8) :=
  (List.range (bytes.length / 64)).map fun i => (bytes.drop (64 * i)).take 64

/-- Turn the bits of a word to the left. -/
def turnLeft (w : UInt32) (n : Nat) : UInt32 :=
  w <<< UInt32.ofNat n ||| w >>> UInt32.ofNat (32 - n)

/-- Turn the bits of a word to the right. -/
def turnRight (w : UInt32) (n : Nat) : UInt32 := turnLeft w (32 - n)

/-- A byte as two digits. -/
def hexByte (b : UInt8) : String :=
  let ds := Nat.toDigits 16 b.toNat
  String.ofList (List.replicate (2 - ds.length) '0' ++ ds)

/-- The bytes of a word as digits. -/
def hexWord (bigEndian : Bool) (w : UInt32) : String :=
  let bytes := littleBytes 4 w.toNat
  String.join ((if bigEndian then bytes.reverse else bytes).map hexByte)

/-- The state with the words of another one added. -/
def added (a b : List UInt32) : List UInt32 := (a.zip b).map fun (x, y) => x + y

/-! ### Digests -/

/-- The constants of the digest of 128 bits: whole parts of sines. -/
def sines : List UInt32 :=
  [0xd76aa478, 0xe8c7b756, 0x242070db, 0xc1bdceee, 0xf57c0faf, 0x4787c62a, 0xa8304613, 0xfd469501,
   0x698098d8, 0x8b44f7af, 0xffff5bb1, 0x895cd7be, 0x6b901122, 0xfd987193, 0xa679438e, 0x49b40821,
   0xf61e2562, 0xc040b340, 0x265e5a51, 0xe9b6c7aa, 0xd62f105d, 0x02441453, 0xd8a1e681, 0xe7d3fbc8,
   0x21e1cde6, 0xc33707d6, 0xf4d50d87, 0x455a14ed, 0xa9e3e905, 0xfcefa3f8, 0x676f02d9, 0x8d2a4c8a,
   0xfffa3942, 0x8771f681, 0x6d9d6122, 0xfde5380c, 0xa4beea44, 0x4bdecfa9, 0xf6bb4b60, 0xbebfbc70,
   0x289b7ec6, 0xeaa127fa, 0xd4ef3085, 0x04881d05, 0xd9d4d039, 0xe6db99e5, 0x1fa27cf8, 0xc4ac5665,
   0xf4292244, 0x432aff97, 0xab9423a7, 0xfc93a039, 0x655b59c3, 0x8f0ccc92, 0xffeff47d, 0x85845dd1,
   0x6fa87e4f, 0xfe2ce6e0, 0xa3014314, 0x4e0811a1, 0xf7537e82, 0xbd3af235, 0x2ad7d2bb, 0xeb86d391]

/-- How far words are turned in the digest of 128 bits. -/
def turns : List (List Nat) := [[7, 12, 17, 22], [5, 9, 14, 20], [4, 11, 16, 23], [6, 10, 15, 21]]

/-- Mix a block into a state of four words. -/
def mixFour (state words : List UInt32) : List UInt32 :=
  let mixed := (List.range 64).foldl (fun (s : List UInt32) i =>
    match s with
    | [a, b, c, d] =>
      let (f, g) := match i / 16 with
        | 0 => ((b &&& c) ||| (~~~b &&& d), i)
        | 1 => ((d &&& b) ||| (~~~d &&& c), (5 * i + 1) % 16)
        | 2 => (b ^^^ c ^^^ d, (3 * i + 5) % 16)
        | _ => (c ^^^ (b ||| ~~~d), (7 * i) % 16)
      let turn := (turns.getD (i / 16) []).getD (i % 4) 0
      let sum := a + f + sines.getD i 0 + words.getD g 0
      [d, b + turnLeft sum turn, b, c]
    | s => s) state
  added state mixed

/-- The digest of 128 bits. -/
def ofFour (message : List UInt8) : String :=
  let state := (blocksOf (padded false message)).foldl
    (fun s block => mixFour s (wordsOf false block))
    [0x67452301, 0xefcdab89, 0x98badcfe, 0x10325476]
  String.join (state.map (hexWord false))

/-- Words for so many rounds, each made from earlier ones. -/
def extended (count : Nat) (next : Array UInt32 → UInt32) (words : List UInt32) : Array UInt32 :=
  (List.range (count - 16)).foldl (fun w _ => w.push (next w)) words.toArray

/-- The word that is so far from the end. -/
def back (w : Array UInt32) (n : Nat) : UInt32 := w.getD (w.size - n) 0

/-- Mix a block into a state of five words. -/
def mixFive (state words : List UInt32) : List UInt32 :=
  let w := extended 80 (fun w => turnLeft (back w 3 ^^^ back w 8 ^^^ back w 14 ^^^ back w 16) 1)
    words
  let mixed := (List.range 80).foldl (fun (s : List UInt32) i =>
    match s with
    | [a, b, c, d, e] =>
      let (f, k) : UInt32 × UInt32 := match i / 20 with
        | 0 => ((b &&& c) ||| (~~~b &&& d), 0x5a827999)
        | 1 => (b ^^^ c ^^^ d, 0x6ed9eba1)
        | 2 => ((b &&& c) ||| (b &&& d) ||| (c &&& d), 0x8f1bbcdc)
        | _ => (b ^^^ c ^^^ d, 0xca62c1d6)
      [turnLeft a 5 + f + e + k + w.getD i 0, a, turnLeft b 30, c, d]
    | s => s) state
  added state mixed

/-- The digest of 160 bits. -/
def ofFive (message : List UInt8) : String :=
  let state := (blocksOf (padded true message)).foldl
    (fun s block => mixFive s (wordsOf true block))
    [0x67452301, 0xefcdab89, 0x98badcfe, 0x10325476, 0xc3d2e1f0]
  String.join (state.map (hexWord true))

/-- The constants of the digest of 256 bits: parts of cube roots of primes. -/
def roots : List UInt32 :=
  [0x428a2f98, 0x71374491, 0xb5c0fbcf, 0xe9b5dba5, 0x3956c25b, 0x59f111f1, 0x923f82a4, 0xab1c5ed5,
   0xd807aa98, 0x12835b01, 0x243185be, 0x550c7dc3, 0x72be5d74, 0x80deb1fe, 0x9bdc06a7, 0xc19bf174,
   0xe49b69c1, 0xefbe4786, 0x0fc19dc6, 0x240ca1cc, 0x2de92c6f, 0x4a7484aa, 0x5cb0a9dc, 0x76f988da,
   0x983e5152, 0xa831c66d, 0xb00327c8, 0xbf597fc7, 0xc6e00bf3, 0xd5a79147, 0x06ca6351, 0x14292967,
   0x27b70a85, 0x2e1b2138, 0x4d2c6dfc, 0x53380d13, 0x650a7354, 0x766a0abb, 0x81c2c92e, 0x92722c85,
   0xa2bfe8a1, 0xa81a664b, 0xc24b8b70, 0xc76c51a3, 0xd192e819, 0xd6990624, 0xf40e3585, 0x106aa070,
   0x19a4c116, 0x1e376c08, 0x2748774c, 0x34b0bcb5, 0x391c0cb3, 0x4ed8aa4a, 0x5b9cca4f, 0x682e6ff3,
   0x748f82ee, 0x78a5636f, 0x84c87814, 0x8cc70208, 0x90befffa, 0xa4506ceb, 0xbef9a3f7, 0xc67178f2]

/-- Mix a block into a state of eight words. -/
def mixEight (state words : List UInt32) : List UInt32 :=
  let w := extended 64 (fun w =>
    let (x, y) := (back w 15, back w 2)
    back w 16 + (turnRight x 7 ^^^ turnRight x 18 ^^^ x >>> 3) + back w 7
      + (turnRight y 17 ^^^ turnRight y 19 ^^^ y >>> 10)) words
  let mixed := (List.range 64).foldl (fun (s : List UInt32) i =>
    match s with
    | [a, b, c, d, e, f, g, h] =>
      let t := h + (turnRight e 6 ^^^ turnRight e 11 ^^^ turnRight e 25)
        + ((e &&& f) ^^^ (~~~e &&& g)) + roots.getD i 0 + w.getD i 0
      let u := (turnRight a 2 ^^^ turnRight a 13 ^^^ turnRight a 22)
        + ((a &&& b) ^^^ (a &&& c) ^^^ (b &&& c))
      [t + u, a, b, c, d + t, e, f, g]
    | s => s) state
  added state mixed

/-- The digest of 256 bits. -/
def ofEight (message : List UInt8) : String :=
  let state := (blocksOf (padded true message)).foldl
    (fun s block => mixEight s (wordsOf true block))
    [0x6a09e667, 0xbb67ae85, 0x3c6ef372, 0xa54ff53a, 0x510e527f, 0x9b05688c, 0x1f83d9ab, 0x5be0cd19]
  String.join (state.map (hexWord true))

/-- Mix a byte into a checksum. -/
def mixByte (crc : UInt32) (b : UInt8) : UInt32 :=
  (List.range 8).foldl (fun (c : UInt32) _ =>
    if c &&& 0x80000000 != 0 then c <<< 1 ^^^ 0x04c11db7 else c <<< 1)
    (crc ^^^ UInt32.ofNat b.toNat <<< 24)

/-- The bytes of a length, as far as they are needed. -/
def lengthBytes (allowance n : Nat) : List UInt8 :=
  match allowance with
  | 0 => []
  | k + 1 => if n = 0 then [] else UInt8.ofNat n :: lengthBytes k (n / 256)

/-- The checksum of a message. -/
def checksum (message : List UInt8) : Nat :=
  (~~~((message ++ lengthBytes 8 message.length).foldl mixByte 0)).toNat

/-- The old checksum of a message. -/
def oldChecksum (message : List UInt8) : Nat :=
  message.foldl (fun s b => (s / 2 + s % 2 * 32768 + b.toNat) % 65536) 0

/-! ### Commands -/

/-- Write the digests of files, or check those that were written. -/
def writeDigests (digest : List UInt8 → String) : Tool := fun _ arguments => do
  let known := [switch 'c' "check", switch 'b' "binary", switch 't' "text", switch 'w' "warn",
    switch 'z' "zero", named "quiet" .nothing, named "status" .nothing, named "strict" .nothing,
    named "tag" .nothing, named "ignore-missing" .nothing]
  let line ← parse known true 1 arguments
  if line.has "c" then
    let (text, good) ← readTogether line.operands
    let results ← (bareLines text).mapM fun row => do
      match splitFirst? ' ' row.toList with
      | none => return true
      | some (sum, name) =>
        let file := String.ofList (name.drop 1)
        match ← readFile file with
        | .error cause =>
          complain (quoteIfNeeded file ++ ": " ++ cause.plainMessage)
          emitLine (quoteIfNeeded file ++ ": FAILED open or read")
          return false
        | .ok content =>
          let same := digest (Bytes.narrow content) == String.ofList sum
          if !line.has "status" && !(same && line.has "quiet") then
            emitLine (quoteIfNeeded file ++ (if same then ": OK" else ": FAILED"))
          return same
    let wrong := (results.filter (!·)).length
    if wrong > 0 then
      flush
      complain ("WARNING: " ++ toString wrong
        ++ (if wrong = 1 then " computed checksum did NOT match"
          else " computed checksums did NOT match"))
    return if good && wrong = 0 then 0 else 1
  else
    let good ← readEach line.operands fun file text =>
      emitLine (digest (Bytes.narrow text) ++ (if line.has "b" then " *" else "  ") ++ file)
    return if good then 0 else 1

/-- Write the checksums of files, with their sizes. -/
def writeChecksums (sum : List UInt8 → String) (namesOne : Bool) : Tool :=
  fun _ arguments => do
    let line ← parse (letters "rs") true 1 arguments
    let good ← readEach line.operands fun file text =>
      let named := !line.operands.isEmpty && (namesOne || file != "-")
      emitLine (sum (Bytes.narrow text) ++ (if named then " " ++ file else ""))
    return if good then 0 else 1

/-- A checksum with the length of the message. -/
def checksumText (message : List UInt8) : String :=
  toString (checksum message) ++ " " ++ toString message.length

/-- An old checksum with the kibibytes of the message. -/
def oldChecksumText (message : List UInt8) : String :=
  Moment.digits 5 (oldChecksum message) ++ " "
    ++ aligned 5 (toString ((message.length + 1023) / 1024))

end GuardCost.Utility.Digest
