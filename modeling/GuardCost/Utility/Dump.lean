/-
GuardCost/Utility/Dump.lean

Bytes in other forms: as numbers, as letters of a base, in pieces and in
blocks.
-/
import GuardCost.Utility.Digest

namespace GuardCost.Utility.Dump

open Process

/-! ### Numbers -/

/-- A form of bytes: how many make up one number, and how it is shown. -/
structure Form where
  size : Nat
  width : Nat
  show_ : Nat → String
  /-- Whether the characters are shown after the numbers. -/
  trailed : Bool := false

/-- A number in a base. -/
def inBase (base digits n : Nat) : String :=
  let ds := Nat.toDigits base n
  String.ofList (List.replicate (digits - ds.length) '0' ++ ds)

/-- A byte as a character, or as an escape. -/
def charForm (n : Nat) : String :=
  let c := Char.ofNat n
  match n with
  | 0 => "\\0"
  | 7 => "\\a"
  | 8 => "\\b"
  | 9 => "\\t"
  | 10 => "\\n"
  | 11 => "\\v"
  | 12 => "\\f"
  | 13 => "\\r"
  | n => if isShown c then c.toString else inBase 8 3 n

/-- A byte by its name. -/
def nameForm (n : Nat) : String :=
  let names := ["nul", "soh", "stx", "etx", "eot", "enq", "ack", "bel", "bs", "ht", "nl", "vt",
    "ff", "cr", "so", "si", "dle", "dc1", "dc2", "dc3", "dc4", "nak", "syn", "etb", "can", "em",
    "sub", "esc", "fs", "gs", "rs", "us", "sp"]
  let n := n % 128
  if n = 127 then "del" else names.getD n (Char.ofNat n).toString

/-- A number with a sign. -/
def signedForm (size n : Nat) : String :=
  let half := Nat.pow 256 size / 2
  if n < half then toString n else "-" ++ toString (Nat.pow 256 size - n)

/-- How many digits the greatest number of a size has in a base. -/
def digitsOf (base size : Nat) : Nat := (Nat.toDigits base (Nat.pow 256 size - 1)).length

/-- The form of a letter and a size. -/
def formOf? (letter : Char) (size : Nat) : Option Form :=
  match letter with
  | 'x' => some ⟨size, 2 * size, inBase 16 (2 * size), false⟩
  | 'o' => some ⟨size, digitsOf 8 size, inBase 8 (digitsOf 8 size), false⟩
  | 'u' => some ⟨size, digitsOf 10 size, fun n => toString n, false⟩
  | 'd' => some ⟨size, digitsOf 10 size + (if size = 8 then 0 else 1), signedForm size, false⟩
  | 'c' => some ⟨1, 3, charForm, false⟩
  | 'a' => some ⟨1, 3, nameForm, false⟩
  | _ => none

/-- The forms that a word names. -/
def formsOf (allowance : Nat) (cs : List Char) : Option (List Form) :=
  match allowance, cs with
  | n + 1, letter :: rest =>
    let digits := rest.takeWhile Char.isDigit
    let after := rest.drop digits.length
    let (size, after) := match natural? (String.ofList digits), after with
      | some k, _ => (k, after)
      | none, 'C' :: more => (1, more)
      | none, 'S' :: more => (2, more)
      | none, 'I' :: more => (4, more)
      | none, 'L' :: more => (8, more)
      | none, _ => (if letter == 'c' || letter == 'a' then 1 else 4, after)
    let (trailed, after) := match after with
      | 'z' :: more => (true, more)
      | _ => (false, after)
    match formOf? letter size, formsOf n after with
    | some form, some forms => some ({ form with trailed } :: forms)
    | _, _ => none
  | _, _ => some []

/-- The numbers in a row of bytes. -/
def numbersIn (size : Nat) (row : List Nat) : List Nat :=
  (List.range ((row.length + size - 1) / size)).map fun i =>
    (((row.drop (i * size)).take size).reverse).foldl (fun n b => n * 256 + b) 0

/-- Rows of so many bytes. -/
def rowsOf (width : Nat) (bytes : List Nat) : List (List Nat) :=
  (List.range ((bytes.length + width - 1) / width)).map fun i => (bytes.drop (i * width)).take width

/-- Show bytes as numbers. -/
def dumpBytes : Tool := fun _ arguments => do
  let known := [valued 'A' "address-radix", valued 't' "format", switch 'v' "output-duplicates",
    valued 'j' "skip-bytes", valued 'N' "read-bytes", ⟨"w", 'w', some "width", .maybe⟩]
    ++ letters "abcdfiloxs"
  let line ← parse known true 1 arguments
  let old := fun (key : String) =>
    match key with
    | "a" => some "a"
    | "b" => some "o1"
    | "c" => some "c"
    | "d" => some "u2"
    | "i" => some "d4"
    | "l" => some "d8"
    | "o" => some "o2"
    | "s" => some "d2"
    | "x" => some "x2"
    | _ => none
  let words := line.options.filterMap fun g => if g.key == "t" then g.value? else old g.key
  let words := if words.isEmpty then ["o2"] else words
  let forms ← words.mapM fun word =>
    match formsOf word.length word.toList with
    | some forms => pure forms
    | none => fatal 1 ("invalid character '" ++ String.ofList (word.toList.take 1)
        ++ "' in type string " ++ quoteWord word)
  let forms := forms.flatten
  let (text, good) ← readTogether line.operands
  let skip := ((line.value? "j").bind sizeOf?).getD 0
  let bytes := (text.toList.map Char.toNat).drop skip
  let bytes := ((line.value? "N").bind sizeOf?).elim bytes bytes.take
  let width := if line.has "w" then ((line.value? "w").bind natural?).getD 32 else 16
  let address := fun (n : Nat) =>
    match line.value? "A" with
    | some "n" => ""
    | some "d" => inBase 10 7 n
    | some "x" => inBase 16 6 n
    | _ => inBase 8 7 n
  -- numbers of one byte take up as much room in every form
  let room := fun (f : Form) =>
    (forms.map fun g => (g.width + 1) * f.size / g.size).foldl max (f.width + 1)
  let shownRow := fun (at_ : Nat) (row : List Nat) =>
    String.join (forms.zipIdx.map fun (f, i) =>
      let numbers := String.join ((numbersIn f.size row).map fun n => aligned (room f) (f.show_ n))
      let trail := if f.trailed then
          let missing := (width / f.size - (numbersIn f.size row).length) * room f
          String.ofList (List.replicate missing ' ') ++ "  >"
            ++ String.ofList (row.map fun n =>
              let c := Char.ofNat n
              if isShown c then c else '.') ++ "<"
        else ""
      let lead := if i = 0 then address at_
        else String.ofList (List.replicate (address at_).length ' ')
      lead ++ numbers ++ trail ++ "\n")
  let rows := (rowsOf (max width 1) bytes).zipIdx
  let rec go (last? : Option (List Nat)) (starred : Bool) : List (List Nat × Nat) → List String
    | [] => []
    | (row, i) :: rest =>
      if !line.has "v" && last? == some row && row.length = width then
        (if starred then [] else ["*\n"]) ++ go last? true rest
      else shownRow (skip + i * width) row :: go (some row) false rest
  emit (String.join (go none false rows))
  let final := address (skip + bytes.length)
  if !final.isEmpty && (good || !text.isEmpty) then emitLine final
  return if good then 0 else 1

/-! ### Letters -/

/-- The letters of the base of sixty-four. -/
def sixtyFour : List Char :=
  "ABCDEFGHIJKLMNOPQRSTUVWXYZabcdefghijklmnopqrstuvwxyz0123456789+/".toList

/-- The letters of the base of thirty-two. -/
def thirtyTwo : List Char := "ABCDEFGHIJKLMNOPQRSTUVWXYZ234567".toList

/-- Bytes in letters: so many bits to a letter, and so many letters to a whole
group. -/
def encoded (letters : List Char) (bits group : Nat) (bytes : List Nat) : String :=
  let all := bytes.flatMap fun b => (List.range 8).map fun i => b / Nat.pow 2 (7 - i) % 2
  let count := (all.length + bits - 1) / bits
  let digits := (List.range count).map fun i =>
    let part := (all.drop (i * bits)).take bits
    let part := part ++ List.replicate (bits - part.length) 0
    letters.getD (part.foldl (fun n b => n * 2 + b) 0) 'A'
  String.ofList (digits ++ List.replicate ((group - count % group) % group) '=')

/-- The bytes of letters; the second part says whether all of them were
letters. -/
def decoded (letters : List Char) (bits : Nat) (cs : List Char) : List Nat × Bool :=
  let body := (cs.takeWhile (· != '='))
  let values := body.map fun c => letters.findIdx? (· == c)
  let valid := values.takeWhile Option.isSome
  let all := valid.flatMap fun v? =>
    (List.range bits).map fun i => v?.getD 0 / Nat.pow 2 (bits - 1 - i) % 2
  let bytes := (List.range (all.length / 8)).map fun i =>
    ((all.drop (i * 8)).take 8).foldl (fun n b => n * 2 + b) 0
  let whole := valid.length = values.length && (cs.drop body.length).all (· == '=')
    && (bits != 6 || cs.length % 4 = 0)
  (bytes, whole)

/-- Write bytes in letters, or letters as bytes. -/
def writeEncoded (alphabet : List Char) (bits group : Nat) : Tool := fun _ arguments => do
  let known := [switch 'd' "decode", switch 'i' "ignore-garbage", valued 'w' "wrap"]
  let line ← parse known true 1 arguments
  match line.operands with
  | _ :: extra :: _ => misuse 1 ("extra operand " ++ quoteForShell extra)
  | _ => pure ()
  let file := line.operands.headD "-"
  match ← readFile file with
  | .error cause => fatal 1 (quoteIfNeeded file ++ ": " ++ cause.plainMessage)
  | .ok text =>
    if line.has "d" then
      let cs := text.toList.filter (· != '\n')
      let cs := if line.has "i" then cs.filter fun c => alphabet.contains c || c == '=' else cs
      let (bytes, whole) := decoded alphabet bits cs
      emit (String.ofList (bytes.map Char.ofNat))
      if whole then return 0
      else
        flush
        fatal 1 "invalid input"
    else
      let letters := (encoded alphabet bits group (text.toList.map Char.toNat)).toList
      let width := ((line.value? "w").bind natural?).getD 76
      if width = 0 then emit (String.ofList letters)
      else
        for i in List.range ((letters.length + width - 1) / width) do
          emitLine (String.ofList ((letters.drop (i * width)).take width))
      return 0

/-! ### Pieces -/

/-- The names of pieces, in order. -/
def pieceName (before : String) (length i : Nat) : String :=
  let letter := fun (k : Nat) => Char.ofNat ('a'.toNat + i / Nat.pow 26 (length - 1 - k) % 26)
  before ++ String.ofList ((List.range length).map letter)

/-- Cut a file into pieces. -/
def splitFile : Tool := fun _ arguments => do
  let known := [valued 'l' "lines", valued 'b' "bytes", valued 'a' "suffix-length",
    switch 'd' "numeric-suffixes", valued 'n' "number", named "additional-suffix" .value]
  let line ← parse known true 1 arguments
  let file := line.operands.headD "-"
  match ← readFile file with
  | .error cause => fatal 1 ("cannot open " ++ quoteForShell file ++ " for reading: "
      ++ cause.plainMessage)
  | .ok text =>
    let pieces := match (line.value? "b").bind sizeOf? with
      | some size => (rowsOf (max size 1) (text.toList.map Char.toNat)).map
          fun (row : List Nat) => String.ofList (row.map Char.ofNat)
      | none =>
        let count := max 1 (((line.value? "l").bind natural?).getD 1000)
        let rows := linesOf text
        (List.range ((rows.length + count - 1) / count)).map fun i =>
          String.join ((rows.drop (i * count)).take count)
    let length := ((line.value? "a").bind natural?).getD 2
    let before := line.operands.getD 1 "x"
    let results ← pieces.zipIdx.mapM fun (piece, i) =>
      let name := if line.has "d" then before ++ Moment.digits length i
        else pieceName before length i
      let name := name ++ (line.value? "additional-suffix").getD ""
      attempt name fun w =>
        w.files.write w.current w.now (pathOf name) (Bytes.narrow piece)
    return codeOfAll results

/-! ### Blocks -/

/-- Copy blocks from one file to another one. -/
def copyBlocks : Tool := fun _ arguments => do
  let settings := arguments.map fun a =>
    match splitFirst? '=' a.toList with
    | some (key, value) => (a, String.ofList key, String.ofList value)
    | none => (a, "", "")
  let keys := ["if", "of", "bs", "ibs", "obs", "cbs", "count", "skip", "seek", "conv", "status",
    "iflag", "oflag"]
  match settings.find? fun (_, key, _) => !keys.contains key with
  | some (a, _, _) => misuse 1 ("unrecognized operand " ++ quoteForShell a)
  | none => pure ()
  let value? := fun (key : String) => (settings.reverse.find? fun s => s.2.1 == key).map (·.2.2)
  let number := fun (key : String) (usual : Nat) => do
    match value? key with
    | none => pure usual
    | some text =>
      match sizeOf? text with
      | some n => pure n
      | none => fatal 1 ("invalid number: " ++ quoteForShell text)
  let size ← number "bs" 512
  let inSize ← number "ibs" size
  let outSize ← number "obs" size
  let count ← number "count" 0
  let skip ← number "skip" 0
  let seek ← number "seek" 0
  let limit? := (value? "count").map fun _ => count * inSize
  let input ← match value? "if" with
    | none => readAll 0
    | some file =>
      let p ← get
      match look p true file with
      | .ok (_, .device .zero) =>
        pure (String.ofList (List.replicate ((limit?.getD 0) + skip * inSize) '\x00'))
      | _ =>
        match ← readFile file with
        | .ok text => pure text
        | .error cause =>
          if cause = .isDirectory then
            fatal 1 ("error reading " ++ quoteForShell file ++ ": " ++ cause.plainMessage)
          else fatal 1 ("failed to open " ++ quoteForShell file ++ ": " ++ cause.plainMessage)
  let bytes := input.toList.drop (skip * inSize)
  let bytes := limit?.elim bytes bytes.take
  let conversions := ((value? "conv").map fun text =>
    (partsAt ',' text.toList).map String.ofList).getD []
  let bytes := if conversions.contains "ucase" then bytes.map Char.toUpper
    else if conversions.contains "lcase" then bytes.map Char.toLower else bytes
  let new := Bytes.narrow (String.ofList bytes)
  match value? "of" with
  | none => put (String.ofList bytes)
  | some file =>
    let old := ((← get).machine.files.read (← get).directory (pathOf file)).toOption.getD []
    let start := seek * outSize
    let kept := if conversions.contains "notrunc" then old else old.take start
    let content := Machine.overwrite kept start new
    match ← edit fun w => w.files.write w.current w.now (pathOf file) content with
    | .ok () => pure ()
    | .error cause => fatal 1 ("failed to open " ++ quoteForShell file ++ ": "
        ++ cause.plainMessage)
  let records := fun (size : Nat) =>
    toString (bytes.length / size) ++ "+" ++ (if bytes.length % size = 0 then "0" else "1")
  if value? "status" != some "none" then
    putError (records inSize ++ " records in\n" ++ records outSize ++ " records out\n")
    if value? "status" != some "noxfer" then
      putError (toString bytes.length ++ " bytes copied, 0.0001 s, 1.0 MB/s\n")
  return 0

/-! ### Texts in files -/

/-- Runs of characters that can be shown, of a length at least. -/
def textRuns (least : Nat) (run : List Char) : List Char → List String
  | [] => if least ≤ run.length then [String.ofList run.reverse] else []
  | c :: rest =>
    if isShown c || c == '\t' then textRuns least (c :: run) rest
    else
      (if least ≤ run.length then [String.ofList run.reverse] else []) ++ textRuns least [] rest

/-- Show the texts in files. -/
def showTexts : Tool := fun _ arguments => do
  let line ← parse [switch 'a' "all", valued 'n' "bytes"] true 1 arguments
  let least := ((line.value? "n").bind natural?).getD 4
  let good ← readEach line.operands fun _ text =>
    emit (String.join ((textRuns least [] text.toList).map (· ++ "\n")))
  return if good then 0 else 1

end GuardCost.Utility.Dump
