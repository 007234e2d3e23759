/-
GuardCost/Utility/Sorting.lean

Utilities that order lines, or rely on their order.  Lines are compared by
keys, which are parts of them, one key after the other; lines that no key
tells apart are compared as a whole.
-/
import GuardCost.Utility.Columns

namespace GuardCost.Utility

open Process

/-! ### Comparing -/

/-- How keys are compared. -/
structure Comparison where
  numeric : Bool := false
  /-- Whether numbers may have exponents. -/
  general : Bool := false
  /-- Whether numbers are followed by units. -/
  human : Bool := false
  version : Bool := false
  reversed : Bool := false
  ignoreCase : Bool := false
  /-- Whether only letters, digits and blanks count. -/
  dictionary : Bool := false
  shownOnly : Bool := false
  skipBlanks : Bool := false
  deriving DecidableEq, Repr

/-- A place in a line: a field, a character of it, and whether blanks before it
are passed over. -/
structure KeyPlace where
  field : Nat
  char : Nat
  skipBlanks : Bool
  deriving Repr

/-- A part of a line. -/
structure SortKey where
  first : KeyPlace
  last? : Option KeyPlace
  manner : Comparison
  deriving Repr

/-- A number as its sign and its digits, scaled to so many places. -/
def numberAt (cs : List Char) : Int :=
  let cs := cs.dropWhile fun c => c == ' ' || c == '\t'
  let (negative, cs) := match cs with
    | '-' :: rest => (true, rest)
    | cs => (false, cs)
  let whole := cs.takeWhile Char.isDigit
  let part := match cs.drop whole.length with
    | '.' :: rest => rest.takeWhile Char.isDigit
    | _ => []
  let digits := part.take 18 ++ List.replicate (18 - part.length) '0'
  let n := (whole ++ digits).foldl (fun n d => n * 10 + (d.toNat - '0'.toNat)) 0
  if negative then -(n : Int) else n

/-- The exponent after a number. -/
def exponentAt (cs : List Char) : Int :=
  let rest := cs.dropWhile fun c => c.isDigit || c == '.' || c == '-' || c == ' ' || c == '+'
  match rest with
  | 'e' :: '-' :: ds => -((natural? (String.ofList (ds.takeWhile Char.isDigit))).getD 0 : Int)
  | 'e' :: '+' :: ds => ((natural? (String.ofList (ds.takeWhile Char.isDigit))).getD 0 : Int)
  | 'e' :: ds => ((natural? (String.ofList (ds.takeWhile Char.isDigit))).getD 0 : Int)
  | 'E' :: ds => ((natural? (String.ofList (ds.takeWhile Char.isDigit))).getD 0 : Int)
  | _ => 0

/-- The order of a number with an exponent; texts that are no numbers come
first. -/
def generalOrder (cs : List Char) : Int × Int :=
  let cs := cs.dropWhile fun c => c == ' ' || c == '\t'
  let body := cs.dropWhile fun c => c == '-' || c == '+' || c == '.'
  if !(body.head?.any Char.isDigit) then (0, 0)
  else
    let n := numberAt (if cs.head? == some '+' then cs.tail else cs)
    let e := exponentAt cs
    (1, if e < 0 then n * 1000000000000000000 / Nat.pow 10 (-e).toNat
      else n * 1000000000000000000 * Nat.pow 10 e.toNat)

/-- The rank of the unit after a number. -/
def unitRank (cs : List Char) : Int :=
  let cs := cs.dropWhile fun c => c == ' ' || c == '\t'
  let negative := cs.head? == some '-'
  let rest := (if negative then cs.tail else cs).dropWhile fun c => c.isDigit || c == '.'
  let rank : Int := match rest.head? with
    | some 'K' => 1
    | some 'k' => 1
    | some 'M' => 2
    | some 'G' => 3
    | some 'T' => 4
    | some 'P' => 5
    | some 'E' => 6
    | _ => 0
  let rank := if numberAt cs = 0 then 0 else rank
  if negative then -rank else rank

/-- Compare texts byte by byte. -/
def compareChars (a b : List Char) : Ordering :=
  match a, b with
  | [], [] => .eq
  | [], _ => .lt
  | _, [] => .gt
  | x :: xs, y :: ys => (compare x.toNat y.toNat).then (compareChars xs ys)

/-- The rank of a character in a version: a tilde comes before the end, letters
before others. -/
def versionRank : Option Char → Nat
  | none => 1
  | some c => if c == '~' then 0 else if c.isAlpha then c.toNat else c.toNat + 256

/-- Compare versions: runs of digits count as numbers. -/
def compareVersions (allowance : Nat) (a b : List Char) : Ordering :=
  match allowance with
  | 0 => .eq
  | n + 1 =>
    let isText := fun (c : Char) => !c.isDigit
    let (ta, tb) := (a.takeWhile isText, b.takeWhile isText)
    let ranks := (List.range (max ta.length tb.length)).map fun i =>
      compare (versionRank ta[i]?) (versionRank tb[i]?)
    let (a, b) := (a.drop ta.length, b.drop tb.length)
    let (da, db) := (a.takeWhile Char.isDigit, b.takeWhile Char.isDigit)
    let value := fun (ds : List Char) => (natural? (String.ofList ds)).getD 0
    let first := (ranks.foldl Ordering.then .eq).then (compare (value da) (value db))
    let (a, b) := (a.drop da.length, b.drop db.length)
    if first != .eq || (a.isEmpty && b.isEmpty) then first else compareVersions n a b

/-- Compare two keys. -/
def Comparison.order (m : Comparison) (a b : List Char) : Ordering :=
  let trimmed := fun (cs : List Char) =>
    if m.skipBlanks then cs.dropWhile fun c => c == ' ' || c == '\t' else cs
  let kept := fun (cs : List Char) =>
    let cs := if m.dictionary then cs.filter fun c => c.isAlphanum || c == ' ' || c == '\t' else cs
    let cs := if m.shownOnly then cs.filter isShown else cs
    if m.ignoreCase then cs.map Char.toUpper else cs
  let (a, b) := (trimmed a, trimmed b)
  let result :=
    if m.human then (compare (unitRank a) (unitRank b)).then (compare (numberAt a) (numberAt b))
    else if m.general then
      let (x, y) := (generalOrder a, generalOrder b)
      (compare x.1 y.1).then (compare x.2 y.2)
    else if m.numeric then compare (numberAt a) (numberAt b)
    else if m.version then
      (compareVersions (a.length + b.length + 1) a b).then (compareChars a b)
    else compareChars (kept a) (kept b)
  if m.reversed then result.swap else result

/-! ### Keys -/

/-- Where a field starts in a line. -/
def fieldStart (separator? : Option Char) (field : Nat) (cs : List Char) : Nat :=
  match field with
  | 0 => 0
  | n + 1 =>
    let rest := cs.drop (fieldStart separator? n cs)
    let start := fieldStart separator? n cs
    match separator? with
    | some sep =>
      let length := (rest.takeWhile (· != sep)).length
      min cs.length (start + length + 1)
    | none =>
      let blanks := (rest.takeWhile fun c => c == ' ' || c == '\t').length
      let word := ((rest.drop blanks).takeWhile fun c => !(c == ' ' || c == '\t')).length
      start + blanks + word

/-- Pass over blanks from a place on. -/
def pastBlanks (cs : List Char) (i : Nat) : Nat :=
  i + ((cs.drop i).takeWhile fun c => c == ' ' || c == '\t').length

/-- The part of a line that a key is. -/
def SortKey.part (k : SortKey) (separator? : Option Char) (cs : List Char) : List Char :=
  let start := fieldStart separator? (k.first.field - 1) cs
  let start := if k.first.skipBlanks then pastBlanks cs start else start
  let start := min cs.length (start + (k.first.char - 1))
  let stop := match k.last? with
    | none => cs.length
    | some place =>
      if place.char = 0 then
        let next := fieldStart separator? place.field cs
        match separator? with
        | some sep =>
          if next > 0 && cs[next - 1]? == some sep
            && (next < cs.length || cs.getLast? == some sep)
            && ((cs.take next).filter (· == sep)).length ≥ place.field then next - 1 else next
        | none => next
      else
        let begin_ := fieldStart separator? (place.field - 1) cs
        let begin_ := if place.skipBlanks then pastBlanks cs begin_ else begin_
        min cs.length (begin_ + place.char)
  (cs.take stop).drop start

/-- Set a letter of a way to compare. -/
def Comparison.withLetter? (m : Comparison) (c : Char) : Option Comparison :=
  match c with
  | 'n' => some { m with numeric := true }
  | 'g' => some { m with general := true }
  | 'h' => some { m with human := true }
  | 'V' => some { m with version := true }
  | 'r' => some { m with reversed := true }
  | 'f' => some { m with ignoreCase := true }
  | 'd' => some { m with dictionary := true }
  | 'i' => some { m with shownOnly := true }
  | 'b' => some m
  | 'M' => some m
  | 'R' => some m
  | _ => none

/-- Read a place of a key, and what comes after it. -/
def keyPlace (spec : String) (isStart : Bool) (cs : List Char) :
    Except String (Nat × Nat × List Char) := do
  let digits := cs.takeWhile Char.isDigit
  let rest := cs.drop digits.length
  let side := if isStart then "start" else "after ','"
  let field ← match natural? (String.ofList digits) with
    | some n => pure n
    | none =>
      throw (if isStart then "invalid number at field start: invalid count at start of "
          ++ quoteWord (String.ofList cs)
        else "invalid number " ++ side ++ ": invalid count at start of "
          ++ quoteWord (String.ofList cs))
  if field = 0 then
    throw ("field number is zero: invalid field specification " ++ quoteWord spec)
  match rest with
  | '.' :: rest =>
    let digits := rest.takeWhile Char.isDigit
    match natural? (String.ofList digits) with
    | none =>
      throw ("invalid number after '.': invalid count at start of "
        ++ quoteWord (String.ofList rest))
    | some 0 =>
      if isStart then
        throw ("character offset is zero: invalid field specification " ++ quoteWord spec)
      else return (field, 0, rest.drop digits.length)
    | some n => return (field, n, rest.drop digits.length)
  | _ => return (field, if isStart then 1 else 0, rest)

/-- Read letters after a place; the second result is whether blanks are passed
over. -/
def keyLetters (m : Comparison) (blanks given : Bool) :
    List Char → Comparison × Bool × Bool × List Char
  | c :: cs =>
    match m.withLetter? c with
    | some m => keyLetters m (blanks || c == 'b') true cs
    | none => (m, blanks, given, c :: cs)
  | [] => (m, blanks, given, [])

/-- Read a key; where it says nothing of how it is compared, the general way
counts. -/
def sortKey (general : Comparison) (spec : String) : Except String SortKey := do
  let (field, char, rest) ← keyPlace spec true spec.toList
  let (m, blanks, given, rest) := keyLetters {} false false rest
  let stray : Except String SortKey :=
    .error ("stray character in field spec: invalid field specification " ++ quoteWord spec)
  match rest with
  | [] =>
    return {
      first := ⟨field, char, blanks || (!given && general.skipBlanks)⟩
      last? := none
      manner := if given then m else general }
  | ',' :: rest =>
    let (lastField, lastChar, rest) ← keyPlace spec false rest
    let (m, lastBlanks, given, rest) := keyLetters m false given rest
    if !rest.isEmpty then stray
    else
      return {
        first := ⟨field, char, blanks || (!given && general.skipBlanks)⟩
        last? := some ⟨lastField, lastChar, lastBlanks || (!given && general.skipBlanks)⟩
        manner := if given then m else general }
  | _ => stray

/-! ### Sorting -/

/-- Sort the lines of files, or say whether they are sorted. -/
def sortLines : Tool := fun _ arguments => do
  let known := [switch 'n' "numeric-sort", switch 'g' "general-numeric-sort",
    switch 'h' "human-numeric-sort", switch 'V' "version-sort", switch 'r' "reverse",
    switch 'f' "ignore-case", switch 'd' "dictionary-order", switch 'i' "ignore-nonprinting",
    switch 'b' "ignore-leading-blanks", switch 'u' "unique", switch 's' "stable",
    ⟨"c", 'c', none, .nothing⟩, ⟨"c", none, some "check", .maybe⟩, switch 'C' "C",
    switch 'm' "merge", switch 'z' "zero-terminated", switch 'M' "month-sort",
    switch 'R' "random-sort", valued 'k' "key", valued 't' "field-separator", valued 'o' "output",
    valued 'T' "temporary-directory", valued 'S' "buffer-size", named "parallel" .value]
  let line ← parse known true 2 arguments
  let general : Comparison :=
    { numeric := line.has "n", general := line.has "g", human := line.has "h"
      version := line.has "V", reversed := line.has "r", ignoreCase := line.has "f"
      dictionary := line.has "d", shownOnly := line.has "i", skipBlanks := line.has "b" }
  let separator? ← match line.value? "t" with
    | none => pure none
    | some "" => fatal 2 "empty tab"
    | some "\\0" => pure (some '\x00')
    | some t =>
      if t.length > 1 then fatal 2 ("multi-character tab " ++ quoteForShell t)
      else pure (some (t.toList.headD ' '))
  let keys ← (line.values "k").mapM fun spec => do
    match sortKey general spec with
    | .ok key => pure key
    | .error mistake => fatal 2 mistake
  let kinds := (if general.general then "g" else "") ++ (if general.human then "h" else "")
    ++ (if general.numeric then "n" else "") ++ (if general.version then "V" else "")
  if keys.isEmpty && kinds.length > 1 then
    fatal 2 ("options '-" ++ kinds ++ "' are incompatible")
  let checks := line.has "c" || line.has "C"
  if checks then
    match line.operands with
    | _ :: extra :: _ =>
      fatal 2 ("extra operand " ++ quoteWord extra ++ " not allowed with -"
        ++ (if line.has "c" then "c" else "C"))
    | _ => pure ()
  let partsOf := fun (cs : List Char) =>
    if keys.isEmpty then [(general, cs)]
    else keys.map fun k => (k.manner, k.part separator? cs)
  let orderOf := fun (a b : List Char × List (Comparison × List Char)) =>
    let byKeys := (a.2.zip b.2).foldl (fun o (x, y) => o.then (x.1.order x.2 y.2)) Ordering.eq
    let whole := compareChars a.1 b.1
    if line.has "u" || line.has "s" then byKeys
    else byKeys.then (if general.reversed then whole.swap else whole)
  let prepared := fun (text : String) =>
    (bareLines text).map fun row => (row.toList, partsOf row.toList)
  let files := if line.operands.isEmpty then ["-"] else line.operands
  let texts ← files.mapM fun file => do
    match ← readFile file with
    | .ok text => pure text
    | .error cause =>
      if cause = .isDirectory then fatal 2 ("read failed: " ++ quoteIfNeeded file ++ ": "
        ++ cause.plainMessage)
      else fatal 2 ((if checks then "open failed: " else "cannot read: ") ++ quoteIfNeeded file
        ++ ": " ++ cause.plainMessage)
  let rows := texts.flatMap prepared
  if checks then
    let isFine := fun (o : Ordering) => o == .lt || (o == .eq && !line.has "u")
    let pairs := (rows.zip rows.tail).zipIdx
    match pairs.find? fun (pair, _) => !isFine (orderOf pair.1 pair.2) with
    | none => return 0
    | some (pair, i) =>
      if line.has "c" then
        complain (files.headD "-" ++ ":" ++ toString (i + 2) ++ ": disorder: "
          ++ String.ofList pair.2.1)
      return 1
  let sorted := rows.mergeSort fun a b => orderOf a b != .gt
  let kept := if line.has "u" then firstOfEach (fun a b => orderOf a b == .eq) sorted else sorted
  let text := String.join (kept.map fun row => String.ofList row.1 ++ "\n")
  match line.value? "o" with
  | none =>
    emit text
    return 0
  | some file =>
    match ← edit fun w => w.files.write w.current w.now (pathOf file) (Bytes.narrow text) with
    | .ok () => return 0
    | .error cause =>
      fatal 2 ("open failed: " ++ quoteIfNeeded file ++ ": " ++ cause.plainMessage)
where
  /-- The first one of each run of equal ones. -/
  firstOfEach {α : Type} (same : α → α → Bool) : List α → List α
    | [] => []
    | a :: rest => a :: go same a rest
  go {α : Type} (same : α → α → Bool) (last : α) : List α → List α
    | [] => []
    | a :: rest => if same last a then go same last rest else a :: go same a rest

/-! ### Equal lines -/

/-- Runs of lines that are the same under a key. -/
def runsBy (key : String → String) : List String → List (String × List String)
  | [] => []
  | row :: rest =>
    match runsBy key rest with
    | (k, rows) :: runs =>
      if k == key row then (k, row :: rows) :: runs else (key row, [row]) :: (k, rows) :: runs
    | [] => [(key row, [row])]

/-- Show each run of equal lines once. -/
def uniteLines : Tool := fun _ arguments => do
  let known := [switch 'c' "count", switch 'd' "repeated", switch 'u' "unique",
    switch 'i' "ignore-case", switch 'z' "zero-terminated", valued 'f' "skip-fields",
    valued 's' "skip-chars", valued 'w' "check-chars", ⟨"D", 'D', none, .nothing⟩,
    ⟨"D", none, some "all-repeated", .maybe⟩]
  let line ← parse known true 1 arguments
  let number := fun (key what : String) => do
    match line.value? key with
    | none => pure none
    | some value =>
      match natural? value with
      | some n => pure (some n)
      | none => fatal 1 (value ++ ": invalid number of " ++ what)
  let fields ← number "f" "fields to skip"
  let chars ← number "s" "bytes to skip"
  let width? ← number "w" "bytes to compare"
  if line.has "c" && line.has "D" then
    misuse 1 "printing all duplicated lines and repeat counts is meaningless"
  match line.operands[2]? with
  | some extra => misuse 1 ("extra operand " ++ quoteWord extra)
  | none => pure ()
  let key := fun (row : String) =>
    let skipped := (List.range (fields.getD 0)).foldl (fun (cs : List Char) _ =>
      (cs.dropWhile fun c => c == ' ' || c == '\t').dropWhile
        fun c => !(c == ' ' || c == '\t')) row.toList
    let cs := skipped.drop (chars.getD 0)
    let cs := width?.elim cs cs.take
    String.ofList (if line.has "i" then cs.map Char.toLower else cs)
  let file := line.operands.headD "-"
  match ← readFile file with
  | .error cause =>
    if cause = .isDirectory then
      fatal 1 ("error reading " ++ quoteForShell file ++ ": " ++ cause.plainMessage)
    else fatal 1 (quoteIfNeeded file ++ ": " ++ cause.plainMessage)
  | .ok text =>
    let shown := (runsBy key (bareLines text)).flatMap fun (_, rows) =>
      let repeated := rows.length > 1
      let label := if line.has "c" then aligned 7 (toString rows.length) ++ " " else ""
      if line.has "D" then (if repeated then rows else [])
      else if (line.has "d" && !repeated) || (line.has "u" && repeated) then []
      else [label ++ rows.headD ""]
    let all := String.join (shown.map (· ++ "\n"))
    match line.operands[1]? with
    | none =>
      emit all
      return 0
    | some target =>
      if target == "-" then
        emit all
        return 0
      match ← edit fun w => w.files.write w.current w.now (pathOf target) (Bytes.narrow all) with
      | .ok () => return 0
      | .error cause => fatal 1 (quoteIfNeeded target ++ ": " ++ cause.plainMessage)

/-! ### Two files at once -/

/-- Read two files. -/
def readTwo (operands : List String) : Doing (List String × List String) := do
  match operands with
  | [] => missingOperand 1 []
  | [one] => missingOperand 1 [one]
  | [a, b] =>
    let read := fun (file : String) => do
      match ← readFile file with
      | .ok text => pure (bareLines text)
      | .error cause => fatal 1 (quoteIfNeeded file ++ ": " ++ cause.plainMessage)
    return (← read a, ← read b)
  | _ :: _ :: extra :: _ => misuse 1 ("extra operand " ++ quoteWord extra)

/-- Whether a line comes after the one before it. -/
def fallsBack (order : String → String → Ordering) : List String → Bool
  | a :: b :: _ => order a b == .gt
  | _ => false

/-- The order of lines as texts. -/
def textOrder (a b : String) : Ordering := compareChars a.toList b.toList

/-- Which of two files a line stands in. -/
inductive Side where
  | first
  | second
  | both
  deriving DecidableEq, Repr

/-- Go through two sorted files side by side, and complain where one of them is
not sorted. -/
def compareSorted (allowance : Nat) (warned : Bool × Bool) (unpaired : Bool)
    (each : Side → String → Doing Unit) (a b : List String) : Doing (Bool × Bool) :=
  match allowance with
  | 0 => return warned
  | n + 1 => do
    let check (number : String) (already : Bool) (rows : List String) (unpaired : Bool) :
        Doing Bool := do
      if unpaired && !already && fallsBack textOrder rows then
        complain ("file " ++ number ++ " is not in sorted order")
        return true
      else return already
    match a, b with
    | [], [] => return warned
    | x :: xs, [] =>
      each .first x
      let first ← check "1" warned.1 a true
      compareSorted n (first, warned.2) true each xs []
    | [], y :: ys =>
      each .second y
      let second ← check "2" warned.2 b true
      compareSorted n (warned.1, second) true each [] ys
    | x :: xs, y :: ys =>
      match textOrder x y with
      | .eq =>
        each .both x
        let first ← check "1" warned.1 a unpaired
        let second ← check "2" warned.2 b unpaired
        compareSorted n (first, second) unpaired each xs ys
      | .lt =>
        each .first x
        let first ← check "1" warned.1 a true
        compareSorted n (first, warned.2) true each xs b
      | .gt =>
        each .second y
        let second ← check "2" warned.2 b true
        compareSorted n (warned.1, second) true each a ys

/-- Compare two sorted files line by line. -/
def compareLines : Tool := fun _ arguments => do
  let known := letters "123" ++ [named "check-order" .nothing, named "nocheck-order" .nothing,
    named "output-delimiter" .value, named "total" .nothing, switch 'z' "zero-terminated"]
  let line ← parse known true 1 arguments
  let (a, b) ← readTwo line.operands
  let tab := (line.value? "output-delimiter").getD "\t"
  let each := fun (side : Side) (row : String) =>
    let (key, before) := match side with
      | .first => ("1", [])
      | .second => ("2", ["1"])
      | .both => ("3", ["1", "2"])
    if line.has key then pure ()
    else do
      flush
      put (String.join ((before.filter fun k => !line.has k).map fun _ => tab) ++ row ++ "\n")
  let quiet := line.has "nocheck-order"
  let warned ← compareSorted (a.length + b.length + 1) (quiet, quiet) false each a b
  if !quiet && (warned.1 || warned.2) then fatal 1 "input is not in sorted order"
  else return 0

/-- Join the lines of two files that have a field in common. -/
def joinLines : Tool := fun _ arguments => do
  let known := valuedLetters "12javot" ++ [switch 'i' "ignore-case", ⟨"e", 'e', none, .value⟩,
    named "check-order" .nothing, named "nocheck-order" .nothing, named "header" .nothing]
  let line ← parse known true 1 arguments
  let (a, b) ← readTwo line.operands
  let number := fun (key : String) => ((line.value? key).bind natural?).getD 1
  let common := (line.value? "j").bind natural?
  let (fieldA, fieldB) := (common.getD (number "1"), common.getD (number "2"))
  let fieldsOf := fun (row : String) =>
    match (line.value? "t").bind (·.toList.head?) with
    | some sep => (partsAt sep row.toList).map String.ofList
    | none =>
      ((partsAt ' ' (row.toList.map fun c => if c == '\t' then ' ' else c)).filter
        (!·.isEmpty)).map String.ofList
  let sep := match (line.value? "t").bind (·.toList.head?) with
    | some c => c.toString
    | none => " "
  let keyOf := fun (field : Nat) (fields : List String) =>
    let key := fields.getD (field - 1) ""
    if line.has "i" then key.toLower else key
  let blank := (line.value? "e").getD ""
  let others := fun (field : Nat) (fields : List String) => fields.eraseIdx (field - 1)
  let row := fun (x? y? : Option (List String)) =>
    let key := match x?, y? with
      | some x, _ => x.getD (fieldA - 1) ""
      | none, some y => y.getD (fieldB - 1) ""
      | none, none => ""
    match line.value? "o" with
    | some spec =>
      if spec == "auto" then plainRow sep key (others fieldA) (others fieldB) x? y?
      else
        let wanted := partsAt ',' (spec.toList.map fun c => if c == ' ' then ',' else c)
        String.intercalate sep (wanted.map fun item =>
          let fields? := if item.head? == some '1' then x? else y?
          let i := (natural? (String.ofList (item.drop 2))).getD 1
          let value := if item == ['0'] then key
            else (fields?.bind fun fields => fields[i - 1]?).getD blank
          if value.isEmpty then blank else value)
    | none => plainRow sep key (others fieldA) (others fieldB) x? y?
  let lone := fun (side : String) =>
    ((line.values "a") ++ (line.values "v")).contains side
  let paired := !line.has "v"
  let as := a.map fieldsOf
  let bs := b.map fieldsOf
  let rows := pairUp keyOf fieldA fieldB row paired (lone "1") (lone "2")
    (as.length + bs.length + 1) as bs
  emit (String.join (rows.map (· ++ "\n")))
  let keysOf := fun (field : Nat) (rows : List (List String)) => rows.map (keyOf field)
  let (ka, kb) := (keysOf fieldA as, keysOf fieldB bs)
  let unpaired := ka.any (!kb.contains ·) || kb.any (!ka.contains ·)
  let report (file : String) (keys rows : List String) : Doing Bool := do
    match ((keys.zip keys.tail).zip rows.tail).zipIdx.find? fun ((pair, _), _) =>
      textOrder pair.1 pair.2 == .gt with
    | some ((_, row), i) =>
      complain (file ++ ":" ++ toString (i + 2) ++ ": is not sorted: " ++ row)
      return true
    | none => return false
  if unpaired && !line.has "nocheck-order" then
    let second ← report (line.operands.getD 1 "-") kb b
    let first ← report (line.operands.headD "-") ka a
    if first || second then fatal 1 "input is not in sorted order"
  return 0
where
  plainRow (sep key : String) (restA restB : List String → List String)
      (x? y? : Option (List String)) : String :=
    String.intercalate sep (key :: (x?.elim [] restA ++ y?.elim [] restB))
  /-- The joined lines, and those that stand alone. -/
  pairUp (keyOf : Nat → List String → String) (fieldA fieldB : Nat)
      (row : Option (List String) → Option (List String) → String)
      (paired loneA loneB : Bool) (allowance : Nat) (as bs : List (List String)) : List String :=
    match allowance, as, bs with
    | n + 1, x :: xs, y :: ys =>
      match textOrder (keyOf fieldA x) (keyOf fieldB y) with
      | .lt =>
        (if loneA then [row (some x) none] else [])
          ++ pairUp keyOf fieldA fieldB row paired loneA loneB n xs (y :: ys)
      | .gt =>
        (if loneB then [row none (some y)] else [])
          ++ pairUp keyOf fieldA fieldB row paired loneA loneB n (x :: xs) ys
      | .eq =>
        let key := keyOf fieldA x
        let sameA := (x :: xs).takeWhile fun z => keyOf fieldA z == key
        let sameB := (y :: ys).takeWhile fun z => keyOf fieldB z == key
        let product := sameA.flatMap fun p => sameB.map fun q => row (some p) (some q)
        (if paired then product else [])
          ++ pairUp keyOf fieldA fieldB row paired loneA loneB n
            ((x :: xs).drop sameA.length) ((y :: ys).drop sameB.length)
    | _, as, bs =>
      (if loneA then as.map fun x => row (some x) none else [])
        ++ (if loneB then bs.map fun y => row none (some y) else [])

end GuardCost.Utility
