/-
GuardCost/Utility/Columns.lean

Utilities that take lines apart into columns, put columns side by side, and
exchange characters.
-/
import GuardCost.Text.Regex
import GuardCost.Utility.Lines

namespace GuardCost.Utility

open Process
open Text.Regex (isInClass classNames)

/-! ### Parts of lines -/

/-- A range of positions, counted from one; it may have no end. -/
abbrev Span := Nat × Option Nat

/-- What the positions of a list are, for complaints. -/
structure Naming where
  /-- What stands at a position. -/
  one : String
  /-- What a position is called if it is no number. -/
  wrong : String

/-- Whether a position is in one of some ranges. -/
def isIn (spans : List Span) (i : Nat) : Bool :=
  spans.any fun (first, last?) => first ≤ i && last?.all fun last => i ≤ last

/-- Read a list of ranges. -/
def spansOf (n : Naming) (s : String) : Except String (List Span) :=
  let parts := partsAt ',' (s.toList.map fun c => if c == ' ' || c == '\t' then ',' else c)
  parts.mapM fun part =>
    let text := String.ofList part
    let wrong (digits : List Char) : Except String Span :=
      .error ("invalid " ++ n.wrong ++ " " ++ quoteWord (String.ofList digits))
    let number (digits : List Char) : Except String Nat :=
      match natural? (String.ofList digits) with
      | some k => .ok k
      | none =>
        .error ("invalid " ++ n.wrong ++ " " ++ quoteWord
          (String.ofList (digits.dropWhile Char.isDigit)))
    let zero : Except String Span := .error (n.one ++ " are numbered from 1")
    match splitFirst? '-' part with
    | none =>
      if part.isEmpty then zero
      else do
        let k ← number part
        if k = 0 then zero else return (k, some k)
    | some ([], []) => .error ("invalid range with no endpoint: " ++ text)
    | some (first, last) =>
      if last.contains '-' then .error ("invalid " ++ (if n.one == "fields" then "field range"
        else "byte or character range"))
      else do
        let low ← if first.isEmpty then pure 1 else number first
        let high? ← if last.isEmpty then pure none else some <$> number last
        if low = 0 then zero
        else if high?.any (· < low) then .error "invalid decreasing range"
        else if first.isEmpty && last.isEmpty then wrong part
        else return (low, high?)

/-- Cut columns out of lines. -/
def cutColumns : Tool := fun _ arguments => do
  let known := [valued 'b' "bytes", valued 'c' "characters", valued 'f' "fields",
    valued 'd' "delimiter", switch 's' "only-delimited", switch 'n' "n",
    named "complement" .nothing, named "output-delimiter" .value, switch 'z' "zero-terminated"]
  let line ← parse known true 1 arguments
  let lists := line.options.filter fun g => ["b", "c", "f"].contains g.key
  match lists with
  | [] => misuse 1 "you must specify a list of bytes, characters, or fields"
  | _ :: _ :: _ => misuse 1 "only one list may be specified"
  | [given] =>
    let byFields := given.key == "f"
    let delimiter := (line.value? "d").getD "\t"
    if delimiter.length > 1 then misuse 1 "the delimiter must be a single character"
    if !byFields && line.has "d" then
      misuse 1 "an input delimiter may be specified only when operating on fields"
    if !byFields && line.has "s" then
      misuse 1 "suppressing non-delimited lines makes sense\n\tonly when operating on fields"
    let naming : Naming := if byFields then ⟨"fields", "field value"⟩
      else ⟨"byte/character positions", "byte/character position"⟩
    match spansOf naming (given.value?.getD "") with
    | .error mistake => misuse 1 mistake
    | .ok spans =>
      let wanted := fun (i : Nat) => isIn spans (i + 1) != line.has "complement"
      let sep := delimiter.toList.headD '\x00'
      let joint := (line.value? "output-delimiter").getD (if byFields then delimiter else "")
      let good ← readEach line.operands fun _ text => do
        for row in bareLines text do
          if byFields then
            let fields := partsAt sep row.toList
            if fields.length ≤ 1 then
              if !line.has "s" then emitLine row
            else
              let kept := (fields.zipIdx.filter fun field => wanted field.2).map fun field =>
                String.ofList field.1
              emitLine (String.intercalate joint kept)
          else emitLine (cutBytes wanted joint row.toList)
      return if good then 0 else 1
where
  /-- The wanted characters; where some are left out in between, a text
  stands. -/
  cutBytes (wanted : Nat → Bool) (joint : String) (cs : List Char) : String :=
    let pieces := cs.zipIdx.filter fun entry => wanted entry.2
    let (shown, _) := pieces.foldl (fun (state : List String × Option Nat) (c, i) =>
      let gap := match state.2 with
        | some before => if before + 1 < i then joint else ""
        | none => ""
      ((gap ++ c.toString) :: state.1, some i)) ([], none)
    String.join shown.reverse

/-! ### Lines side by side -/

/-- The characters of a list of delimiters; none where a delimiter is
empty. -/
def delimitersOf : List Char → List (Option Char)
  | [] => []
  | '\\' :: 'n' :: cs => some '\n' :: delimitersOf cs
  | '\\' :: 't' :: cs => some '\t' :: delimitersOf cs
  | '\\' :: '\\' :: cs => some '\\' :: delimitersOf cs
  | '\\' :: '0' :: cs => none :: delimitersOf cs
  | '\\' :: c :: cs => some c :: delimitersOf cs
  | c :: cs => some c :: delimitersOf cs

/-- Put texts together with delimiters that take turns. -/
def joinWithTurns (delimiters : List (Option Char)) (texts : List String) : String :=
  String.join (texts.zipIdx.map fun (text, i) =>
    let sep := if delimiters.isEmpty || i = 0 then none
      else (delimiters[(i - 1) % delimiters.length]?).join
    sep.elim text fun c => c.toString ++ text)

/-- Put the lines of files side by side. -/
def pasteLines : Tool := fun _ arguments => do
  let known := [valued 'd' "delimiters", switch 's' "serial", switch 'z' "zero-terminated"]
  let line ← parse known true 1 arguments
  let delimiters := delimitersOf ((line.value? "d").getD "\t").toList
  let files := if line.operands.isEmpty then ["-"] else line.operands
  if line.has "s" then
    let good ← readEach files fun _ text => emitLine (joinWithTurns delimiters (bareLines text))
    return if good then 0 else 1
  else
    let texts ← files.mapM fun file => do
      -- several places may share the input
      if file == "-" then return some none
      else match ← readFile file with
        | .ok text => return some (some (bareLines text))
        | .error cause =>
          complain (quoteIfNeeded file ++ ": " ++ cause.plainMessage)
          return none
    if texts.contains none then return 1
    let shared := files.countP (· == "-")
    let input ← if shared = 0 then pure [] else bareLines <$> readAll 0
    let rank := fun (i : Nat) => (files.take i).countP (· == "-")
    let columns := texts.zipIdx.map fun (text?, i) =>
      match text?.join with
      | some lines => lines
      | none => (input.zipIdx.filter fun entry => entry.2 % shared = rank i).map (·.1)
    let height := (columns.map List.length).foldl max 0
    for i in List.range height do
      emitLine (joinWithTurns delimiters (columns.map fun column => column.getD i ""))
    return 0

/-! ### Sets of characters -/

/-- A part of a set of characters, as it was given. -/
inductive SetPart where
  | chars (cs : List Char)
  | kind (name : String)
  /-- A character as often as needed, or so often. -/
  | many (c : Char) (count? : Option Nat)
  deriving Repr

/-- The character that an escape stands for, and what comes after it. -/
def setEscape : List Char → Char × List Char
  | 'n' :: cs => ('\n', cs)
  | 't' :: cs => ('\t', cs)
  | 'r' :: cs => ('\r', cs)
  | 'a' :: cs => ('\x07', cs)
  | 'b' :: cs => ('\x08', cs)
  | 'f' :: cs => ('\x0c', cs)
  | 'v' :: cs => ('\x0b', cs)
  | c :: cs =>
    let isOctal := fun (c : Char) => '0' ≤ c && c ≤ '7'
    if isOctal c then
      let ds := (c :: cs).takeWhile isOctal |>.take 3
      let value := fun (ds : List Char) => ds.foldl (fun n d => n * 8 + (d.toNat - '0'.toNat)) 0
      let ds := if value ds > 255 then ds.take 2 else ds
      (Char.ofNat (value ds), (c :: cs).drop ds.length)
    else (c, cs)
  | [] => ('\\', [])

/-- Take the escapes out of a set; each character comes with whether it was
escaped. -/
def unescapeSet (allowance : Nat) (cs : List Char) : List (Char × Bool) :=
  match allowance, cs with
  | n + 1, '\\' :: rest =>
    if rest.isEmpty then [('\\', false)]
    else
      let (c, rest) := setEscape rest
      (c, true) :: unescapeSet n rest
  | n + 1, c :: rest => (c, false) :: unescapeSet n rest
  | _, _ => []

/-- How a character of a set is shown in a complaint. -/
def shownInSet (c : Char) : String := if isShown c then c.toString else escapeText c

/-- The name between a mark and the mark with a closing bracket, and what comes
after it. -/
def closedName? (mark : Char) (cs : List (Char × Bool)) :
    Option (List Char × List (Char × Bool)) :=
  let rec go (name : List Char) : List (Char × Bool) → Option (List Char × List (Char × Bool))
    | (a, false) :: (']', false) :: rest =>
      if a == mark then some (name.reverse, rest)
      else go (a :: name) ((']', false) :: rest)
    | (a, _) :: rest => go (a :: name) rest
    | [] => none
  go [] cs

/-- Read a set of characters. -/
def readSetParts (allowance : Nat) (cs : List (Char × Bool)) : Except String (List SetPart) :=
  match allowance, cs with
  | n + 1, ('[', false) :: (':', false) :: rest =>
    match closedName? ':' rest with
    | some (name, after) =>
      let name := String.ofList name
      if name.isEmpty then .error "missing character class name '[::]'"
      else if !classNames.contains name then
        .error ("invalid character class " ++ quoteWord name)
      else (.kind name :: ·) <$> readSetParts n after
    | none => (.chars ['['] :: ·) <$> readSetParts n ((':', false) :: rest)
  | n + 1, ('[', false) :: ('=', false) :: rest =>
    match closedName? '=' rest with
    | some ([c], after) => (.chars [c] :: ·) <$> readSetParts n after
    | some ([], _) => .error "missing equivalence class character '[==]'"
    | some (cs, _) =>
      .error (String.ofList cs ++ ": equivalence class operand must be a single character")
    | none => (.chars ['['] :: ·) <$> readSetParts n (('=', false) :: rest)
  | n + 1, ('[', false) :: (c, quoted) :: ('*', false) :: rest =>
    let digits := rest.takeWhile fun entry => entry.1 != ']' || entry.2
    let count := String.ofList (digits.map (·.1))
    match rest.drop digits.length with
    | [] => (.chars ['['] :: ·) <$> readSetParts n ((c, quoted) :: ('*', false) :: rest)
    | _ :: after =>
      if count.isEmpty then (.many c none :: ·) <$> readSetParts n after
      else match natural? count with
        | some 0 => (.many c none :: ·) <$> readSetParts n after
        | some k =>
          let octal := count.toList.head? == some '0'
          let k := if octal then
              count.toList.foldl (fun n d => n * 8 + (d.toNat - '0'.toNat)) 0 else k
          (.many c (some k) :: ·) <$> readSetParts n after
        | none => .error ("invalid repeat count " ++ quoteWord count ++ " in [c*n] construct")
  | n + 1, (a, _) :: ('-', false) :: (b, _) :: rest =>
    if b < a then
      .error ("range-endpoints of '" ++ shownInSet a ++ "-" ++ shownInSet b
        ++ "' are in reverse collating sequence order")
    else
      let cs := (List.range (b.toNat - a.toNat + 1)).map fun i => Char.ofNat (a.toNat + i)
      (.chars cs :: ·) <$> readSetParts n rest
  | n + 1, (c, _) :: rest => (.chars [c] :: ·) <$> readSetParts n rest
  | _, _ => .ok []

/-- All characters that a byte can be. -/
def allBytes : List Char := (List.range 256).map Char.ofNat

/-- The characters of a class. -/
def kindChars (name : String) : List Char := allBytes.filter (isInClass name)

/-- The characters of a part. -/
def SetPart.members (fill : Nat) : SetPart → List Char
  | .chars cs => cs
  | .kind name => kindChars name
  | .many c (some n) => List.replicate n c
  | .many c none => List.replicate fill c

/-- Read a set, or end the program with a complaint. -/
def setParts (s : String) : Doing (List SetPart) := do
  let cs := s.toList
  if (cs.reverse.takeWhile (· == '\\')).length % 2 = 1 then
    complain "warning: an unescaped backslash at end of string is not portable"
  match readSetParts (cs.length + 1) (unescapeSet cs.length cs) with
  | .ok parts => return parts
  | .error mistake => fatal 1 mistake

/-- Leave out all but the first one of equal characters that follow each
other. -/
def squeeze (wanted : Char → Bool) (last? : Option Char) : List Char → List Char
  | [] => []
  | c :: cs =>
    if last? == some c && wanted c then squeeze wanted last? cs
    else c :: squeeze wanted (some c) cs

/-- Exchange, delete or squeeze characters. -/
def exchangeChars : Tool := fun _ arguments => do
  let known := [switch 'c' "complement", ⟨"c", 'C', none, .nothing⟩, switch 'd' "delete",
    switch 's' "squeeze-repeats", switch 't' "truncate-set1"]
  let line ← parse known false 1 arguments
  let (deletes, squeezes) := (line.has "d", line.has "s")
  let fewest := if deletes == squeezes then 2 else 1
  let most := if deletes && !squeezes then 1 else 2
  match line.operands with
  | [] => missingOperand 1 []
  | [one] =>
    if fewest = 2 then
      complain ("missing operand after " ++ quoteWord one)
      putError (if deletes then
        "Two strings must be given when both deleting and squeezing repeats.\n"
        else "Two strings must be given when translating.\n")
      pointToHelp
      quit 1
  | operands =>
    match operands.drop most with
    | extra :: _ =>
      complain ("extra operand " ++ quoteWord extra)
      if operands.length = 2 then
        putError "Only one string may be given when deleting without squeezing repeats.\n"
      pointToHelp
      quit 1
    | [] => pure ()
  let first ← setParts (line.operands.headD "")
  if first.any isOpenEnded then fatal 1 "the [c*] repeat construct may not appear in string1"
  let given := first.flatMap (SetPart.members 0)
  let isGiven := fun (c : Char) => given.contains c != line.has "c"
  let table := (allBytes.map isGiven).toArray
  let isMember := fun (c : Char) => table.getD c.toNat false
  let text ← readAll 0
  match line.operands[1]? with
  | none =>
    if deletes then emit (String.ofList (text.toList.filter fun c => !isMember c))
    else emit (String.ofList (squeeze isMember none text.toList))
    return 0
  | some operand =>
    let second ← setParts operand
    if (second.filter isOpenEnded).length > 1 then
      fatal 1 "only one [c*] repeat construct may appear in string2"
    if deletes then
      let kept := text.toList.filter fun c => !isMember c
      let others := second.flatMap (SetPart.members 0)
      emit (String.ofList (squeeze others.contains none kept))
      return 0
    else
      let sources := if line.has "c" then allBytes.filter isMember else given
      let length := (second.flatMap (SetPart.members 0)).length
      let targets := second.flatMap (SetPart.members (sources.length - length))
      if second.any isForeignKind then
        fatal 1 ("when translating, the only character classes that may appear in\n"
          ++ "string2 are 'upper' and 'lower'")
      if !(kindsAt 0 second).all fun place => (kindsAt 0 first).contains place then
        fatal 1 "misaligned [:upper:] and/or [:lower:] construct"
      match targets.getLast? with
      | none =>
        if line.has "t" || sources.isEmpty then
          emit text
          return 0
        else fatal 1 "when not truncating set1, string2 must be non-empty"
      | some last =>
        let sources := if line.has "t" then sources.take targets.length else sources
        let pairs := sources.zip
          (targets ++ List.replicate (sources.length - targets.length) last)
        let image := (allBytes.map fun c => ((pairs.reverse.lookup c).getD c)).toArray
        let exchanged := text.toList.map fun c => image.getD c.toNat c
        if squeezes then emit (String.ofList (squeeze targets.contains none exchanged))
        else emit (String.ofList exchanged)
        return 0
where
  isOpenEnded : SetPart → Bool
    | .many _ none => true
    | _ => false
  isForeignKind : SetPart → Bool
    | .kind name => name != "upper" && name != "lower"
    | _ => false
  /-- Where the classes of cases stand in a set. -/
  kindsAt (place : Nat) : List SetPart → List Nat
    | [] => []
    | part :: rest =>
      let more := kindsAt (place + (SetPart.members 0 part).length) rest
      match part with
      | .kind name => if name == "upper" || name == "lower" then place :: more else more
      | _ => more

end GuardCost.Utility
