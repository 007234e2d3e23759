/-
GuardCost/Utility/Plain.lean

Utilities that need nothing but their arguments.
-/
import GuardCost.Shell.Condition
import GuardCost.Shell.Printing
import GuardCost.Utility.Options

namespace GuardCost.Utility

open Process Shell

/-! ### Texts -/

/-- What a letter after a backslash stands for in a text to be echoed, with
the rest. -/
def echoEscape (cs : List Char) : Option (List Char × List Char) :=
  let hex := fun ds : List Char =>
    [Char.ofNat (ds.foldl (fun n d => n * 16 + hexValue d) 0 % 256)]
  match cs with
  | 'e' :: rest => some (['\x1b'], rest)
  | 'x' :: rest =>
    let ds := (rest.take 2).takeWhile isHex
    if ds.isEmpty then none else some (hex ds, rest.drop ds.length)
  | _ => none
where
  isHex (c : Char) : Bool := c.isDigit || ('a' ≤ c && c ≤ 'f') || ('A' ≤ c && c ≤ 'F')
  hexValue (c : Char) : Nat :=
    if c.isDigit then c.toNat - '0'.toNat else c.toLower.toNat - 'a'.toNat + 10

/-- Put what escapes stand for in their place; whether the text goes on. -/
def echoExpand (allowance : Nat) (cs : List Char) : List Char × Bool :=
  match allowance, cs with
  | 0, _ => ([], true)
  | _, [] => ([], true)
  | _, '\\' :: 'c' :: _ => ([], false)
  | n + 1, '\\' :: rest =>
    match echoEscape rest with
    | some (new, after) =>
      let (more, goesOn) := echoExpand n after
      (new ++ more, goesOn)
    | none =>
      let (c, k) := Printing.escapeAfterZero rest
      let (more, goesOn) := echoExpand n (rest.drop k)
      (c :: more, goesOn)
  | n + 1, c :: rest =>
    let (more, goesOn) := echoExpand n rest
    (c :: more, goesOn)

/-- The letters of the options of `echo` at the start of some words, and the
other words. -/
def echoOptions : List String → List Char × List String
  | [] => ([], [])
  | a :: rest =>
    match a.toList with
    | '-' :: c :: cs =>
      if (c :: cs).all ['n', 'e', 'E'].contains then
        let (more, words) := echoOptions rest
        (c :: cs ++ more, words)
      else ([], a :: rest)
    | _ => ([], a :: rest)

/-- Write words. -/
def echo : Tool := fun _ arguments => do
  let (options, words) := echoOptions arguments
  let escapes := (options.reverse.find? fun c => c == 'e' || c == 'E') == some 'e'
  let line := " ".intercalate words
  let (cs, goesOn) :=
    if escapes then echoExpand (line.length + 1) line.toList else (line.toList, true)
  emit (String.ofList cs)
  if goesOn && !options.contains 'n' then emit "\n"
  return 0

/-- Write values as a format says. -/
def printFormatted : Tool := fun _ arguments => do
  let arguments := if arguments.head? == some "--" then arguments.tail else arguments
  match arguments with
  | [] => missingOperand 1 []
  | format :: values =>
    let printed := Printing.printf .plain format values
    printed.complaints.reverse.forM fun message =>
      complain (reword message)
    emit printed.text
    match printed.fatal? with
    | some message => fatal 1 (rewordFatal message)
    | none => return if printed.complaints.isEmpty then 0 else 1
where
  reword (message : String) : String :=
    match splitLast? ':' message.toList with
    | some (value, reason) =>
      let reason := String.ofList reason
      quoteWord (String.ofList value) ++ ":"
        ++ (if reason == " expected numeric value" then " expected a numeric value"
          else if reason == " not completely converted" then " value not completely converted"
          else reason)
    | none => message
  rewordFatal (message : String) : String :=
    match splitLast? ':' message.toList with
    | some (spelled, _) => String.ofList spelled ++ ": invalid conversion specification"
    | none => message

/-! ### Paths -/

/-- A path without slashes at its end. -/
def withoutEndSlashes (cs : List Char) : List Char :=
  (cs.reverse.dropWhile (· == '/')).reverse

/-- The last name of a path. -/
def lastName (s : String) : String :=
  let cs := withoutEndSlashes s.toList
  if cs.isEmpty then (if s.isEmpty then "" else "/")
  else String.ofList (cs.reverse.takeWhile (· != '/')).reverse

/-- A text without an ending, unless nothing else is left. -/
def withoutEnding (ending s : String) : String :=
  let cs := s.toList
  let keep := cs.length - ending.length
  if !ending.isEmpty && ending.length < cs.length && cs.drop keep == ending.toList then
    String.ofList (cs.take keep)
  else s

/-- Write the last names of paths. -/
def writeLastNames : Tool := fun _ arguments => do
  let line ← parse [switch 'a' "multiple", valued 's' "suffix", switch 'z' "zero"] false 1 arguments
  let ending := if line.has "z" then "\x00" else "\n"
  let several := line.has "a" || line.has "s"
  match line.operands with
  | [] => missingOperand 1 []
  | a :: rest =>
    if several then
      (a :: rest).forM fun a =>
        emit (withoutEnding ((line.value? "s").getD "") (lastName a) ++ ending)
    else match rest with
      | [] => emit (lastName a ++ ending)
      | [suffix] => emit (withoutEnding suffix (lastName a) ++ ending)
      | _ :: extra :: _ => misuse 1 ("extra operand " ++ quoteWord extra)
    return 0

/-- The directory in which a path names something. -/
def directoryPart (s : String) : String :=
  let cs := withoutEndSlashes s.toList
  if cs.isEmpty then (if s.isEmpty then "." else "/")
  else if !cs.contains '/' then "."
  else
    let before := withoutEndSlashes (cs.reverse.dropWhile (· != '/')).reverse
    if before.isEmpty then "/" else String.ofList before

/-- Write the directories in which paths name something. -/
def writeDirectories : Tool := fun _ arguments => do
  let line ← parse [switch 'z' "zero"] true 1 arguments
  if line.operands.isEmpty then missingOperand 1 []
  line.operands.forM fun a => emit (directoryPart a ++ if line.has "z" then "\x00" else "\n")
  return 0

/-- Write the path of the current directory. -/
def writeCurrent : Tool := fun _ arguments => do
  let line ← parse [switch 'L' "logical", switch 'P' "physical"] true 1 arguments
  let p ← get
  let physical := Bytes.widen p.directory.path.bytes
  let logical := match p.value? "PWD" with
    | some told =>
      match p.machine.files.find p.directory (pathOf told) with
      | .ok (place, _) => if place == p.directory then told else physical
      | .error _ => physical
    | none => physical
  emitLine (if (line.lastOf? ["L", "P"]).map (·.key) == some "L" then logical else physical)
  return 0

/-! ### Numbers -/

/-- A decimal number: its digits as a whole number, and how many of them are
places. -/
structure Decimal where
  digits : Int
  places : Nat

namespace Decimal

/-- Read a decimal number. -/
def ofText? (s : String) : Option Decimal :=
  let cs := s.toList
  let (negative, cs) := match cs with
    | '-' :: rest => (true, rest)
    | '+' :: rest => (false, rest)
    | cs => (false, cs)
  let whole := cs.takeWhile Char.isDigit
  let rest := cs.drop whole.length
  let (places, rest) := match rest with
    | '.' :: rest => (rest.takeWhile Char.isDigit, rest.dropWhile Char.isDigit)
    | rest => ([], rest)
  let value := (whole ++ places).foldl (fun n c => n * 10 + (c.toNat - '0'.toNat)) 0
  let signed : Int := if negative then -(value : Int) else value
  if whole.isEmpty && places.isEmpty then none
  else match rest with
    | [] => some ⟨signed, places.length⟩
    | e :: exponent =>
      if e != 'e' && e != 'E' then none
      else
        let (down, ds) := match exponent with
          | '-' :: ds => (true, ds)
          | '+' :: ds => (false, ds)
          | ds => (false, ds)
        if ds.isEmpty || !ds.all Char.isDigit then none
        else
          let k := ds.foldl (fun n c => n * 10 + (c.toNat - '0'.toNat)) 0
          if down then some ⟨signed, places.length + k⟩
          else if k ≤ places.length then some ⟨signed, places.length - k⟩
          else some ⟨signed * Nat.pow 10 (k - places.length), 0⟩

/-- The digits with so many places. -/
def scaled (d : Decimal) (places : Nat) : Int := d.digits * Nat.pow 10 (places - d.places)

/-- A number with places, from its digits. -/
def text (digits : Int) (places : Nat) : String :=
  (if digits < 0 then "-" else "") ++ GuardCost.Decimal.writeScaled places digits.natAbs

end Decimal

/-- Numbers from a first one by steps up to a last one. -/
def numbersFrom (allowance : Nat) (value step last : Int) : List Int :=
  match allowance with
  | 0 => []
  | n + 1 =>
    if (if step > 0 then last < value else value < last) then []
    else value :: numbersFrom n (value + step) step last

/-- A number, filled up with zeros to a width. -/
def filled (width : Nat) (s : String) : String :=
  match s.toList with
  | '-' :: cs => "-" ++ String.ofList (List.replicate (width - 1 - cs.length) '0' ++ cs)
  | cs => String.ofList (List.replicate (width - cs.length) '0' ++ cs)

/-- A number in a format with one conversion. -/
def inFormat (format : String) (digits : Int) (places : Nat) : String :=
  (Printing.printf .plain format [Decimal.text digits places]).text

/-- Whether a word is a negative number, and so no option. -/
def isNegativeNumber (a : String) : Bool :=
  match a.toList with
  | '-' :: c :: _ => c.isDigit || c == '.'
  | _ => false

/-- Write a sequence of numbers. -/
def writeSequence : Tool := fun _ arguments => do
  let known := [valued 'f' "format", valued 's' "separator", switch 'w' "equal-width"]
  let options := arguments.takeWhile fun a => a.startsWith "-" && !isNegativeNumber a
  -- an option may have taken its value from the next word
  let count := match options.getLast? with
    | some "-s" => options.length + 1
    | some "-f" => options.length + 1
    | some "--separator" => options.length + 1
    | some "--format" => options.length + 1
    | _ => options.length
  let line ← parse known false 1 (arguments.take count)
  let operands := line.operands ++ arguments.drop count
  let read := fun (a : String) => do
    match Decimal.ofText? a with
    | some d => return d
    | none => misuse 1 ("invalid floating point argument: " ++ quoteWord a)
  let one : Decimal := ⟨1, 0⟩
  let (first, step, last) ← match operands with
    | [] => missingOperand 1 []
    | [a] => do pure (one, one, ← read a)
    | [a, b] => do pure (← read a, one, ← read b)
    | [a, b, c] => do
      let step ← read b
      if step.digits = 0 then misuse 1 ("invalid Zero increment value: " ++ quoteWord b)
      pure (← read a, step, ← read c)
    | _ :: _ :: _ :: extra :: _ => misuse 1 ("extra operand " ++ quoteWord extra)
  let places := max first.places step.places
  let scale := max places last.places
  let values := numbersFrom 10000000 (first.scaled scale) (step.scaled scale) (last.scaled scale)
  let digits := values.map fun v => v / (Nat.pow 10 (scale - places) : Int)
  let texts := match line.value? "f" with
    | some format => digits.map fun d => inFormat format d places
    | none =>
      let plain := digits.map fun d => Decimal.text d places
      if line.has "w" then
        let bounds := [Decimal.text (first.scaled places) places,
          Decimal.text (last.scaled scale / (Nat.pow 10 (scale - places) : Int)) places]
        let width := ((bounds.map String.length).max?).getD 0
        plain.map (filled width)
      else plain
  if !texts.isEmpty then
    emit (((line.value? "s").getD "\n").intercalate texts ++ "\n")
  return 0

/-- The prime factors of a number, from a divisor on. -/
def factorsFrom (allowance divisor n : Nat) : List Nat :=
  match allowance with
  | 0 => [n]
  | k + 1 =>
    if n < 2 then []
    else if n < divisor * divisor then [n]
    else if n % divisor = 0 then divisor :: factorsFrom k divisor (n / divisor)
    else factorsFrom k (divisor + 1) n

/-- Write the prime factors of numbers. -/
def writeFactors : Tool := fun _ arguments => do
  let codes ← arguments.mapM fun a => do
    match natural? a with
    | some n =>
      emitLine (toString n ++ ":" ++ String.join ((factorsFrom 1000000 2 n).map fun f =>
        " " ++ toString f))
      return true
    | none =>
      complain (quoteWord a ++ " is not a valid positive integer")
      return false
  return if codes.all id then 0 else 1

/-! ### Conditions -/

/-- See whether a condition holds. -/
def test (brackets : Bool) : Tool := fun _ arguments => do
  if brackets && arguments.getLast? != some "]" then fatal 2 "missing ']'"
  let words := if brackets then arguments.dropLast else arguments
  match Condition.verdict (← get).world words with
  | .ok b => return if b then 0 else 1
  | .error _ =>
    match words.find? fun a => (Condition.number a).toBool == false with
    | some a =>
      if words.length = 3 then fatal 2 ("invalid integer " ++ quoteWord a)
      else fatal 2 ("missing argument after " ++ quoteWord (words.getLastD ""))
    | none => fatal 2 "syntax error"

/-! ### The system -/

/-- The parts of the name of the system, by their letters. -/
def systemNames : List (Char × String) :=
  [('s', "Linux"), ('n', "localhost"), ('r', "6.1.0"), ('v', "#1 SMP"), ('m', "x86_64"),
    ('p', "x86_64"), ('i', "x86_64"), ('o', "GNU/Linux")]

/-- Write the name of the system. -/
def writeSystem : Tool := fun _ arguments => do
  let known := [switch 'a' "all", switch 's' "kernel-name", switch 'n' "nodename",
    switch 'r' "kernel-release", switch 'v' "kernel-version", switch 'm' "machine",
    switch 'p' "processor", switch 'i' "hardware-platform", switch 'o' "operating-system"]
  let line ← parse known true 1 arguments
  match line.operands with
  | a :: _ => misuse 1 ("extra operand " ++ quoteWord a)
  | [] =>
    let chosen := systemNames.filter fun (c, _) => line.has c.toString || line.has "a"
    let chosen := if chosen.isEmpty then systemNames.take 1 else chosen
    emitLine (" ".intercalate (chosen.map (·.2)))
    return 0

/-- Write one text; operands are refused. -/
def writeFixed (text : String) : Tool := fun _ arguments => do
  let line ← parse [] true 1 arguments
  match line.operands with
  | a :: _ => misuse 1 ("extra operand " ++ quoteWord a)
  | [] =>
    emitLine text
    return 0

/-- Write who runs the program. -/
def writeIdentity : Tool := fun _ arguments => do
  let known := letters "a" ++ [switch 'g' "group", switch 'G' "groups", switch 'n' "name",
    switch 'r' "real", switch 'u' "user", switch 'z' "zero"]
  let line ← parse known true 1 arguments
  let one := if line.has "n" then "root" else "0"
  emitLine (if line.has "u" || line.has "g" || line.has "G" then one
    else "uid=0(root) gid=0(root) groups=0(root)")
  return 0

/-- Say that there is no terminal. -/
def writeTerminal : Tool := fun _ arguments => do
  let line ← parse [switch 's' "silent", ⟨"s", none, some "quiet", .nothing⟩] true 2 arguments
  if !line.has "s" then emitLine "not a tty"
  return 1

/-- End with an exit code. -/
def ending (code : Nat) : Tool := fun _ _ => return code

/-! ### Time -/

/-- The unit that a letter after a number of seconds stands for. -/
def unitOf? (cs : List Char) : Option Nat :=
  match cs with
  | [] => some 1
  | ['s'] => some 1
  | ['m'] => some 60
  | ['h'] => some 3600
  | ['d'] => some 86400
  | _ => none

/-- The nanoseconds that a length of time stands for. -/
def duration? (s : String) : Option Nat := do
  let cs := s.toList
  if cs == "inf".toList || cs == "infinity".toList then some 1000000000000000000
  else
    let letters := (cs.reverse.takeWhile fun c => c.isAlpha).reverse
    let unit ← unitOf? letters
    let d ← Decimal.ofText? (String.ofList (cs.take (cs.length - letters.length)))
    if d.digits < 0 then none
    else return d.digits.natAbs * unit * 1000000000 / Nat.pow 10 d.places

/-- Sleep. -/
def sleepFor : Tool := fun _ arguments => do
  let line ← parse [] true 1 arguments
  if line.operands.isEmpty then missingOperand 1 []
  let wrong := line.operands.filter fun a => (duration? a).isNone
  wrong.forM fun a => complain ("invalid time interval " ++ quoteWord a)
  if !wrong.isEmpty then
    pointToHelp
    return 1
  Process.sleep ((line.operands.filterMap duration?).foldl (· + ·) 0)
  return 0

/-- Write a line again and again. -/
def repeatLine : Tool := fun _ arguments => do
  let line ← parse [] true 1 arguments
  let text := (if line.operands.isEmpty then "y" else " ".intercalate line.operands) ++ "\n"
  let block := String.join (List.replicate (8192 / text.length + 1) text)
  goOn block 10000
where
  goOn (block : String) : Nat → Doing Nat
    | 0 => throw .overdue
    | n + 1 => do
      match ← write 1 block with
      | .ok () =>
        pass 10000
        takeSignals (fun _ _ => none) 8
        goOn block n
      | .error cause => fatal 1 ("standard output: " ++ cause.plainMessage)

end GuardCost.Utility
