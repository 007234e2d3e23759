/-
GuardCost/Shell/Printing.lean

What `echo` and `printf` write.  Both know the usual escapes after a
backslash; in `echo` an octal number starts with a zero that does not count
among its three digits, and `\c` ends the output.  A format of `printf` is
used again until every argument has been taken.

In the extended dialect `echo` knows escapes only if it is asked to, and there
are more of them.
-/
import GuardCost.Machine.SystemError
import GuardCost.Number.Reading
import GuardCost.Shell.Reshaping
import GuardCost.Text.Format

namespace GuardCost.Shell.Printing

/-! ### Escapes -/

/-- Whether a character is an octal digit. -/
def isOctal (c : Char) : Bool := '0' ≤ c && c ≤ '7'

/-- The character that octal digits stand for, one byte of it. -/
def octalChar (ds : List Char) : Char :=
  Char.ofNat (ds.foldl (fun n d => n * 8 + (d.toNat - '0'.toNat)) 0 % 256)

/-- The character of an escape with a letter. -/
def letterEscape? (c : Char) : Option Char :=
  match c with
  | '\\' => some '\\'
  | 'a' => some '\x07'
  | 'b' => some '\x08'
  | 'f' => some '\x0c'
  | 'n' => some '\n'
  | 'r' => some '\r'
  | 't' => some '\t'
  | 'v' => some '\x0b'
  | _ => none

/-- The character after a backslash, and how many characters spell it.  A
backslash that escapes nothing stands for itself. -/
def escape (cs : List Char) : Char × Nat :=
  let ds := (cs.take 3).takeWhile isOctal
  if !ds.isEmpty then (octalChar ds, ds.length)
  else match cs with
    | c :: _ =>
      match letterEscape? c with
      | some e => (e, 1)
      | none => ('\\', 0)
    | [] => ('\\', 0)

/-- The same where an octal number starts with a zero of its own. -/
def escapeAfterZero (cs : List Char) : Char × Nat :=
  match cs with
  | '0' :: d :: rest =>
    if isOctal d then
      let (c, k) := escape (d :: rest)
      (c, k + 1)
    else escape cs
  | _ => escape cs

/-- Expand the escapes of `echo`; whether the text goes on to its end. -/
def expand : List Char → List Char × Bool
  | [] => ([], true)
  | '\\' :: 'c' :: _ => ([], false)
  | '\\' :: rest =>
    let (c, k) := escapeAfterZero rest
    let (cs, whole) := expand (rest.drop k)
    (c :: cs, whole)
  | c :: rest =>
    let (cs, whole) := expand rest
    (c :: cs, whole)
termination_by cs => cs.length
decreasing_by all_goals (simp only [List.length_drop, List.length_cons]; omega)

/-- What `echo` writes. -/
def echo (arguments : List String) : String :=
  let (quiet, words) :=
    match arguments with
    | "-n" :: rest => (true, rest)
    | all => (false, all)
  let (cs, whole) := expand (" ".intercalate words).toList
  String.ofList cs ++ if quiet || !whole then "" else "\n"

/-! ### The extended dialect -/

/-- What the characters after a backslash stand for in the words of `echo`, and
how many of them there are. -/
def wordEscape (cs : List Char) : List Char × Nat :=
  match cs with
  | '0' :: rest =>
    match Escape.octal? 3 rest with
    | some (c, k) => ([c], k + 1)
    | none => (['\x00'], 1)
  | cs => (Escape.read? cs).getD (['\\'], 0)

/-- What the characters after a backslash stand for in an argument of
`printf`. -/
def argumentEscape (cs : List Char) : List Char × Nat :=
  match cs with
  | '0' :: _ => wordEscape cs
  | '"' :: _ => (['"'], 1)
  | '\'' :: _ => (['\''], 1)
  | cs =>
    match Escape.octal? 3 cs with
    | some (c, k) => ([c], k)
    | none => wordEscape cs

/-- What the characters after a backslash stand for in a format. -/
def formatEscape (cs : List Char) : List Char × Nat :=
  match cs with
  | '"' :: _ => (['"'], 1)
  | '\'' :: _ => (['\''], 1)
  | '?' :: _ => (['?'], 1)
  | cs =>
    match Escape.octal? 3 cs with
    | some (c, k) => ([c], k)
    | none => (Escape.read? cs).getD (['\\'], 0)

/-- Expand escapes; whether the text goes on to its end. -/
def expandWith (escape : List Char → List Char × Nat) (allowance : Nat) :
    List Char → List Char × Bool
  | [] => ([], true)
  | c :: rest =>
    match allowance with
    | 0 => ([], true)
    | n + 1 =>
      if c == '\\' then
        if rest.head? == some 'c' then ([], false)
        else
          let (found, k) := escape rest
          let (cs, whole) := expandWith escape n (rest.drop k)
          (found ++ cs, whole)
      else
        let (cs, whole) := expandWith escape n rest
        (c :: cs, whole)

/-- Take the options of `echo` away: whether a line break follows, and whether
escapes are expanded. -/
def echoOptions (quiet escapes : Bool) : List String → Bool × Bool × List String
  | [] => (quiet, escapes, [])
  | a :: rest =>
    match a.toList with
    | '-' :: c :: cs =>
      let letters := c :: cs
      if letters.all ['n', 'e', 'E'].contains then
        let escapes := letters.foldl (fun on c =>
          if c == 'e' then true else if c == 'E' then false else on) escapes
        echoOptions (quiet || letters.contains 'n') escapes rest
      else (quiet, escapes, a :: rest)
    | _ => (quiet, escapes, a :: rest)

/-- What `echo` writes in the extended dialect. -/
def extendedEcho (arguments : List String) : String :=
  let (quiet, escapes, words) := echoOptions false false arguments
  let text := " ".intercalate words
  let (cs, whole) :=
    if escapes then expandWith wordEscape (text.length + 1) text.toList else (text.toList, true)
  String.ofList cs ++ if quiet || !whole then "" else "\n"

/-! ### Formats -/

/-- What came of going through a format. -/
structure Printed where
  dialect : Dialect := .plain
  /-- What was written, the newest piece first. -/
  pieces : List String := []
  /-- What was wrong, the newest first. -/
  complaints : List String := []
  /-- The arguments that are left. -/
  arguments : List String
  /-- Whether an argument was taken. -/
  took : Bool := false
  /-- Whether nothing more is written. -/
  stopped : Bool := false
  /-- What made it impossible to go on. -/
  fatal? : Option String := none

namespace Printed

/-- Write a piece. -/
def add (p : Printed) (s : String) : Printed := { p with pieces := s :: p.pieces }

/-- Note that something was wrong. -/
def complain (p : Printed) (message : String) : Printed :=
  { p with complaints := message :: p.complaints }

/-- Take the next argument, if there is one. -/
def next (p : Printed) : Option String × Printed :=
  (p.arguments.head?, { p with arguments := p.arguments.tail, took := true })

/-- Note what is wrong with the text of a number. -/
def check (p : Printed) (s : String) (read rest : Nat) (inRange : Bool) : Printed :=
  if p.dialect == .extended && rest > 0 then
    if s.isEmpty then p else p.complain (s ++ ": invalid number")
  else if rest > 0 then
    p.complain (s ++ if read = 0 then ": expected numeric value" else ": not completely converted")
  else if inRange then p
  else p.complain (s ++ ": " ++ errorText 34)

/-- The code of the character after a quotation mark. -/
def quotedCode? (s : String) : Option Nat :=
  match s.toList with
  | '\'' :: cs => some ((cs.head?.map Char.toNat).getD 0)
  | '"' :: cs => some ((cs.head?.map Char.toNat).getD 0)
  | _ => none

/-- Take the next argument as a whole number within bounds. -/
def nextInteger (p : Printed) (lowest highest : Int) : Int × Printed :=
  match p.next with
  | (none, p) => (0, p)
  | (some s, p) =>
    match quotedCode? s with
    | some n => (n, p)
    | none =>
      let cs := Arithmetic.dropSpace s.toList
      let (negative, ds) := match cs with
        | '-' :: rest => (true, rest)
        | '+' :: rest => (false, rest)
        | rest => (false, rest)
      match Arithmetic.leadingNatural? ds with
      | none => (0, p.check s 0 s.length true)
      | some (n, rest) =>
        let value : Int := if negative then -(n : Int) else n
        let inRange := lowest ≤ value && value ≤ highest
        (max lowest (min highest value), p.check s 1 rest.length inRange)

/-- Take the next argument as a double. -/
def nextDouble (p : Printed) : Float × Printed :=
  match p.next with
  | (none, p) => (0, p)
  | (some s, p) =>
    match quotedCode? s with
    | some n => (Float.ofNat n, p)
    | none =>
      match Decimal.readDouble? s.toList with
      | none => (0, p.check s 0 s.length true)
      | some (x, rest) =>
        let overflow := x.isInf && !(s.toLower.toList.contains 'n')
        (x, p.check s 1 rest.length (!overflow))

/-- Take numbers for the stars of a conversion. -/
def takeStars (p : Printed) : Nat → List Int × Printed
  | 0 => ([], p)
  | n + 1 =>
    let (k, p) := p.nextInteger (-0x80000000) 0x7FFFFFFF
    let (ks, p) := p.takeStars n
    (k :: ks, p)

end Printed

open Printed in
/-- Carry out a conversion; `spelled` is how it stands in the format. -/
def convert (p : Printed) (c : Text.Conversion) (spelled : String) : Printed :=
  let signed := fun _ : Unit =>
    let (n, p) := p.nextInteger (-0x8000000000000000) 0x7FFFFFFFFFFFFFFF
    p.add (c.signed n)
  let unsigned := fun _ : Unit =>
    let (n, p) := p.nextInteger (-0xFFFFFFFFFFFFFFFF) 0xFFFFFFFFFFFFFFFF
    p.add (c.unsigned (n % (UInt64.size : Int)).toNat)
  let double := fun _ : Unit =>
    let (x, p) := p.nextDouble
    p.add (c.double x)
  let text := fun _ : Unit =>
    let (s?, p) := p.next
    (s?.getD "", p)
  match c.letter with
  | 'd' => signed ()
  | 'i' => signed ()
  | 'o' => unsigned ()
  | 'u' => unsigned ()
  | 'x' => unsigned ()
  | 'X' => unsigned ()
  | 'c' =>
    let (s, p) := text ()
    p.add (c.pad (String.ofList [s.toList.headD '\x00']))
  | 's' =>
    let (s, p) := text ()
    p.add (c.text s)
  | 'b' =>
    let (s, p) := text ()
    let (cs, whole) :=
      if p.dialect == .extended then expandWith argumentEscape (s.length + 1) s.toList
      else expand s.toList
    let p := p.add (c.text (String.ofList cs))
    if whole then p else { p with stopped := true }
  | letter =>
    if ['e', 'E', 'f', 'F', 'g', 'G', 'a', 'A'].contains letter then double ()
    else if p.dialect == .extended then
      if letter == 'q' then
        let (s, p) := text ()
        p.add (c.text (Reshaping.backslashed s))
      else
        let sign := "\x60" ++ letter.toString ++ "'"
        { p with stopped := true, fatal? := some (sign ++ ": invalid format character") }
    else { p with stopped := true, fatal? := some (spelled ++ ": invalid directive") }

/-- Go through a format once. -/
def formatOnce (allowance : Nat) (cs : List Char) (p : Printed) : Printed :=
  match allowance, cs with
  | 0, _ => p
  | _, [] => p
  | n + 1, '\\' :: rest =>
    if p.dialect == .extended then
      let (found, k) := formatEscape rest
      formatOnce n (rest.drop k) (p.add (String.ofList found))
    else
      let (c, k) := escape rest
      formatOnce n (rest.drop k) (p.add c.toString)
  | n + 1, '%' :: '%' :: rest => formatOnce n rest (p.add "%")
  | n + 1, '%' :: rest =>
    let (stars, p) := p.takeStars (Text.Conversion.starsAhead rest)
    let (c, _, after) := Text.Conversion.read rest stars
    match after with
    | [] =>
      let spelled := String.ofList ('%' :: rest)
      { p with
        stopped := true
        fatal? := some (if p.dialect == .extended then
          "\x60" ++ spelled ++ "': missing format character" else "missing format character") }
    | letter :: after =>
      let spelled := String.ofList ('%' :: rest.take (rest.length - after.length))
      let p := convert p { c with letter } spelled
      if p.stopped then p else formatOnce n after p
  | n + 1, c :: rest =>
    let plain := (c :: rest).takeWhile fun c => c != '\\' && c != '%'
    formatOnce n ((c :: rest).drop plain.length) (p.add (String.ofList plain))

/-- Go through a format until no argument is left. -/
def formatAll (rounds : Nat) (cs : List Char) (p : Printed) : Printed :=
  let p := formatOnce (cs.length + 1) cs { p with took := false }
  match rounds with
  | 0 => p
  | n + 1 => if p.took && !p.arguments.isEmpty && !p.stopped then formatAll n cs p else p

/-- What `printf` writes. -/
def printf (dialect : Dialect) (format : String) (arguments : List String) : Printed :=
  formatAll arguments.length format.toList { arguments, dialect }

/-- The text that was written. -/
def Printed.text (p : Printed) : String := String.join p.pieces.reverse

end GuardCost.Shell.Printing
