/-
GuardCost/Utility/EditScript.lean

Scripts of the stream editor.  A script is a row of steps; a block is a step
that is passed over, up to its end, where it does not apply.  Reading keeps
count of the characters that were taken, since complaints name the place.
-/
import GuardCost.Utility.Search

namespace GuardCost.Utility.Edit

open Text (Regex RegexForm)
open Text.Regex (Manner)

/-! ### Scripts -/

/-- An expression of a script; none stands for the one that was used last. -/
abbrev Expression := Option (Regex × Manner)

/-- Which lines a step is for. -/
inductive Address where
  | line (n : Nat)
  | last
  | fitting (e : Expression)
  | every (first step : Nat)
  /-- Before the first line. -/
  | start

/-- Where a range ends. -/
inductive RangeEnd where
  | line (n : Nat)
  | last
  | fitting (e : Expression)
  | after (count : Nat)
  | multiple (n : Nat)
  | every (first step : Nat)

/-- A change of letters in a replacement. -/
inductive CaseChange where
  | upper
  | lower
  | upperOnce
  | lowerOnce
  | none
  deriving DecidableEq, Repr

/-- A part of a replacement. -/
inductive Part where
  | text (c : Char)
  | group (n : Nat)
  | change (c : CaseChange)
  deriving Repr

/-- What an exchange does. -/
structure Exchange where
  expression : Expression
  parts : List Part
  all : Bool := false
  from_ : Nat := 1
  prints : Bool := false
  file? : Option String := none

/-- What a step does. -/
inductive Action where
  | block (stop : Nat)
  | blockEnd
  | label (name : String)
  | print
  | printFirst
  | delete
  | deleteFirst
  | hold
  | holdMore
  | get
  | getMore
  | swap
  | next
  | nextMore
  | append (text : String)
  | insert (text : String)
  | change (text : String)
  | jump (label : String)
  | jumpIf (label : String)
  | jumpUnless (label : String)
  | quit (code : Nat)
  | quitSilently (code : Nat)
  | number
  | list (width? : Option Nat)
  | read (file : String)
  | readOne (file : String)
  | write (file : String)
  | writeFirst (file : String)
  | exchange (e : Exchange)
  | map (pairs : List (Char × Char))
  | clear
  | fileName
  | nothing

/-- A step of a script. -/
structure Step where
  first? : Option Address
  until? : Option RangeEnd
  negated : Bool
  action : Action

/-! ### Reading -/

/-- What is read: what is left of the script, and how many characters were
taken. -/
structure Reading where
  rest : List Char
  taken : Nat := 0

/-- A mistake and how far the script was read. -/
structure Mistake where
  message : String
  place : Nat

/-- A reader of scripts. -/
abbrev Reader := StateT Reading (Except Mistake)

/-- Give up. -/
def wrong {α : Type} (message : String) : Reader α := do
  throw ⟨message, (← get).taken⟩

/-- Take the next character. -/
def next? : Reader (Option Char) := do
  let r ← get
  match r.rest with
  | c :: rest =>
    set ({ rest, taken := r.taken + 1 } : Reading)
    return some c
  | [] => return none

/-- The next character, without taking it. -/
def peek? : Reader (Option Char) := do return (← get).rest.head?

/-- Take characters of a kind. -/
def takeWhile (holds : Char → Bool) : Reader (List Char) := do
  let r ← get
  let cs := r.rest.takeWhile holds
  set ({ rest := r.rest.drop cs.length, taken := r.taken + cs.length } : Reading)
  return cs

/-- Whether a character is a blank within a line. -/
def isBlankChar (c : Char) : Bool := c == ' ' || c == '\t'

/-- Whether a character is a blank or ends a line. -/
def isSpaceChar (c : Char) : Bool := c == ' ' || ('\t' ≤ c && c ≤ '\r')

/-- Take a number. -/
def takeNumber : Reader Nat := do
  return (natural? (String.ofList (← takeWhile Char.isDigit))).getD 0

/-- The characters of a bracket expression up to its end, given what comes
after its start. -/
def bracketChars (cs : List Char) : List Char :=
  let (start, rest) := match cs with
    | '^' :: ']' :: rest => (['^', ']'], rest)
    | '^' :: rest => (['^'], rest)
    | ']' :: rest => ([']'], rest)
    | rest => ([], rest)
  let rec go : List Char → List Char
    | '[' :: ':' :: rest =>
      match closing rest with
      | some n => '[' :: ':' :: rest.take n ++ goAfter n rest
      | none => '[' :: ':' :: go rest
    | ']' :: _ => [']']
    | '\n' :: _ => []
    | c :: rest => c :: go rest
    | [] => []
  start ++ go rest
where
  closing (cs : List Char) : Option Nat :=
    let name := cs.takeWhile Char.isAlpha
    match cs.drop name.length with
    | ':' :: ']' :: _ => some (name.length + 2)
    | _ => none
  goAfter (n : Nat) (cs : List Char) : List Char :=
    match n, cs with
    | 0, cs => cs.takeWhile (fun c => c != ']' && c != '\n') ++ (cs.dropWhile (· != ']')).take 1
    | n + 1, _ :: rest => goAfter n rest
    | _ + 1, [] => []

/-- Take a text up to a mark.  In a pattern a mark within brackets does not
end it. -/
def delimited? (mark : Char) (isPattern : Bool) (allowance : Nat) (done : List Char) :
    Reader (Option (List Char)) :=
  match allowance with
  | 0 => return none
  | n + 1 => do
    match ← next? with
    | none => return none
    | some c =>
      if c == mark then return some done.reverse
      else if c == '\n' && isPattern then return none
      else if c == '\\' then
        match ← next? with
        | none => return none
        | some d =>
          if d == mark then
            if !isPattern && d == '&' then delimited? mark isPattern n (d :: '\\' :: done)
            else delimited? mark isPattern n (d :: done)
          else if d == 'n' && isPattern then delimited? mark isPattern n ('\n' :: done)
          else if d == '\n' && isPattern then delimited? mark isPattern n ('\n' :: done)
          else delimited? mark isPattern n (d :: '\\' :: done)
      else if c == '[' && isPattern then
        let r ← get
        let inside := bracketChars r.rest
        if inside.getLast? == some ']' then
          set ({ rest := r.rest.drop inside.length, taken := r.taken + inside.length } : Reading)
          delimited? mark isPattern n (inside.reverse ++ c :: done)
        else delimited? mark isPattern n (c :: done)
      else delimited? mark isPattern n (c :: done)

/-- The number that some digits stand for in a base. -/
def valueIn (base : Nat) (ds : List Char) : Nat :=
  ds.foldl (fun n d =>
    let d := d.toLower
    n * base + (if d.isDigit then d.toNat - '0'.toNat else d.toNat - 'a'.toNat + 10)) 0

/-- Whether a character is a digit in base sixteen. -/
def isHexDigit (c : Char) : Bool :=
  c.isDigit || ('a' ≤ c && c ≤ 'f') || ('A' ≤ c && c ≤ 'F')

/-- The character that an escape stands for, if it stands for one, and what
comes after it. -/
def escape? (cs : List Char) : Option (Char × List Char) :=
  let numeric := fun (base count : Nat) (isDigit : Char → Bool) (rest : List Char) =>
    let ds := (rest.takeWhile isDigit).take count
    if ds.isEmpty then none else some (Char.ofNat (valueIn base ds % 256), rest.drop ds.length)
  match cs with
  | 'a' :: rest => some ('\x07', rest)
  | 'f' :: rest => some ('\x0c', rest)
  | 't' :: rest => some ('\t', rest)
  | 'r' :: rest => some ('\r', rest)
  | 'v' :: rest => some ('\x0b', rest)
  | 'c' :: c :: rest => some (Char.ofNat ((c.toUpper.toNat + 64) % 128), rest)
  | 'd' :: rest => numeric 10 3 Char.isDigit rest
  | 'o' :: rest => numeric 8 3 (fun c => '0' ≤ c && c ≤ '7') rest
  | 'x' :: rest => numeric 16 2 isHexDigit rest
  | _ => none

/-- Put in the characters of escapes; other escapes stay. -/
def withEscapes (allowance : Nat) (cs : List Char) : List Char :=
  match allowance, cs with
  | n + 1, '\\' :: rest =>
    match escape? rest with
    | some (c, rest) =>
      let special := "*.[]^$\\/+?()|\x7b\x7d".toList.contains c
      (if special then ['\\', c] else [c]) ++ withEscapes n rest
    | none =>
      match rest with
      | c :: rest => '\\' :: c :: withEscapes n rest
      | [] => ['\\']
  | n + 1, c :: rest => c :: withEscapes n rest
  | _, cs => cs

/-- Read an expression, with the number of its groups. -/
def expressionOf (form : RegexForm) (manner : Manner) (cs : List Char) :
    Except String (Expression × Nat) :=
  if cs.isEmpty then .ok (none, 9)
  else do
    let (r, groups) ← Regex.ofText form (String.ofList (withEscapes cs.length cs))
    return (some (r, manner), groups)

/-- Take the letters after a pattern of an address. -/
def takeManner (m : Manner) (allowance : Nat) : Reader Manner :=
  match allowance with
  | 0 => return m
  | n + 1 => do
    match ← peek? with
    | some 'I' =>
      let _ ← next?
      takeManner { m with ignoreCase := true } n
    | some 'M' =>
      let _ ← next?
      takeManner { m with multiline := true } n
    | _ => return m

/-- How much can be taken at most. -/
def allowanceOf : Reader Nat := do return (← get).rest.length + 1

/-- Take a pattern of an address. -/
def takeFitting (form : RegexForm) (mark : Char) : Reader Expression := do
  match ← delimited? mark true (← allowanceOf) [] with
  | none => wrong "unterminated address regex"
  | some cs =>
    let manner ← takeManner {} 4
    match expressionOf form manner cs with
    | .ok (e, _) => return e
    | .error fault => wrong fault

/-- Take an address, if there is one. -/
def takeAddress? (form : RegexForm) : Reader (Option Address) := do
  match ← peek? with
  | some '/' =>
    let _ ← next?
    return some (.fitting (← takeFitting form '/'))
  | some '\\' =>
    let _ ← next?
    match ← next? with
    | some mark => return some (.fitting (← takeFitting form mark))
    | none => wrong "unexpected end of script"
  | some '$' =>
    let _ ← next?
    return some .last
  | some c =>
    if c.isDigit then
      let n ← takeNumber
      let _ ← takeWhile isBlankChar
      if (← peek?) == some '~' then
        let _ ← next?
        let _ ← takeWhile isBlankChar
        return some (.every n (← takeNumber))
      else return some (if n = 0 then .start else .line n)
    else return none
  | none => return none

/-- Take the end of a range. -/
def takeEnd (form : RegexForm) : Reader RangeEnd := do
  let _ ← takeWhile isBlankChar
  match ← peek? with
  | some '+' =>
    let _ ← next?
    return .after (← takeNumber)
  | some '~' =>
    let _ ← next?
    return .multiple (← takeNumber)
  | _ =>
    match ← takeAddress? form with
    | some .last => return .last
    | some (.line n) => return .line n
    | some .start => return .line 0
    | some (.fitting e) => return .fitting e
    | some (.every first step) => return .every first step
    | none =>
      let _ ← next?
      wrong "unexpected \x60,'"

/-- Take what may follow an action. -/
def takeStop : Reader Unit := do
  let _ ← takeWhile isBlankChar
  match ← peek? with
  | none => return ()
  | some '\x7d' => return ()
  | some '#' => return ()
  | some c =>
    let _ ← next?
    if c == '\n' || c == ';' || c == '\r' then return ()
    else wrong "extra characters after command"

/-- Take the name of a label. -/
def takeLabel : Reader String := do
  let _ ← takeWhile isBlankChar
  let name ← takeWhile fun c => !(isSpaceChar c || c == ';' || c == '\x7d')
  return String.ofList name

/-- Take the name of a file, up to the end of the line. -/
def takeFile : Reader String := do
  let _ ← takeWhile isBlankChar
  let name ← takeWhile (· != '\n')
  if name.isEmpty then wrong "missing filename in r/R/w/W commands"
  else
    let _ ← next?
    return String.ofList name

/-- Take the lines of a text; a backslash goes before a line break in it. -/
def takeLines (allowance : Nat) (done : List Char) : Reader (List Char) :=
  match allowance with
  | 0 => return done.reverse
  | n + 1 => do
    match ← next? with
    | none => return done.reverse
    | some '\n' => return done.reverse
    | some '\\' =>
      let r ← get
      match escape? r.rest with
      | some (c, rest) =>
        set ({ rest, taken := r.taken + (r.rest.length - rest.length) } : Reading)
        takeLines n (c :: done)
      | none =>
        match ← next? with
        | none => return done.reverse
        | some 'n' => takeLines n ('\n' :: done)
        | some c => takeLines n (c :: done)
    | some c => takeLines n (c :: done)

/-- Take the text of an action. -/
def takeText : Reader String := do
  let _ ← takeWhile isBlankChar
  match ← peek? with
  | none => wrong "expected \\ after \x60a', \x60c' or \x60i'"
  | some '\\' =>
    let _ ← next?
    let blanks ← takeWhile isBlankChar
    if (← peek?) == some '\n' then
      let _ ← next?
      finish ""
    else if (← peek?).isNone then return ""
    else
      let r ← get
      match escape? r.rest with
      | some (c, rest) =>
        set ({ rest, taken := r.taken + (r.rest.length - rest.length) } : Reading)
        finish (String.ofList blanks ++ c.toString)
      | none => finish (String.ofList blanks)
  | _ => finish ""
where
  finish (before : String) : Reader String := do
    let cs ← takeLines (← allowanceOf) []
    return before ++ String.ofList cs ++ "\n"

/-- The parts of a replacement. -/
def partsOf (allowance : Nat) (cs : List Char) : List Part :=
  match allowance, cs with
  | n + 1, '\\' :: rest =>
    match escape? rest with
    | some (c, rest) => .text c :: partsOf n rest
    | none =>
      match rest with
      | 'n' :: rest => .text '\n' :: partsOf n rest
      | 'U' :: rest => .change .upper :: partsOf n rest
      | 'L' :: rest => .change .lower :: partsOf n rest
      | 'u' :: rest => .change .upperOnce :: partsOf n rest
      | 'l' :: rest => .change .lowerOnce :: partsOf n rest
      | 'E' :: rest => .change .none :: partsOf n rest
      | c :: rest =>
        (if c.isDigit then .group (c.toNat - '0'.toNat) else .text c) :: partsOf n rest
      | [] => [.text '\\']
  | n + 1, '&' :: rest => .group 0 :: partsOf n rest
  | n + 1, c :: rest => .text c :: partsOf n rest
  | _, _ => []

/-- The letters after an exchange. -/
structure ExchangeLetters where
  all : Bool := false
  prints : Bool := false
  from? : Option Nat := none
  manner : Manner := {}
  file? : Option String := none

/-- Take the letters after an exchange. -/
def takeExchangeLetters (l : ExchangeLetters) (allowance : Nat) : Reader ExchangeLetters :=
  match allowance with
  | 0 => return l
  | n + 1 => do
    match ← peek? with
    | none => return l
    | some '\x7d' => return l
    | some '#' => return l
    | some c =>
      if c.isDigit then
        if l.from?.isSome then
          let _ ← next?
          wrong "multiple number options to \x60s' command"
        let k ← takeNumber
        if k = 0 then wrong "number option to \x60s' command may not be zero"
        takeExchangeLetters { l with from? := some k } n
      else
        let _ ← next?
        match c with
        | '\n' => return l
        | ';' => return l
        | '\r' => return l
        | 'g' =>
          if l.all then wrong "multiple \x60g' options to \x60s' command"
          takeExchangeLetters { l with all := true } n
        | 'p' =>
          if l.prints then wrong "multiple \x60p' options to \x60s' command"
          takeExchangeLetters { l with prints := true } n
        | 'i' => takeExchangeLetters { l with manner.ignoreCase := true } n
        | 'I' => takeExchangeLetters { l with manner.ignoreCase := true } n
        | 'm' => takeExchangeLetters { l with manner.multiline := true } n
        | 'M' => takeExchangeLetters { l with manner.multiline := true } n
        | 'e' => takeExchangeLetters l n
        | 'w' => return { l with file? := some (← takeFile) }
        | c => if isBlankChar c then takeExchangeLetters l n else wrong "unknown option to \x60s'"

/-- The highest group that a replacement refers to. -/
def highestGroup (parts : List Part) : Nat :=
  parts.foldl (fun n part =>
    match part with
    | .group k => max n k
    | _ => n) 0

/-- Take an exchange. -/
def takeExchange (form : RegexForm) : Reader Exchange := do
  let unfinished := "unterminated \x60s' command"
  match ← next? with
  | none => wrong unfinished
  | some mark =>
    match ← delimited? mark true (← allowanceOf) [] with
    | none => wrong unfinished
    | some pattern =>
      match ← delimited? mark false (← allowanceOf) [] with
      | none => wrong unfinished
      | some replacement =>
        let l ← takeExchangeLetters {} (← allowanceOf)
        let parts := partsOf (replacement.length + 1) replacement
        match expressionOf form l.manner pattern with
        | .error fault => wrong fault
        | .ok (expression, groups) =>
          let highest := highestGroup parts
          if groups < highest then
            wrong ("invalid reference \\" ++ toString highest ++ " on \x60s' command's RHS")
          else
            return {
              expression, parts, all := l.all, from_ := l.from?.getD 1, prints := l.prints
              file? := l.file? }

/-- The characters of one side of a map. -/
def mapChars (allowance : Nat) (cs : List Char) : List Char :=
  match allowance, cs with
  | n + 1, '\\' :: rest =>
    match escape? rest with
    | some (c, rest) => c :: mapChars n rest
    | none =>
      match rest with
      | '\\' :: rest => '\\' :: mapChars n rest
      | 'n' :: rest => '\n' :: mapChars n rest
      | c :: rest => '\\' :: c :: mapChars n rest
      | [] => ['\\']
  | n + 1, c :: rest => c :: mapChars n rest
  | _, _ => []

/-- Take a map of characters. -/
def takeMap : Reader (List (Char × Char)) := do
  let unfinished := "unterminated \x60y' command"
  match ← next? with
  | none => wrong unfinished
  | some mark =>
    match ← delimited? mark false (← allowanceOf) [] with
    | none => wrong unfinished
    | some first =>
      match ← delimited? mark false (← allowanceOf) [] with
      | none => wrong unfinished
      | some second =>
        let (a, b) := (mapChars (first.length + 1) first, mapChars (second.length + 1) second)
        if a.length != b.length then wrong "strings for \x60y' command are different lengths"
        else
          takeStop
          return a.zip b

/-- Take an exit code or a width. -/
def takeCode? : Reader (Option Nat) := do
  let _ ← takeWhile isBlankChar
  let digits ← takeWhile Char.isDigit
  takeStop
  return natural? (String.ofList digits)

/-- Take an action, given its letter. -/
def takeAction (form : RegexForm) (c : Char) : Reader Action := do
  let simple (a : Action) : Reader Action := do
    takeStop
    return a
  let jump (a : String → Action) : Reader Action := do
    let label ← takeLabel
    let _ ← takeWhile isBlankChar
    if (← peek?) == some ';' || (← peek?) == some '\n' then
      let _ ← next?
    return a label
  match c with
  | '=' => simple .number
  | 'd' => simple .delete
  | 'D' => simple .deleteFirst
  | 'g' => simple .get
  | 'G' => simple .getMore
  | 'h' => simple .hold
  | 'H' => simple .holdMore
  | 'n' => simple .next
  | 'N' => simple .nextMore
  | 'p' => simple .print
  | 'P' => simple .printFirst
  | 'x' => simple .swap
  | 'z' => simple .clear
  | 'F' => simple .fileName
  | 'a' => return .append (← takeText)
  | 'i' => return .insert (← takeText)
  | 'c' => return .change (← takeText)
  | 'b' => jump .jump
  | 't' => jump .jumpIf
  | 'T' => jump .jumpUnless
  | 'q' => return .quit ((← takeCode?).getD 0)
  | 'Q' => return .quitSilently ((← takeCode?).getD 0)
  | 'l' => return .list (← takeCode?)
  | 'r' => return .read (← takeFile)
  | 'R' => return .readOne (← takeFile)
  | 'w' => return .write (← takeFile)
  | 'W' => return .writeFirst (← takeFile)
  | 's' => return .exchange (← takeExchange form)
  | 'y' => return .map (← takeMap)
  | 'v' =>
    let _ ← takeLabel
    simple .nothing
  | c => wrong ("unknown command: \x60" ++ c.toString ++ "'")

/-- Whether an action is for one line at most. -/
def isForOneLine : Char → Bool
  | 'q' => true
  | 'Q' => true
  | _ => false

/-- Read the steps of a script; `opened` are the blocks that are open, the
innermost first. -/
def takeSteps (form : RegexForm) (allowance : Nat) (opened : List Nat) (done : Array Step) :
    Reader (Array Step) :=
  match allowance with
  | 0 => return done
  | n + 1 => do
    let _ ← takeWhile fun c => isSpaceChar c || c == ';'
    if (← peek?).isNone then
      if opened.isEmpty then return done
      else throw ⟨"unmatched \x60\x7b'", 0⟩
    let first? ← takeAddress? form
    let _ ← takeWhile isBlankChar
    let until? ←
      if first?.isSome && (← peek?) == some ',' then
        let _ ← next?
        some <$> takeEnd form
      else pure none
    let isPattern := match until? with
      | some (.fitting _) => true
      | _ => false
    let wrongZero := match first? with
      | some .start => !isPattern
      | _ => false
    let _ ← takeWhile isBlankChar
    let negated := (← peek?) == some '!'
    if negated then
      let _ ← next?
      let _ ← takeWhile isBlankChar
      if (← peek?) == some '!' then
        let _ ← next?
        wrong "multiple \x60!'s"
    match ← next? with
    | none => wrong "missing command"
    | some c =>
      if wrongZero then wrong "invalid usage of line address 0"
      else if c == '#' then
        if first?.isSome then wrong "comments don't accept any addresses"
        else
          let _ ← takeWhile (· != '\n')
          takeSteps form n opened done
      else if c == '\x7b' then
        takeSteps form n (done.size :: opened) (done.push ⟨first?, until?, negated, .block 0⟩)
      else if c == '\x7d' then
        match opened with
        | [] => wrong "unexpected \x60\x7d'"
        | i :: opened =>
          if first?.isSome then wrong "\x7d doesn't want any addresses"
          else
            takeStop
            let stop := done.size
            let closed := done.modify i fun step => { step with action := .block stop }
            takeSteps form n opened (closed.push ⟨none, none, false, .blockEnd⟩)
      else if c == ':' then
        if first?.isSome then wrong ": doesn't want any addresses"
        else
          let label ← takeLabel
          if label.isEmpty then wrong "\":\" lacks a label"
          else
            takeStop
            takeSteps form n opened (done.push ⟨none, none, false, .label label⟩)
      else if until?.isSome && isForOneLine c then wrong "command only uses one address"
      else if (first?.isSome || negated) && (c == ';' || c == '\n') then
        if c == '\n' then wrong "missing command"
        else wrong ("unknown command: \x60" ++ c.toString ++ "'")
      else
        let action ← takeAction form c
        takeSteps form n opened (done.push ⟨first?, until?, negated, action⟩)

/-- The label that a jump goes to. -/
def labelOf? : Action → Option String
  | .jump label => some label
  | .jumpIf label => some label
  | .jumpUnless label => some label
  | _ => none

/-- Where a label stands. -/
def placeOf? (steps : Array Step) (label : String) : Option Nat :=
  steps.findIdx? fun step =>
    match step.action with
    | .label name => name == label
    | _ => false

/-- A label that is jumped to, but stands nowhere. -/
def missingLabel? (steps : Array Step) : Option String :=
  (steps.toList.filterMap fun step => labelOf? step.action).find? fun label =>
    !label.isEmpty && (placeOf? steps label).isNone

/-- Read a script. -/
def readScript (form : RegexForm) (cs : List Char) : Except Mistake (Array Step) := do
  let (steps, _) ← (takeSteps form (cs.length + 1) [] #[]).run { rest := cs }
  return steps

end GuardCost.Utility.Edit
