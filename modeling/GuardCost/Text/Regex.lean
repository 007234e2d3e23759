/-
GuardCost/Text/Regex.lean

Regular expressions in their basic and their extended form.  Of all matches
at the first place where there is one, the longest counts; among those of one
length the one in which earlier parts take as much as they can.

A matcher is given what to do with the rest of the text, so that groups can be
referred to further on.  A part that is repeated has to take something each
time, and so the length of the text bounds the repetitions.
-/
import GuardCost.Text.Parts

namespace GuardCost.Text

/-! ### Expressions -/

/-- A member of a set of characters. -/
inductive SetItem where
  | char (c : Char)
  | range (first last : Char)
  | ofClass (name : String)
  deriving DecidableEq, Repr

/-- A place in a text. -/
inductive Place where
  | lineStart
  | lineEnd
  | wordStart
  | wordEnd
  | wordEdge
  | noWordEdge
  /-- No character of a word stands before. -/
  | afterNoWord
  /-- No character of a word comes next. -/
  | beforeNoWord
  | textStart
  | textEnd
  deriving DecidableEq, Repr

/-- A regular expression. -/
inductive Regex where
  | empty
  | char (c : Char)
  | any
  | set (negated : Bool) (items : List SetItem)
  | place (p : Place)
  | seq (a b : Regex)
  | either (a b : Regex)
  | many (a : Regex) (lowest : Nat) (highest? : Option Nat)
  | group (number : Nat) (a : Regex)
  | sameAs (number : Nat)
  deriving Repr

namespace Regex

/-- Whether a character belongs to a class. -/
def isInClass (name : String) (c : Char) : Bool :=
  match name with
  | "alpha" => c.isAlpha
  | "digit" => c.isDigit
  | "alnum" => c.isAlphanum
  | "upper" => c.isUpper
  | "lower" => c.isLower
  | "space" => c == ' ' || ('\t' ≤ c && c ≤ '\r')
  | "blank" => c == ' ' || c == '\t'
  | "punct" => '!' ≤ c && c ≤ '~' && !c.isAlphanum
  | "print" => ' ' ≤ c && c ≤ '~'
  | "graph" => '!' ≤ c && c ≤ '~'
  | "cntrl" => c < ' ' || c == '\x7f'
  | "xdigit" => c.isDigit || ('a' ≤ c && c ≤ 'f') || ('A' ≤ c && c ≤ 'F')
  | _ => false

/-- The names of the classes. -/
def classNames : List String :=
  ["alpha", "digit", "alnum", "upper", "lower", "space", "blank", "punct", "print", "graph",
    "cntrl", "xdigit"]

/-- Whether a character belongs to a word. -/
def isWordChar (c : Char) : Bool := c.isAlphanum || c == '_'

/-- Whether a character is a member of a set. -/
def isInSet (items : List SetItem) (c : Char) : Bool :=
  items.any fun item =>
    match item with
    | .char d => c == d
    | .range a b => a ≤ c && c ≤ b
    | .ofClass name => isInClass name c

/-- A character in its small and its large form. -/
def bothCases (c : Char) : List Char := [c, c.toLower, c.toUpper]

/-! ### Matching -/

/-- A place in the text that a match is at. -/
structure Here where
  /-- How many characters the match has passed, from the start of the text. -/
  index : Nat
  before? : Option Char
  rest : List Char
  /-- What the groups have taken: their starts, and their characters. -/
  groups : List (Nat × Nat × List Char) := []

/-- How texts are looked at. -/
structure Manner where
  /-- Whether small and large letters are the same. -/
  ignoreCase : Bool := false
  /-- Whether lines inside a text have starts and ends. -/
  multiline : Bool := false

/-- Whether a place in a text is of a kind. -/
def isAt (m : Manner) (p : Place) (h : Here) : Bool :=
  let wordBefore := h.before?.any isWordChar
  let wordAfter := h.rest.head?.any isWordChar
  match p with
  | .lineStart => h.before?.isNone || (m.multiline && h.before? == some '\n')
  | .lineEnd => h.rest.isEmpty || (m.multiline && h.rest.head? == some '\n')
  | .wordStart => !wordBefore && wordAfter
  | .wordEnd => wordBefore && !wordAfter
  | .wordEdge => wordBefore != wordAfter
  | .noWordEdge => wordBefore == wordAfter
  | .afterNoWord => !wordBefore
  | .beforeNoWord => !wordAfter
  | .textStart => h.before?.isNone
  | .textEnd => h.rest.isEmpty

/-- The best match so far. -/
abbrev Best := Option Here

/-- Whether a match is longer than the best one so far. -/
def improve (best : Best) (h : Here) : Best :=
  match best with
  | some b => if b.index < h.index then some h else best
  | none => some h

/-- Whether no match can be longer. -/
def isLongest : Best → Bool
  | some b => b.rest.isEmpty
  | none => false

/-- What is done with the rest of the text after a part has matched. -/
abbrev Next := Here → Best → Best

/-- Go past a character that fits. -/
def step (fits : Char → Bool) (h : Here) (best : Best) (next : Next) : Best :=
  match h.rest with
  | c :: rest =>
    if fits c then next { h with index := h.index + 1, before? := some c, rest } best else best
  | [] => best

/-- Whether characters are the same in some manner. -/
def same (m : Manner) (a b : Char) : Bool :=
  a == b || (m.ignoreCase && a.toLower == b.toLower)

/-- Go past characters that are the same as given ones. -/
def stepOver (m : Manner) (cs : List Char) (h : Here) : Option Here :=
  match cs with
  | [] => some h
  | c :: cs =>
    match h.rest with
    | d :: rest =>
      if same m c d then stepOver m cs { h with index := h.index + 1, before? := some d, rest }
      else none
    | [] => none

/-- Match a part again and again, as often as possible first. -/
def repeatPart (part : Here → Best → Next → Best) (lowest : Nat) (highest? : Option Nat)
    (rounds : Nat) (h : Here) (best : Best) (next : Next) : Best :=
  match rounds with
  | 0 => if lowest = 0 then next h best else best
  | n + 1 =>
    let more :=
      if highest? == some 0 then best
      else part h best fun after best =>
        if after.index = h.index && lowest = 0 then best
        else repeatPart part (lowest - 1) (highest?.map (· - 1)) n after best next
    if isLongest more then more
    else if lowest = 0 then next h more
    else more

/-- Match an expression. -/
def run (m : Manner) (r : Regex) (h : Here) (best : Best) (next : Next) : Best :=
  match r with
  | empty => next h best
  | char c => step (same m c) h best next
  | any => step (fun _ => true) h best next
  | set negated items =>
    let fits := fun c : Char =>
      if m.ignoreCase then (bothCases c).any (isInSet items) else isInSet items c
    step (fun c => fits c != negated) h best next
  | place p => if isAt m p h then next h best else best
  | seq a b => run m a h best fun after best => run m b after best next
  | either a b =>
    let first := run m a h best next
    if isLongest first then first else run m b h first next
  | many a lowest highest? =>
    repeatPart (fun h best next => run m a h best next) lowest highest?
      (h.rest.length + lowest + 1) h best next
  | group number a =>
    run m a h best fun after best =>
      let taken := h.rest.take (after.index - h.index)
      let others := after.groups.filter fun entry => entry.1 != number
      next { after with groups := (number, h.index, taken) :: others } best
  | sameAs number =>
    match h.groups.lookup number with
    | some (_, taken) =>
      match stepOver m taken h with
      | some after => next after best
      | none => best
    | none => best

/-- A match in a text. -/
structure Match where
  start : Nat
  length : Nat
  groups : List (Nat × Nat × List Char)

/-- The longest match at a place. -/
def matchAt? (m : Manner) (r : Regex) (h : Here) : Option Match :=
  (run m r h none fun after best => improve best after).map fun after =>
    { start := h.index, length := after.index - h.index, groups := after.groups }

/-- The first match at a place or later. -/
def find? (m : Manner) (r : Regex) (index : Nat) (before? : Option Char) (cs : List Char) :
    Option Match :=
  match matchAt? m r { index, before?, rest := cs } with
  | some found => some found
  | none =>
    match cs with
    | c :: rest => find? m r (index + 1) (some c) rest
    | [] => none

/-- Whether an expression matches somewhere in a text. -/
def occurs (m : Manner) (r : Regex) (s : String) : Bool := (find? m r 0 none s.toList).isSome

end Regex

/-! ### Reading -/

/-- A form of regular expressions. -/
inductive RegexForm where
  | basic
  | extended
  deriving DecidableEq, Repr

namespace Regex

/-- What went wrong in reading an expression. -/
abbrev Fault := String

/-- The items of a set of characters after its start, and the rest; `first`
says whether a closing bracket still stands for itself. -/
def readItems (allowance : Nat) (first : Bool) (cs : List Char) :
    Except Fault (List SetItem × List Char) :=
  let unmatched := "Unmatched [, [^, [:, [., or [="
  match allowance with
  | 0 => .error unmatched
  | n + 1 =>
    match cs with
    | [] => .error unmatched
    | ']' :: rest => if first then readFrom n ']' rest else .ok ([], rest)
    | '[' :: ':' :: rest =>
      let name := String.ofList (rest.takeWhile Char.isAlpha)
      match rest.drop name.length with
      | ':' :: ']' :: after =>
        if classNames.contains name then do
          let (items, after) ← readItems n false after
          return (.ofClass name :: items, after)
        else .error "Invalid character class name"
      | _ => .error unmatched
    | '[' :: '.' :: c :: '.' :: ']' :: rest => readFrom n c rest
    | '[' :: '=' :: c :: '=' :: ']' :: rest => do
      let (items, after) ← readItems n false rest
      return (.char c :: items, after)
    | c :: rest => readFrom n c rest
where
  readFrom (n : Nat) (c : Char) (rest : List Char) : Except Fault (List SetItem × List Char) :=
    match rest with
    | '-' :: ']' :: _ => do
      let (items, after) ← readItems n false rest
      return (.char c :: items, after)
    | '-' :: '[' :: '.' :: d :: '.' :: ']' :: after => range n c d after
    | '-' :: d :: after => range n c d after
    | _ => do
      let (items, after) ← readItems n false rest
      return (.char c :: items, after)
  range (n : Nat) (c d : Char) (after : List Char) : Except Fault (List SetItem × List Char) :=
    if d < c then .error "Invalid range end"
    else do
      let (items, after) ← readItems n false after
      return (.range c d :: items, after)

/-- Read a set of characters after its opening bracket. -/
def readSet (cs : List Char) : Except Fault (Regex × List Char) :=
  let (negated, cs) := match cs with
    | '^' :: rest => (true, rest)
    | cs => (false, cs)
  do
    let (items, rest) ← readItems (cs.length + 1) true cs
    return (.set negated items, rest)

/-- Digits as a number. -/
def numberOf (ds : List Char) : Nat := ds.foldl (fun n d => n * 10 + (d.toNat - '0'.toNat)) 0

/-- The bounds of a repetition after its opening brace, and what stands after
them. -/
def readBounds? (cs : List Char) : Option (Nat × Option Nat × List Char) :=
  let lowest := cs.takeWhile Char.isDigit
  match cs.drop lowest.length with
  | ',' :: rest =>
    let highest := rest.takeWhile Char.isDigit
    some (numberOf lowest, if highest.isEmpty then none else some (numberOf highest),
      rest.drop highest.length)
  | rest =>
    if lowest.isEmpty then none else some (numberOf lowest, some (numberOf lowest), rest)

/-- The state of reading: how many groups were opened, and which are
complete. -/
structure Reading where
  opened : Nat := 0
  closed : List Nat := []

/-- A reader of part of an expression. -/
abbrev Reader := StateT Reading (Except Fault)

/-- A sign of an expression. -/
inductive Sign where
  | openGroup
  | closeGroup
  | bar
  | star
  | plus
  | question
  | openBounds
  | plain (r : Regex)
  | backReference (n : Nat)
  | caret
  | dollar
  | openSet

/-- What a letter after a backslash stands for. -/
def escaped (form : RegexForm) (c : Char) : Sign :=
  let wordSet := [SetItem.ofClass "alnum", .char '_']
  let basic := form == .basic
  match c with
  | 'w' => .plain (.set false wordSet)
  | 'W' => .plain (.set true wordSet)
  | 's' => .plain (.set false [.ofClass "space"])
  | 'S' => .plain (.set true [.ofClass "space"])
  | 'b' => .plain (.place .wordEdge)
  | 'B' => .plain (.place .noWordEdge)
  | '<' => .plain (.place .wordStart)
  | '>' => .plain (.place .wordEnd)
  | '\x60' => .plain (.place .textStart)
  | '\'' => .plain (.place .textEnd)
  | '(' => if basic then .openGroup else .plain (.char c)
  | ')' => if basic then .closeGroup else .plain (.char c)
  | '|' => if basic then .bar else .plain (.char c)
  | '+' => if basic then .plus else .plain (.char c)
  | '?' => if basic then .question else .plain (.char c)
  | '\x7b' => if basic then .openBounds else .plain (.char c)
  | c =>
    if '1' ≤ c && c ≤ '9' then .backReference (c.toNat - '0'.toNat) else .plain (.char c)

/-- The next sign of an expression, and the rest. -/
def nextSign (form : RegexForm) (cs : List Char) : Option (Except Fault (Sign × List Char)) :=
  let extended := form == .extended
  match cs with
  | [] => none
  | '\\' :: [] => some (.error "Trailing backslash")
  | '\\' :: c :: rest => some (.ok (escaped form c, rest))
  | c :: rest =>
    let whenExtended := fun s : Sign => if extended then s else .plain (.char c)
    some (.ok (match c with
      | '*' => .star
      | '.' => .plain .any
      | '[' => .openSet
      | '^' => .caret
      | '$' => .dollar
      | '(' => whenExtended .openGroup
      | ')' => whenExtended .closeGroup
      | '|' => whenExtended .bar
      | '+' => whenExtended .plus
      | '?' => whenExtended .question
      | '\x7b' => whenExtended .openBounds
      | c => .plain (.char c), rest))

/-- Whether a dollar sign stands at an end: nothing but a closing sign
follows. -/
def standsAtEnd (form : RegexForm) (rest : List Char) : Bool :=
  form == .extended ||
    match nextSign form rest with
    | none => true
    | some (.ok (.closeGroup, _)) => true
    | some (.ok (.bar, _)) => true
    | _ => false

/-- Put an expression after others, the latest of which comes first. -/
def sequence : List Regex → Regex
  | [] => .empty
  | [r] => r
  | r :: rest => .seq (sequence rest) r

/-- The end of bounds. -/
def afterBounds? (form : RegexForm) (cs : List Char) : Option (List Char) :=
  match form, cs with
  | .basic, '\\' :: '\x7d' :: rest => some rest
  | .extended, '\x7d' :: rest => some rest
  | _, _ => none

/-- Read an expression up to its end or to the sign that closes its group.
`done` holds the parts before the current alternative is complete, the latest
first. -/
def readParts (form : RegexForm) (allowance : Nat) (inGroup : Bool) (done : List Regex)
    (cs : List Char) : Reader (Regex × List Char) :=
  match allowance with
  | 0 => throw "Regular expression too big"
  | n + 1 =>
    match nextSign form cs with
    | none => if inGroup then throw "Unmatched ( or \\(" else return (sequence done, [])
    | some (.error fault) => throw fault
    | some (.ok (sign, rest)) =>
      let goOn := fun (r : Regex) => readParts form n inGroup (r :: done) rest
      let again := fun (lowest : Nat) (highest? : Option Nat) (rest : List Char) =>
        match done with
        | [] =>
          if form == .basic then readParts form n inGroup (.char (cs.headD '*') :: done) rest
          else readParts form n inGroup done rest
        | last :: before =>
          match last with
          | .place .lineStart =>
            if form == .basic then
              readParts form n inGroup (.char (cs.headD '*') :: done) rest
            else readParts form n inGroup (.many last lowest highest? :: before) rest
          | _ => readParts form n inGroup (.many last lowest highest? :: before) rest
      match sign with
      | .plain r => goOn r
      | .backReference k => do
        if (← get).closed.contains k then goOn (.sameAs k) else throw "Invalid back reference"
      | .caret =>
        if form == .extended || done.isEmpty then goOn (.place .lineStart) else goOn (.char '^')
      | .dollar => if standsAtEnd form rest then goOn (.place .lineEnd) else goOn (.char '$')
      | .openSet =>
        match readSet rest with
        | .error fault => throw fault
        | .ok (r, rest) => readParts form n inGroup (r :: done) rest
      | .openGroup => do
        let number := (← get).opened + 1
        modify fun s => { s with opened := number }
        let (body, rest) ← readParts form n true [] rest
        modify fun s => { s with closed := number :: s.closed }
        readParts form n inGroup (.group number body :: done) rest
      | .closeGroup =>
        if inGroup then return (sequence done, rest)
        else if form == .extended then throw "Unmatched ) or \\)"
        else throw "Unmatched ) or \\)"
      | .bar => do
        let (second, rest) ← readParts form n inGroup [] rest
        return (.either (sequence done) second, rest)
      | .star => again 0 none rest
      | .plus => again 1 none rest
      | .question => again 0 (some 1) rest
      | .openBounds =>
        match readBounds? rest with
        | some (lowest, highest?, after) =>
          match afterBounds? form after with
          | some after =>
            if highest?.any (· < lowest) then throw "Invalid content of \\\x7b\\\x7d"
            else again lowest highest? after
          | none =>
            if form == .extended then goOn (.char '\x7b')
            else throw "Unmatched \\\x7b"
        | none =>
          if form == .extended then goOn (.char '\x7b')
          else throw "Invalid content of \\\x7b\\\x7d"

/-- Read an expression, with the number of its groups. -/
def ofText (form : RegexForm) (s : String) : Except Fault (Regex × Nat) := do
  let ((r, _), reading) ← (readParts form (2 * s.length + 2) false [] s.toList).run {}
  return (r, reading.opened)

/-- An expression that stands for a text. -/
def exactly (s : String) : Regex := sequence (s.toList.reverse.map .char)

/-- An expression that matches whole words or whole lines only. -/
def between (first last : Place) (r : Regex) : Regex := .seq (.place first) (.seq r (.place last))

end Regex

end GuardCost.Text
