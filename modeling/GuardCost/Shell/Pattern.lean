/-
GuardCost/Shell/Pattern.lean

Patterns.  A star stands for any text, a question mark for one character, and
brackets for one character of a set: of ranges, or of a class that is named
between colons.  A quoted character stands for itself, and so does one after
a backslash.
-/
namespace GuardCost.Shell

/-- A character of a pattern, and whether it was quoted. -/
abbrev Marked := Char × Bool

/-- A text as marked characters. -/
def markedText (quoted : Bool) (cs : List Char) : List Marked := cs.map fun c => (c, quoted)

/-! ### Classes -/

/-- Whether a character is a mark that shows, but no letter and no digit. -/
def isPunctuation (c : Char) : Bool := '!' ≤ c && c ≤ '~' && !c.isAlphanum

/-- The class of a name. -/
def classOf? (name : String) : Option (Char → Bool) :=
  match name with
  | "alpha" => some Char.isAlpha
  | "digit" => some Char.isDigit
  | "alnum" => some Char.isAlphanum
  | "upper" => some Char.isUpper
  | "lower" => some Char.isLower
  | "space" => some fun c => c == ' ' || ('\t' ≤ c && c ≤ '\r')
  | "blank" => some fun c => c == ' ' || c == '\t'
  | "punct" => some isPunctuation
  | "print" => some fun c => ' ' ≤ c && c ≤ '~'
  | "graph" => some fun c => '!' ≤ c && c ≤ '~'
  | "cntrl" => some fun c => c < ' ' || c == '\x7f'
  | "xdigit" => some fun c => c.isDigit || ('a' ≤ c && c ≤ 'f') || ('A' ≤ c && c ≤ 'F')
  | _ => none

/-! ### Patterns -/

/-- A member of a set. -/
inductive Member where
  | range (low high : Char)
  | named (name : String)
  deriving DecidableEq, Repr

/-- Whether a character is a member. -/
def Member.accepts (m : Member) (c : Char) : Bool :=
  match m with
  | range low high => low ≤ c && c ≤ high
  | named name => (classOf? name).any fun f => f c

/-- One part of a pattern. -/
inductive Wildcard where
  | exactly (c : Char)
  | anyChar
  | anyText
  /-- A character that is, or is not, among the members. -/
  | oneOf (inside : Bool) (members : List Member)
  deriving DecidableEq, Repr

namespace Wildcard

/-- Whether a part that stands for one character stands for this one. -/
def accepts (p : Wildcard) (c : Char) : Bool :=
  match p with
  | exactly d => c == d
  | anyChar => true
  | anyText => false
  | oneOf inside members => (members.any fun m => m.accepts c) == inside

/-- Whether a text fits a pattern. -/
def fits : List Wildcard → List Char → Bool
  | [], cs => cs.isEmpty
  | .anyText :: ps, [] => fits ps []
  | .anyText :: ps, c :: cs => fits ps (c :: cs) || fits (.anyText :: ps) cs
  | _ :: _, [] => false
  | p :: ps, c :: cs => p.accepts c && fits ps cs
termination_by ps cs => (cs.length, ps.length)

/-- The name of the class that comes next, and what follows it. -/
def className? (cs : List Marked) : Option (String × List Marked) :=
  let name := (cs.takeWhile fun e => e.1.isAlpha).map (·.1)
  match cs.drop name.length with
  | (':', _) :: (']', _) :: rest =>
    let name := String.ofList name
    if (classOf? name).isSome then some (name, rest) else none
  | _ => none

/-- The members up to the closing bracket and what follows it, if there is
one; a closing bracket in the first place does not count. -/
def members? (allowance : Nat) (first : Bool) (cs : List Marked) :
    Option (List Member × List Marked) :=
  match allowance, cs with
  | 0, _ => none
  | _, [] => none
  | n + 1, (c, quoted) :: rest =>
    let single : Option (List Member × List Marked) :=
      match rest with
      | ('-', false) :: (d, true) :: rest =>
        (members? n false rest).map fun (ms, r) => (.range c d :: ms, r)
      | ('-', false) :: (']', false) :: _ =>
        (members? n false rest).map fun (ms, r) => (.range c c :: ms, r)
      | ('-', false) :: (d, false) :: rest =>
        (members? n false rest).map fun (ms, r) => (.range c d :: ms, r)
      | rest => (members? n false rest).map fun (ms, r) => (.range c c :: ms, r)
    if c == ']' && !quoted && !first then some ([], rest)
    else if c == '[' && !quoted then
      match rest with
      | (':', false) :: after =>
        match className? after with
        | some (name, rest) =>
          (members? n false rest).map fun (ms, r) => (.named name :: ms, r)
        | none => single
      | _ => single
    else single

/-- The set after an opening bracket and what follows it, if it is closed. -/
def bracket? (cs : List Marked) : Option (Wildcard × List Marked) :=
  match cs with
  | ('!', false) :: rest =>
    (members? (rest.length + 1) true rest).map fun (ms, r) => (oneOf false ms, r)
  | rest => (members? (rest.length + 1) true rest).map fun (ms, r) => (oneOf true ms, r)

/-- Quote the characters after a backslash. -/
def quoteEscaped : List Marked → List Marked
  | ('\\', false) :: (c, _) :: rest => (c, true) :: quoteEscaped rest
  | e :: rest => e :: quoteEscaped rest
  | [] => []

/-- Read a pattern in which no backslash escapes. -/
def ofQuoted (allowance : Nat) (cs : List Marked) : List Wildcard :=
  match allowance, cs with
  | 0, _ => []
  | _, [] => []
  | n + 1, ('*', false) :: rest => anyText :: ofQuoted n (rest.dropWhile (· == ('*', false)))
  | n + 1, ('?', false) :: rest => anyChar :: ofQuoted n rest
  | n + 1, ('[', false) :: rest =>
    match bracket? rest with
    | some (set, rest) => set :: ofQuoted n rest
    | none => exactly '[' :: ofQuoted n rest
  | n + 1, (c, _) :: rest => exactly c :: ofQuoted n rest

/-- Read a pattern. -/
def ofMarked (cs : List Marked) : List Wildcard := ofQuoted cs.length (quoteEscaped cs)

end Wildcard

/-- Whether a text fits a pattern. -/
def fitsPattern (pattern : List Marked) (cs : List Char) : Bool :=
  Wildcard.fits (Wildcard.ofMarked pattern) cs

/-- Whether a pattern has a part that does not stand for itself alone. -/
def isPattern (pattern : List Marked) : Bool :=
  (Wildcard.ofMarked pattern).any fun
    | .exactly _ => false
    | _ => true

/-! ### Cutting -/

/-- The length of the start of a text that fits, the longest or the
shortest. -/
def startThatFits? (longest : Bool) (pattern : List Marked) (cs : List Char) : Option Nat :=
  let parts := Wildcard.ofMarked pattern
  let lengths := List.range (cs.length + 1)
  (if longest then lengths.reverse else lengths).find? fun n => Wildcard.fits parts (cs.take n)

/-- The length of what is left before the end of a text that fits, the longest
or the shortest end. -/
def restBeforeEnd? (longest : Bool) (pattern : List Marked) (cs : List Char) : Option Nat :=
  let parts := Wildcard.ofMarked pattern
  let lengths := List.range (cs.length + 1)
  (if longest then lengths else lengths.reverse).find? fun n => Wildcard.fits parts (cs.drop n)

/-- A text without what fits a pattern at its start or its end. -/
def cutPattern (atEnd longest : Bool) (pattern : List Marked) (cs : List Char) : List Char :=
  if atEnd then ((restBeforeEnd? longest pattern cs).map cs.take).getD cs
  else ((startThatFits? longest pattern cs).map cs.drop).getD cs

end GuardCost.Shell
