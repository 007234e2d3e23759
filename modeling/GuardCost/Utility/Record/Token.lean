/-
GuardCost/Utility/Record/Token.lean

The tokens of a script.  A slash starts a regular expression unless a value
stands before it, which it divides then.
-/
import GuardCost.Number.Reading

namespace GuardCost.Utility.Record

/-! ### Tokens -/

/-- A token. -/
inductive Token where
  | number (x : Float)
  | text (s : String)
  | pattern (source : String)
  | name (s : String)
  /-- A name with an opening parenthesis after it. -/
  | call (s : String)
  | keyword (s : String)
  /-- A function that every script has. -/
  | function (s : String)
  | sign (s : String)
  | newline
  deriving Inhabited

/-- The keywords. -/
def keywords : List String :=
  ["BEGIN", "END", "function", "func", "if", "else", "while", "for", "do", "break", "continue",
    "next", "nextfile", "exit", "return", "delete", "in", "getline", "print", "printf"]

/-- The functions that every script has. -/
def functionNames : List String :=
  ["length", "substr", "index", "split", "sub", "gsub", "match", "sprintf", "sin", "cos", "atan2",
    "exp", "log", "sqrt", "int", "rand", "srand", "tolower", "toupper", "system", "close",
    "fflush"]

/-- The signs, the longer first. -/
def signs : List String :=
  ["&&", "||", "==", "<=", ">=", "!=", "++", "--", "+=", "-=", "*=", "/=", "%=", "^=", ">>",
    "!~", "\x7b", "\x7d", "(", ")", "[", "]", ";", ",", "+", "-", "*", "/", "%", "^", "!",
    ">", "<", "|", "?", ":", "~", "$", "="]

/-- A token as it is named in a complaint. -/
def Token.shown : Token → String
  | number _ => "number"
  | text s => s
  | pattern s => "/" ++ s ++ "/"
  | name s => s
  | call s => s
  | keyword s => s
  | function s => s
  | sign s => s
  | newline => "end of line"

/-- Whether a value can end with a token. -/
def Token.endsValue : Token → Bool
  | number _ => true
  | text _ => true
  | name _ => true
  | sign s => s == ")" || s == "]" || s == "$" || s == "++" || s == "--"
  | function s => s == "length"
  | _ => false

/-! ### Texts -/

/-- An octal digit. -/
def isOctal (c : Char) : Bool := '0' ≤ c && c ≤ '7'

/-- The character that an escape stands for, with what is left; an unknown
escape stands for itself. -/
def escape : List Char → List Char × List Char
  | '"' :: rest => (['"'], rest)
  | '\\' :: rest => (['\\'], rest)
  | 'n' :: rest => (['\n'], rest)
  | 't' :: rest => (['\t'], rest)
  | 'r' :: rest => (['\r'], rest)
  | 'a' :: rest => (['\x07'], rest)
  | 'b' :: rest => (['\x08'], rest)
  | 'f' :: rest => (['\x0c'], rest)
  | 'v' :: rest => (['\x0b'], rest)
  | cs =>
    let ds := (cs.take 3).takeWhile isOctal
    if ds.isEmpty then ('\\' :: cs.take 1, cs.drop 1)
    else
      let code := ds.foldl (fun n d => n * 8 + (d.toNat - '0'.toNat)) 0
      ([Char.ofNat (code % 256)], cs.drop ds.length)

/-- The characters that a text stands for. -/
def unescape (allowance : Nat) : List Char → List Char
  | [] => []
  | '\\' :: '\n' :: rest =>
    match allowance with
    | 0 => []
    | n + 1 => unescape n rest
  | '\\' :: rest =>
    match allowance with
    | 0 => []
    | n + 1 =>
      let (cs, rest) := escape rest
      cs ++ unescape n rest
  | c :: rest =>
    match allowance with
    | 0 => []
    | n + 1 => c :: unescape n rest

/-- The text that a word given from outside stands for. -/
def unescaped (s : String) : String := String.ofList (unescape (s.length + 1) s.toList)

/-- A text up to a character that closes it, as it is written, and what is
left. -/
def written (closing : Char) : List Char → Option (List Char × List Char)
  | [] => none
  | '\\' :: c :: rest => (written closing rest).map fun (cs, left) => ('\\' :: c :: cs, left)
  | c :: rest =>
    if c == closing then some ([], rest)
    else if c == '\n' then none
    else (written closing rest).map fun (cs, left) => (c :: cs, left)

/-- A regular expression up to the slash that closes it; one within brackets
does not. -/
def writtenPattern (bracketed : Bool) : List Char → Option (List Char × List Char)
  | [] => none
  | '\\' :: '/' :: rest => (writtenPattern bracketed rest).map fun (cs, left) => ('/' :: cs, left)
  | '\\' :: c :: rest =>
    (writtenPattern bracketed rest).map fun (cs, left) => ('\\' :: c :: cs, left)
  | c :: rest =>
    if c == '/' && !bracketed then some ([], rest)
    else if c == '\n' then none
    else
      (writtenPattern (if c == '[' then true else if c == ']' then false else bracketed) rest).map
        fun (cs, left) => (c :: cs, left)

/-! ### Reading -/

/-- Why a script cannot be read: the line, and what is wrong there. -/
structure Fault where
  line : Nat
  message : String

/-- Whether a name can go on with a character. -/
def isNamePart (c : Char) : Bool := c.isAlphanum || c == '_'

/-- A name as a token; what follows it can make it a call. -/
def nameToken (s : String) (rest : List Char) : Token :=
  if keywords.contains s then .keyword (if s == "func" then "function" else s)
  else if functionNames.contains s then .function s
  else if rest.head? == some '(' then .call s
  else .name s

/-- The tokens of a script, each with its line. -/
def tokensFrom (allowance line : Nat) (afterValue : Bool) (cs : List Char) :
    Except Fault (List (Token × Nat)) :=
  match allowance with
  | 0 => .ok []
  | n + 1 =>
    let goOn := fun (t : Token) (rest : List Char) =>
      (tokensFrom n line t.endsValue rest).map fun ts => (t, line) :: ts
    match cs with
    | [] => .ok []
    | '\\' :: '\n' :: rest => tokensFrom n (line + 1) afterValue rest
    | '\\' :: '\r' :: '\n' :: rest => tokensFrom n (line + 1) afterValue rest
    | '\n' :: rest =>
      (tokensFrom n (line + 1) false rest).map fun ts => (.newline, line) :: ts
    | '#' :: rest => tokensFrom n line afterValue (rest.dropWhile (· != '\n'))
    | '"' :: rest =>
      match written '"' rest with
      | none => .error ⟨line, "runaway string constant " ++ String.ofList ('"' :: rest.take 10) ++ " ..."⟩
      | some (s, left) => goOn (.text (unescaped (String.ofList s))) left
    | c :: rest =>
      if c == ' ' || c == '\t' || c == '\r' then tokensFrom n line afterValue rest
      else if c == '/' && !afterValue then
        match writtenPattern false rest with
        | none => .error ⟨line, "runaway regular expression /" ++ String.ofList (rest.take 10) ++ " ..."⟩
        | some (s, left) => goOn (.pattern (String.ofList s)) left
      else if c.isDigit || (c == '.' && rest.head?.any Char.isDigit) then
        match Decimal.readDouble? cs with
        | some (x, left) => goOn (.number x) left
        | none => goOn (.number 0) rest
      else if c.isAlpha || c == '_' then
        let s := String.ofList (cs.takeWhile isNamePart)
        let left := cs.dropWhile isNamePart
        goOn (nameToken s left) left
      else match signs.find? fun s => s.toList.isPrefixOf cs with
        | some s => goOn (.sign s) (cs.drop s.length)
        | none => .error ⟨line, "unexpected character '" ++ c.toString ++ "'"⟩

/-- The tokens of a script. -/
def tokensOf (s : String) : Except Fault (List (Token × Nat)) :=
  tokensFrom (s.length + 1) 1 false s.toList

end GuardCost.Utility.Record
