/-
GuardCost/Shell/Grammar.lean

Reading scripts.  A script is read one complete line at a time, because a
line is carried out before the next one is looked at; what stands between a
keyword and its closing keyword belongs to one line.

Lists of commands hold commands, and commands hold lists.  Both readers use
up one of their allowance for every level, and a script cannot have more
levels than characters.
-/
import GuardCost.Shell.Judgement

namespace GuardCost.Shell

/-! ### Tokens -/

/-- The words that shape a script when they stand where a command starts. -/
def keywords : List String :=
  ["if", "then", "elif", "else", "fi", "while", "until", "do", "done", "for", "case", "esac", "in",
    "\x7b", "\x7d", "!"]

/-- The keywords of a dialect. -/
def keywordsOf (d : Dialect) : List String :=
  match d with
  | .plain => keywords
  | .extended => "[[" :: "]]" :: "function" :: keywords

/-- What can come next: whether lines without commands are passed over, and
whether a word can be a keyword or an alias, or an assignment be more than a
word. -/
structure Outlook where
  lines : Bool := false
  keywords : Bool := false
  aliases : Bool := false
  assignments : Bool := false

namespace Outlook

/-- Nothing but words and signs. -/
def words : Outlook := {}

/-- The start of a command. -/
def command : Outlook := { keywords := true, aliases := true, assignments := true }

/-- The start of a command, perhaps on a later line. -/
def laterCommand : Outlook := { command with lines := true }

/-- A keyword, perhaps on a later line. -/
def laterKeyword : Outlook := { lines := true, keywords := true }

end Outlook

/-- Give a token back. -/
def giveBack (t : Token) : Read Unit := modify fun s => { s with returned? := some t }

/-- Drop blanks, continued lines and a comment. -/
def dropBlanks (line : Nat) : List Char → List Char × Nat
  | ' ' :: rest => dropBlanks line rest
  | '\t' :: rest => dropBlanks line rest
  | '\\' :: '\n' :: rest => dropBlanks (line + 1) rest
  | '#' :: rest => (rest.dropWhile (· != '\n'), line)
  | rest => (rest, line)

/-- The operator of the extended dialect that comes next. -/
def extendedOperator? (cs : List Char) : Option String :=
  match cs with
  | '|' :: '&' :: _ => some "|&"
  | ';' :: ';' :: '&' :: _ => some ";;&"
  | ';' :: '&' :: _ => some ";&"
  | _ => none

/-- The operator that comes next. -/
def operator? (cs : List Char) : Option String :=
  match cs with
  | '&' :: '&' :: _ => some "&&"
  | '&' :: _ => some "&"
  | '|' :: '|' :: _ => some "||"
  | '|' :: _ => some "|"
  | ';' :: ';' :: _ => some ";;"
  | ';' :: _ => some ";"
  | '(' :: _ => some "("
  | ')' :: _ => some ")"
  | _ => none

/-- The arrow that comes next: its length, the descriptor it is for if none is
named, and what it does. -/
def arrow? (cs : List Char) : Option (Nat × Nat × Arrow) :=
  match cs with
  | '>' :: '>' :: _ => some (2, 1, .file .append)
  | '>' :: '&' :: _ => some (2, 1, .duplicate)
  | '>' :: '|' :: _ => some (2, 1, .file .overwrite)
  | '>' :: _ => some (1, 1, .file .create)
  | '<' :: '<' :: '-' :: _ => some (3, 0, .document true)
  | '<' :: '<' :: _ => some (2, 0, .document false)
  | '<' :: '&' :: _ => some (2, 0, .duplicate)
  | '<' :: '>' :: _ => some (2, 0, .file .readWrite)
  | '<' :: _ => some (1, 0, .file .read)
  | _ => none

/-- The redirection of the extended dialect that comes next, with how many
characters it takes. -/
def extendedRedirection? (cs : List Char) : Option (Nat × Token) :=
  match cs with
  | '&' :: '>' :: '>' :: _ => some (3, .redirection 1 (.both .append))
  | '&' :: '>' :: _ => some (2, .redirection 1 (.both .create))
  | '<' :: '<' :: '<' :: _ => some (3, .redirection 0 .line)
  | _ =>
    match cs.takeWhile Char.isDigit with
    | a :: b :: ds =>
      let digits := a :: b :: ds
      (arrow? (cs.drop digits.length)).map fun (length, _, arrow) =>
        (digits.length + length, .redirection (Arithmetic.ofDigits 10 digits) arrow)
    | _ => none

/-- The redirection that comes next, with how many characters it takes. -/
def redirection? (cs : List Char) : Option (Nat × Token) :=
  match arrow? cs with
  | some (length, usual, arrow) => some (length, .redirection usual arrow)
  | none =>
    match cs with
    | c :: rest =>
      if c.isDigit then (arrow? rest).map fun (length, _, arrow) =>
        (length + 1, .redirection (c.toNat - '0'.toNat) arrow)
      else none
    | [] => none

/-- Read a token as it stands there. -/
def readPlainToken (nested : Read Script) : Read Token := do
  let s ← get
  match s.returned? with
  | some t =>
    set { s with returned? := none }
    return t
  | none =>
    let (chars, line) := dropBlanks s.line s.chars
    set { s with chars, line }
    let extended := s.dialect == .extended
    let fromExtended := fun (find : List Char → Option (Nat × Token)) =>
      if extended then find chars else none
    match chars with
    | [] => return .ending
    | '\n' :: _ =>
      skipLines 1
      return .newline
    | cs =>
      let found? :=
        (fromExtended extendedRedirection?)
          <|> (fromExtended fun cs =>
            (extendedOperator? cs).map fun sign => (sign.length, .operator sign))
          <|> ((operator? cs).map fun sign => (sign.length, .operator sign))
          <|> redirection? cs
      let isStream := extended && cs.take 2 == ['<', '(']
      match if isStream then none else found? with
      | some (length, t) =>
        skip length
        return t
      | none =>
        if extended && startsAssignment cs then return .assignment (← readAssignment nested)
        else return .word (← readWord nested)

/-- The text of an alias, unless it is being read already. -/
def Source.alias? (s : Source) (name : String) : Option String :=
  if s.inside.any fun (busy, left) => busy == name && left < s.chars.length then none
  else s.aliases.lookup name

/-- Read a token; the allowance is for lines and aliases. -/
def readTokenWithin (nested : Read Script) (o : Outlook) (allowance : Nat) : Read Token :=
  match allowance with
  | 0 => return .ending
  | n + 1 => do
    let t ← readPlainToken nested
    let s ← get
    match t, t.plain? with
    | .newline, _ =>
      if o.lines then
        readDocuments nested
        readTokenWithin nested o n
      else return t
    | .assignment a, _ => return if o.assignments then t else .word a.asWord
    | _, some w =>
      if o.keywords && w ∈ keywordsOf s.dialect then return .keyword w
      else
        match if o.aliases then s.alias? w else none with
        | some text =>
          set { s with
            chars := text.toList ++ s.chars
            inside := (w, s.chars.length) :: s.inside }
          readTokenWithin nested o n
        | none => return t
    | _, none => return t

/-- Read a token. -/
def readToken (nested : Read Script) (o : Outlook) : Read Token := do
  readTokenWithin nested o ((← ahead).length + 64)

/-- Read a token that has to be there. -/
def expect (nested : Read Script) (o : Outlook) (is : Token → Bool) (sign : String) :
    Read Unit := do
  let t ← readToken nested o
  if is t then return () else complainOf t (some sign)

/-- Read a keyword that has to be there. -/
def expectKeyword (nested : Read Script) (o : Outlook) (name : String) : Read Unit :=
  expect nested o (·.isKeyword name) name

/-! ### Redirections -/

/-- Whether a word names a descriptor, or nothing at all. -/
def namesDescriptor (w : Word) : Bool :=
  match w with
  | [.text _ s] => s == "-" || s.toList.all Char.isDigit
  | _ => true

/-- The redirection of the errors to where the output goes. -/
def errorsToOutput : Nat × Redirect := (2, .duplicate [.text false "1"])

/-- Read what follows an arrow. -/
def readTarget (nested : Read Script) (descriptor : Nat) (arrow : Arrow) : Read Redirects := do
  let extended ← readsExtended
  match ← readToken nested .words with
  | .word w =>
    match arrow with
    | .file access => return [(descriptor, .file access w)]
    | .both access => return [(1, .file access w), errorsToOutput]
    | .duplicate =>
      if extended && descriptor == 1 && !namesDescriptor w then
        return [(1, .file .create w), errorsToOutput]
      else return [(descriptor, .duplicate w)]
    | .line =>
      let s ← get
      let text : Word := w ++ [.text true "\n"]
      set { s with
        nextDocument := s.nextDocument + 1
        documents := (s.nextDocument, text) :: s.documents }
      return [(descriptor, .document s.nextDocument)]
    | .document withoutTabs =>
      let (delimiter, quoted) := literalText w
      let s ← get
      let a : Awaited := 
        { number := s.nextDocument, line := s.line, delimiter, quoted, withoutTabs }
      set { s with nextDocument := s.nextDocument + 1, awaited := s.awaited ++ [a] }
      return [(descriptor, .document a.number)]
  | t => complainOf t none

/-- Read the redirections after a command; the allowance is for their
number. -/
def readRedirects (nested : Read Script) (allowance : Nat) : Read Redirects :=
  match allowance with
  | 0 => return []
  | n + 1 => do
    match ← readToken nested .command with
    | .redirection descriptor arrow =>
      let rs ← readTarget nested descriptor arrow
      return rs ++ (← readRedirects nested n)
    | t =>
      giveBack t
      return []

/-! ### Simple commands -/

/-- The parts of a simple command. -/
structure Parts where
  assignments : List Assignment := []
  words : List Word := []
  redirects : Redirects := []

/-- The names that no function can have. -/
def reservedNames : List String :=
  [".", ":", "break", "continue", "eval", "exec", "exit", "export", "readonly", "return", "set",
    "shift", "times", "trap", "unset"]

/-- Whether a token is part of a simple command. -/
def Token.isPart : Token → Bool
  | .word _ => true
  | .assignment _ => true
  | .redirection .. => true
  | _ => false

/-- Read the body of a function; in the extended dialect it is no simple
command. -/
def readFunctionBody (command : Read Script) (t : Token) : Read Script := do
  if (← readsExtended) && t.isPart then complainOf t none
  else
    giveBack t
    command

/-- Read what follows the opening parenthesis after a first word. -/
def readDefinition (nested command : Read Script) (w : Word) : Read Script := do
  expect nested .words (·.isOperator ")") ")"
  let extended ← readsExtended
  match w with
  | [.text false name] =>
    if extended || (isName name && !(name ∈ reservedNames)) then
      return .define name (← readFunctionBody command (← readToken nested .laterCommand))
    else complain "Bad function name"
  | _ => complain "Bad function name"

/-- Read a definition after its keyword. -/
def readKeywordDefinition (nested command : Read Script) : Read Script := do
  match ← readToken nested .words with
  | .word [.text _ name] =>
    let t ← readToken nested .words
    if t.isOperator "(" then expect nested .words (·.isOperator ")") ")" else giveBack t
    return .define name (← readFunctionBody command (← readToken nested .laterCommand))
  | t => complainOf t none

/-- Read the parts of a simple command, the latest parts first. -/
def readParts (nested command : Read Script) (line : Nat) (allowance : Nat) (p : Parts) :
    Read Script :=
  let done : Script :=
    .simple line p.assignments.reverse p.words.reverse p.redirects.reverse
  match allowance with
  | 0 => return done
  | n + 1 => do
    let extended ← readsExtended
    let t ← readToken nested { aliases := p.words.isEmpty, assignments := p.words.isEmpty }
    -- the line of a command is that of its second part, if it has one
    let isSecond := p.assignments.length + p.words.length + p.redirects.length < 2
    let here := (← get).line
    let line := if extended && isSecond && t.isPart then here else line
    match t with
    | .word w =>
      match if p.words.isEmpty then assignment? extended w else none with
      | some a => readParts nested command line n { p with assignments := a :: p.assignments }
      | none => readParts nested command line n { p with words := w :: p.words }
    | .assignment a => readParts nested command line n { p with assignments := a :: p.assignments }
    | .redirection descriptor arrow =>
      let rs ← readTarget nested descriptor arrow
      readParts nested command line n { p with redirects := rs.reverse ++ p.redirects }
    | t =>
      match p, t.isOperator "(" with
      | ⟨[], [w], []⟩, true => readDefinition nested command w
      | _, _ =>
        giveBack t
        return done

/-! ### Lists -/

/-- Where a list of commands ends. -/
inductive Extent where
  /-- With the line. -/
  | line
  /-- Before a closing keyword; there is at least one command. -/
  | closed
  /-- Before a closing keyword; there need not be a command. -/
  | optional
  deriving DecidableEq, Repr

/-- Whether a token closes a list of commands. -/
def Token.closesList : Token → Bool
  | .ending => true
  | .operator sign => sign == ")" || sign ∈ [";;", ";&", ";;&"]
  | .keyword name => name ∈ ["do", "done", "elif", "else", "esac", "fi", "then", "\x7d"]
  | _ => false

/-- Let a script run in the background. -/
def Script.inBackground (line : Nat) : Script → Script
  | .redirected l body rs => .background l body rs
  | body => .background line body []

/-- Read commands that are joined by bars. -/
def readBars (nested command : Read Script) (allowance : Nat) (first : Script) : Read Script := do
  match ← bars allowance with
  | [] => return first
  | parts => return .pipeline (withErrors first parts)
where
  /-- The parts of a pipeline; some write their errors to the next one too. -/
  withErrors (first : Script) : List (Bool × Script) → List Script
    | [] => [first]
    | (both, next) :: rest =>
      (if both then .redirected 0 first [errorsToOutput] else first) :: withErrors next rest
  bars : Nat → Read (List (Bool × Script))
    | 0 => return []
    | n + 1 => do
      let t ← readToken nested .words
      if t.isOperator "|" || t.isOperator "|&" then
        giveBack (← readToken nested .laterCommand)
        let next ← command
        return (t.isOperator "|&", next) :: (← bars n)
      else
        giveBack t
        return []

/-- Read a pipeline. -/
def readPipeline (nested command : Read Script) (o : Outlook) : Read Script := do
  let t ← readToken nested o
  let negated := t.isKeyword "!"
  let t ← if negated then readToken nested .command else pure t
  giveBack t
  let isBare := match t with
    | .newline => true
    | t => t.isOperator ";"
  if negated && isBare && (← readsExtended) then return .negation .nothing
  else
    let first ← command
    let whole ← readBars nested command ((← ahead).length + 2) first
    return if negated then .negation whole else whole

/-- Read pipelines that are joined to a first one by signs. -/
def readJoined (nested command : Read Script) (allowance : Nat) (first : Script) : Read Script :=
  match allowance with
  | 0 => return first
  | n + 1 => do
    let t ← readToken nested .words
    if t.isOperator "&&" || t.isOperator "||" then
      let joint := if t.isOperator "&&" then Joint.ifWell else .ifNotWell
      let second ← readPipeline nested command .laterCommand
      readJoined nested command n (.join joint first second)
    else
      giveBack t
      return first

/-- Read pipelines that are joined by signs. -/
def readChain (nested command : Read Script) : Read Script := do
  let first ← readPipeline nested command .command
  readJoined nested command ((← ahead).length + 2) first

/-- Read a list of commands after some of it. -/
def readRest (nested command : Read Script) (extent : Extent) (allowance : Nat) (before : Script) :
    Read Script :=
  match allowance with
  | 0 => return before
  | n + 1 => do
    let t ← readToken nested { Outlook.command with lines := extent != .line }
    match t with
    | .newline =>
      readDocuments nested
      return before
    | .ending =>
      readDocuments nested
      giveBack t
      return before
    | t =>
      giveBack t
      if extent == .optional && t.closesList then return before
      else
        let line := (← get).line
        let next ← readChain nested command
        let sign ← readToken nested .words
        let next := if sign.isOperator "&" then next.inBackground line else next
        let whole := before.andThen next
        let extent' := if extent == .line then .line else .optional
        match sign with
        | .ending =>
          readDocuments nested
          giveBack sign
          return whole
        | .newline =>
          giveBack sign
          readRest nested command extent' n whole
        | .operator "&" => readRest nested command extent' n whole
        | .operator ";" => readRest nested command extent' n whole
        | _ =>
          if extent == .line then complainOf sign none
          else
            giveBack sign
            return whole

/-! ### Commands -/

/-- Read the test, the branches and the end of a choice. -/
def readChoice (nested : Read Script) (list : Extent → Read Script) (allowance : Nat) :
    Read Script :=
  match allowance with
  | 0 => complain "end of file unexpected"
  | n + 1 => do
    let test ← list .closed
    expectKeyword nested .command "then"
    let yes ← list .closed
    let t ← readToken nested .command
    if t.isKeyword "elif" then return .choice test yes (← readChoice nested list n)
    else if t.isKeyword "else" then
      let no ← list .closed
      expectKeyword nested .command "fi"
      return .choice test yes no
    else
      giveBack t
      expectKeyword nested .command "fi"
      return .choice test yes .nothing

/-- Read a loop from its test on. -/
def readLoop (nested : Read Script) (list : Extent → Read Script) (whileWell : Bool) :
    Read Script := do
  let test ← list .closed
  expectKeyword nested .command "do"
  let body ← list .closed
  expectKeyword nested .command "done"
  return .loop whileWell test body

/-- Read the words of a loop up to the end of the line or a semicolon. -/
def readWords (nested : Read Script) (allowance : Nat) : Read (List Word) :=
  match allowance with
  | 0 => return []
  | n + 1 => do
    match ← readToken nested .words with
    | .word w => return w :: (← readWords nested n)
    | .newline =>
      readDocuments nested
      return []
    | .operator ";" => return []
    | t => complainOf t none

/-- Read the body of a loop over words or numbers. -/
def readBody (nested : Read Script) (list : Extent → Read Script) : Read Script := do
  let t ← readToken nested .laterCommand
  if (← readsExtended) && t.isKeyword "\x7b" then
    let body ← list .closed
    expectKeyword nested .command "\x7d"
    return body
  else
    giveBack t
    expectKeyword nested .laterCommand "do"
    let body ← list .closed
    expectKeyword nested .command "done"
    return body

/-- The variable of a loop over words.  In the extended dialect its name is
looked at when the loop is carried out. -/
def loopVariable (extended : Bool) (t : Token) : Read String :=
  match t with
  | .word w =>
    let name := t.plain?.getD ""
    if isName name then return name
    else if extended then return (Token.word w).source
    else complain "Bad for loop variable"
  | t => if extended then complainOf t none else complain "Bad for loop variable"

/-- Read a loop over words from its variable on. -/
def readForEach (nested : Read Script) (list : Extent → Read Script) (line : Nat) :
    Read Script := do
  let name ← loopVariable (← readsExtended) (← readToken nested .words)
  let t ← readToken nested .laterCommand
  let words ←
    if t.isKeyword "in" then readWords nested ((← ahead).length + 2)
    else do
      if !t.isOperator ";" then giveBack t
      pure [[Piece.parameter true .eachArgument .value]]
  return .forEach line name words (← readBody nested list)

/-- Read a loop over numbers from its expressions on. -/
def readCount (nested : Read Script) (list : Extent → Read Script) (line : Nat) :
    Read Script := do
  skip 1
  let before ← ahead
  let pieces := mergeTexts (← readArithmetic nested line (before.length + 2) 0)
  let expressions := String.ofList (before.take (before.length - (← ahead).length))
  let reason := "syntax error: arithmetic expression required\nsyntax error: \x60(("
    ++ expressions ++ "'"
  match splitPieces (fun _ => true) ';' pieces with
  | (first, some rest) =>
    match splitPieces (fun _ => true) ';' rest with
    | (test, some next) =>
      let t ← readToken nested .words
      match t with
      | .operator ";" => pure ()
      | t => giveBack t
      return .count line first test next (← readBody nested list)
    | _ => fail reason
  | _ => fail reason

/-- The word that a token is taken for where any token can be a pattern. -/
def Token.asWord : Token → Word
  | .word w => w
  | .keyword name => [.text false name]
  | _ => []

/-- Read the patterns of a clause from the first on. -/
def readPatterns (nested : Read Script) (allowance : Nat) (first : Token) : Read (List Word) :=
  match allowance with
  | 0 => return [first.asWord]
  | n + 1 => do
    let t ← readToken nested .words
    if t.isOperator "|" then
      let next ← readToken nested .words
      return first.asWord :: (← readPatterns nested n next)
    else if t.isOperator ")" then return [first.asWord]
    else complainOf t (some ")")

/-- Read the clauses of a selection up to its end. -/
def readClauses (nested : Read Script) (list : Extent → Read Script) (allowance : Nat) :
    Read (List Clause) :=
  match allowance with
  | 0 => return []
  | n + 1 => do
    let t ← readToken nested .laterKeyword
    if t.isKeyword "esac" then return []
    else
      let first ← if t.isOperator "(" then readToken nested .words else pure t
      let patterns ← readPatterns nested ((← ahead).length + 2) first
      let body ← list .optional
      let t ← readToken nested .laterKeyword
      if t.isKeyword "esac" then return [(patterns, body, .stop)]
      else match onward? t with
        | some onward => return (patterns, body, onward) :: (← readClauses nested list n)
        | none => complainOf t (some ";;")
where
  onward? : Token → Option Onward
    | .operator ";;" => some .stop
    | .operator ";&" => some .through
    | .operator ";;&" => some .search
    | _ => none

/-- Read a selection from its subject on. -/
def readSelect (nested : Read Script) (list : Extent → Read Script) (line : Nat) :
    Read Script := do
  match ← readToken nested .words with
  | .word subject =>
    expectKeyword nested .laterCommand "in"
    return .select line subject (← readClauses nested list ((← ahead).length + 2))
  | t => complainOf t (some "word")

/-- Add the redirections that follow a compound command. -/
def withRedirects (nested : Read Script) (line : Nat) (body : Script) : Read Script := do
  match ← readRedirects nested ((← ahead).length + 2) with
  | [] => return body
  | rs =>
    return match body with
      | .apart l inner _ => .apart l inner rs
      | body => .redirected line body rs

/-- Read a command, given readers for what it holds. -/
def readCommandWith (nested command : Read Script) (list : Extent → Read Script) :
    Read Script := do
  let t ← readToken nested .command
  let line := (← get).line
  let room := (← ahead).length + 2
  match t with
  | .keyword "if" => withRedirects nested line (← readChoice nested list room)
  | .keyword "while" => withRedirects nested line (← readLoop nested list true)
  | .keyword "until" => withRedirects nested line (← readLoop nested list false)
  | .keyword "for" =>
    let t ← readToken nested .words
    if t.isOperator "(" && (← readsExtended) && (← ahead).head? == some '(' then
      withRedirects nested line (← readCount nested list line)
    else
      giveBack t
      withRedirects nested line (← readForEach nested list line)
  | .keyword "function" => readKeywordDefinition nested command
  | .keyword "[[" => withRedirects nested line (.judge line (← readJudgement nested))
  | .keyword "case" => withRedirects nested line (← readSelect nested list line)
  | .keyword "\x7b" =>
    let body ← list .closed
    expectKeyword nested .command "\x7d"
    withRedirects nested line body
  | .operator "(" =>
    let apart : Read Script := do
      let body ← list .closed
      expect nested .command (·.isOperator ")") ")"
      withRedirects nested line (.apart line body [])
    if (← readsExtended) && (← ahead).head? == some '(' then
      -- what does not close like an expression is a script within a script
      let body? ← tryCatch (do
        skip 1
        return some (mergeTexts (← readArithmetic nested line room 0))) fun _ => return none
      match body? with
      | some body => withRedirects nested line (.reckon line body)
      | none => apart
    else apart
  | .word _ =>
    giveBack t
    readParts nested command line room {}
  | .assignment _ =>
    giveBack t
    readParts nested command line room {}
  | .redirection .. =>
    giveBack t
    readParts nested command line room {}
  | t => complainOf t none

mutual

/-- Read a list of commands. -/
def readList (allowance : Nat) (extent : Extent) : Read Script :=
  match allowance with
  | 0 => complain "end of file unexpected"
  | n + 1 => do
    readRest (readInner n) (readCommand n) extent ((← ahead).length + 2) .nothing

/-- Read a command. -/
def readCommand (allowance : Nat) : Read Script :=
  match allowance with
  | 0 => complain "end of file unexpected"
  | n + 1 => readCommandWith (readInner n) (readCommand n) (readList n)

/-- Read a script inside a word, with its closing parenthesis. -/
def readInner (allowance : Nat) : Read Script :=
  match allowance with
  | 0 => complain "end of file unexpected"
  | n + 1 => do
    let script ← readList n .optional
    let t ← readToken (readInner n) .command
    if t.isOperator ")" then return script else complainOf t (some ")")

end

/-- Read the next complete line; at the end there is none. -/
def readCompleteLine : Read (Option Script) := do
  let allowance := (← ahead).length + 4
  let t ← readPlainToken (readInner allowance)
  match t with
  | .ending => return none
  | t =>
    giveBack t
    return some (← readList allowance .line)

end GuardCost.Shell
