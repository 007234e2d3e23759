/-
GuardCost/Shell/Condition.lean

The conditions of `test` and of single brackets: questions about texts, whole
numbers and files, put together with `!`, `-a`, `-o` and parentheses.  With up
to three words the number of words alone decides how they are read, so that a
word that looks like an operator can still be an operand.
-/
import GuardCost.Machine.Command
import GuardCost.Shell.Arithmetic
import GuardCost.Text.Bytes

namespace GuardCost.Shell.Condition

/-- What a condition comes to: it holds or not, or it cannot be read. -/
abbrev Verdict := Except String Bool

/-- The path that a text names. -/
def pathOf (s : String) : Path := ⟨Bytes.narrow s⟩

/-- A question about what a path names, links followed. -/
def nodeTest (w : World) (holds : Node → Bool) (s : String) : Bool :=
  match w.files.find w.current (pathOf s) with
  | .ok (_, node) => holds node
  | .error _ => false

/-- Whether a path names a link. -/
def isLink (w : World) (s : String) : Bool :=
  match w.files.findUnfollowed w.current (pathOf s) with
  | .ok (_, .link _) => true
  | _ => false

/-- A question about one text. -/
def unary? (w : World) (sign : String) : Option (String → Bool) :=
  match sign with
  | "-n" => some fun s => !s.isEmpty
  | "-z" => some fun s => s.isEmpty
  | "-e" => some (nodeTest w fun _ => true)
  | "-r" => some (nodeTest w fun _ => true)
  | "-w" => some (nodeTest w fun _ => true)
  | "-O" => some (nodeTest w fun _ => true)
  | "-G" => some (nodeTest w fun _ => true)
  | "-f" => some fun s => w.files.isFile w.current (pathOf s)
  | "-d" => some fun s => w.files.isDirectory w.current (pathOf s)
  | "-s" => some (nodeTest w fun
    | .file content .. => !content.isEmpty
    | .directory _ => true
    | _ => false)
  | "-x" => some (nodeTest w fun
    | .file _ rights _ => rights.isRunnable
    | .directory _ => true
    | _ => false)
  | "-L" => some (isLink w)
  | "-h" => some (isLink w)
  | "-c" => some (nodeTest w fun
    | .device _ => true
    | _ => false)
  | "-b" => some fun _ => false
  | "-p" => some fun _ => false
  | "-S" => some fun _ => false
  | "-u" => some fun _ => false
  | "-g" => some fun _ => false
  | "-k" => some fun _ => false
  | "-t" => some fun _ => false
  | _ => none

/-- A whole number, or the complaint that there is none. -/
def number (s : String) : Except String Int :=
  let cs := Arithmetic.dropSpace s.toList
  let (negative, cs) := match cs with
    | '-' :: rest => (true, rest)
    | '+' :: rest => (false, rest)
    | cs => (false, cs)
  let digits := cs.takeWhile Char.isDigit
  let n := Arithmetic.ofDigits 10 digits
  if digits.isEmpty || !(Arithmetic.dropSpace (cs.drop digits.length)).isEmpty
      || n > Arithmetic.greatest then .error ("Illegal number: " ++ s)
  else .ok (if negative then -(n : Int) else n)

/-- A question about two numbers. -/
def comparison? (sign : String) : Option (Int → Int → Bool) :=
  match sign with
  | "-eq" => some fun a b => a == b
  | "-ne" => some fun a b => a != b
  | "-lt" => some fun a b => a < b
  | "-le" => some fun a b => a ≤ b
  | "-gt" => some fun a b => b < a
  | "-ge" => some fun a b => b ≤ a
  | _ => none

/-- A question about two texts. -/
def binary? (w : World) (sign : String) : Option (String → String → Verdict) :=
  let changed := fun s => w.files.modified? w.current (pathOf s)
  match sign with
  | "=" => some fun a b => .ok (a == b)
  | "!=" => some fun a b => .ok (a != b)
  | "<" => some fun a b => .ok (decide (a < b))
  | ">" => some fun a b => .ok (decide (b < a))
  | "-nt" => some fun a b =>
    .ok (match changed a, changed b with
      | some x, some y => decide (y < x)
      | _, _ => false)
  | "-ot" => some fun a b =>
    .ok (match changed a, changed b with
      | some x, some y => decide (x < y)
      | _, _ => false)
  | "-ef" => some fun a b =>
    .ok (match w.files.find w.current (pathOf a), w.files.find w.current (pathOf b) with
      | .ok (x, _), .ok (y, _) => x == y
      | _, _ => false)
  | sign => (comparison? sign).map fun f => fun a b => do return f (← number a) (← number b)

mutual

/-- Read alternatives. -/
def alternatives (w : World) (allowance : Nat) (ws : List String) :
    Except String (Bool × List String) :=
  match allowance with
  | 0 => .error "too many arguments"
  | n + 1 => do
    let (a, rest) ← conjunction w n ws
    match rest with
    | "-o" :: rest =>
      let (b, rest) ← alternatives w n rest
      return (a || b, rest)
    | rest => return (a, rest)

/-- Read conditions that all have to hold. -/
def conjunction (w : World) (allowance : Nat) (ws : List String) :
    Except String (Bool × List String) :=
  match allowance with
  | 0 => .error "too many arguments"
  | n + 1 => do
    let (a, rest) ← unit w n ws
    match rest with
    | "-a" :: rest =>
      let (b, rest) ← conjunction w n rest
      return (a && b, rest)
    | rest => return (a, rest)

/-- Read a single condition. -/
def unit (w : World) (allowance : Nat) (ws : List String) : Except String (Bool × List String) :=
  match allowance with
  | 0 => .error "too many arguments"
  | n + 1 =>
    match ws with
    | [] => .error "argument expected"
    | a :: sign :: b :: rest =>
      match binary? w sign with
      | some f => do return (← f a b, rest)
      | none => prefixed w n a (sign :: b :: rest)
    | a :: rest => prefixed w n a rest

/-- Read a condition by its first word. -/
def prefixed (w : World) (allowance : Nat) (a : String) (rest : List String) :
    Except String (Bool × List String) :=
  match allowance with
  | 0 => .error "too many arguments"
  | n + 1 => do
    if a == "!" && !rest.isEmpty then
      let (b, rest) ← unit w n rest
      return (!b, rest)
    else if a == "(" && !rest.isEmpty then
      match ← alternatives w n rest with
      | (b, ")" :: rest) => return (b, rest)
      | _ => .error "closing paren expected"
    else match unary? w a, rest with
      | some f, b :: rest => return (f b, rest)
      | _, rest => return (!a.isEmpty, rest)

end

/-- Read a condition whose words are not counted. -/
def whole (w : World) (ws : List String) : Verdict := do
  match ← alternatives w (4 * ws.length + 8) ws with
  | (b, []) => return b
  | (_, rest) =>
    let last := (ws.take (ws.length - rest.length)).getLastD ""
    .error (last ++ ": unexpected operator")

/-- The verdict on some words. -/
def verdict (w : World) (ws : List String) : Verdict :=
  match ws with
  | [] => .ok false
  | [a] => .ok (!a.isEmpty)
  | [sign, a] =>
    if sign == "!" then .ok a.isEmpty
    else match unary? w sign with
      | some f => .ok (f a)
      | none =>
        if (binary? w a).isSome then .error (a ++ ": argument expected")
        else .error (sign ++ ": unexpected operator")
  | ["(", a, ")"] => .ok (!a.isEmpty)
  | [a, sign, b] =>
    match binary? w sign with
    | some f => f a b
    | none => whole w ws
  | ws => whole w ws

end GuardCost.Shell.Condition
