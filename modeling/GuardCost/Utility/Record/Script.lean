/-
GuardCost/Utility/Record/Script.lean

Scripts that go through records.  A script is a list of rules, each with a
pattern and an action, and of functions.  An action is made of statements, and
these of expressions.
-/

namespace GuardCost.Utility.Record

/-! ### Expressions -/

/-- What is done with two numbers. -/
inductive Sign where
  | plus | minus | times | over | remainder | power
  deriving DecidableEq, Repr

/-- How two values are compared. -/
inductive Comparison where
  | less | atMost | equal | unequal | atLeast | greater
  deriving DecidableEq, Repr

/-- An expression. -/
inductive Expr where
  | number (x : Float)
  | text (s : String)
  /-- A regular expression; by itself it asks whether the record fits. -/
  | pattern (source : String)
  | named (name : String)
  | field (index : Expr)
  | element (name : String) (keys : List Expr)
  | assign (target : Expr) (sign? : Option Sign) (value : Expr)
  | choose (test yes no : Expr)
  | both (a b : Expr)
  | either (a b : Expr)
  | negated (a : Expr)
  | minus (a : Expr)
  | plus (a : Expr)
  | isKey (keys : List Expr) (name : String)
  | fits (subject pattern : Expr)
  | reckon (sign : Sign) (a b : Expr)
  | compare (how : Comparison) (a b : Expr)
  | join (a b : Expr)
  /-- Add one, or take one away; the value is that before or after. -/
  | step (before up : Bool) (target : Expr)
  | call (name : String) (arguments : List Expr)
  /-- A function that every script has. -/
  | ask (name : String) (arguments : List Expr)
  /-- Read the next record of the input. -/
  | readNext (target? : Option Expr)
  | readFile (file : Expr) (target? : Option Expr)
  | readCommand (command : Expr) (target? : Option Expr)
  /-- Some expressions between parentheses. -/
  | tuple (items : List Expr)

/-- Whether an expression can be assigned to. -/
def Expr.isPlace : Expr → Bool
  | named _ => true
  | field _ => true
  | element .. => true
  | _ => false

/-! ### Statements -/

/-- Where output goes. -/
inductive Outlet where
  | file (name : Expr)
  | addedTo (name : Expr)
  | command (text : Expr)

/-- A statement. -/
inductive Statement where
  | nothing
  | expression (e : Expr)
  | write (items : List Expr) (outlet? : Option Outlet)
  | writeFormatted (items : List Expr) (outlet? : Option Outlet)
  | andThen (first second : Statement)
  | choice (test : Expr) (yes no : Statement)
  | loop (test : Expr) (body : Statement)
  | loopAfter (body : Statement) (test : Expr)
  | count (first : Statement) (test? : Option Expr) (next body : Statement)
  | forKeys (name table : String) (body : Statement)
  | leaveLoop
  | nextRound
  | nextRecord
  | nextFile
  | exit (code? : Option Expr)
  | giveBack (value? : Option Expr)
  | delete (name : String) (keys : List Expr)

/-! ### Rules -/

/-- When a rule applies. -/
inductive Pattern where
  | atStart
  | atEnd
  | always
  | fits (e : Expr)
  /-- From one record to another one. -/
  | range (first last : Expr)

/-- A rule; without an action the record is written. -/
structure Rule where
  pattern : Pattern
  action? : Option Statement

/-- A function of a script. -/
structure Function where
  name : String
  parameters : List String
  body : Statement

/-- A script. -/
structure Script where
  rules : List Rule := []
  functions : List Function := []

end GuardCost.Utility.Record
