/-
GuardCost/Machine/Console.lean

What the program tells the people who run it.  A notice is one line, or a
few, after a mark that says what kind of news it is.  Some notices go above a
progress bar and are shown only where there is one, on a terminal.  Events
are notices for those who look for the cause of something; how much of them
is shown depends on their severity.
-/
import GuardCost.Text.Basic

namespace GuardCost

/-! ### Notices -/

/-- How much an event matters. -/
inductive Severity where
  | error
  | warning
  | information
  | detail
  deriving DecidableEq, Repr

namespace Severity

/-- The severity as it is written. -/
def text : Severity → String
  | error => "ERROR"
  | warning => " WARN"
  | information => " INFO"
  | detail => "DEBUG"

/-- What matters most comes first. -/
def rank : Severity → Nat
  | error => 0
  | warning => 1
  | information => 2
  | detail => 3

end Severity

/-- The kind of a notice. -/
inductive Mark where
  | note
  | success
  | failure
  | warning
  /-- The path of a file that was written. -/
  | path
  /-- A line without a mark. -/
  | detail
  | event (severity : Severity)
  /-- Text that brings its own line breaks. -/
  | verbatim
  deriving DecidableEq, Repr

/-- The mark as it is written. -/
def Mark.text : Mark → String
  | note => "→ "
  | success => "✓ "
  | failure => "✗ "
  | warning => "! "
  | path => "  → "
  | detail => ""
  | event severity => severity.text ++ " "
  | verbatim => ""

/-- One notice. -/
structure Notice where
  mark : Mark
  text : String
  /-- Whether the notice goes above a progress bar. -/
  aboveBar : Bool := false
  deriving DecidableEq, Repr

/-- A notice as it is written. -/
def Notice.line (n : Notice) : String :=
  n.mark.text ++ n.text ++ if n.mark = .verbatim then "" else "\n"

/-! ### Events -/

/-- The text of an event: what it happened within, what happened, and more
about it. -/
def eventText (within message : String) (more : List (String × String)) : String :=
  Text.join " " ((within ++ message) :: more.map fun (key, value) => key ++ "=" ++ value)

/-! ### The console -/

/-- Everything that was said. -/
structure Console where
  /-- The standard output. -/
  printed : String := ""
  /-- The notices, oldest first. -/
  notices : List Notice := []
  /-- Events that matter less than this are not shown. -/
  threshold : Severity := .information
  /-- What goes on at the moment, as it is written in front of an event. -/
  within : String := ""
  deriving DecidableEq, Repr

namespace Console

/-- Add a notice. -/
def add (c : Console) (n : Notice) : Console := { c with notices := c.notices ++ [n] }

/-- Add an event, if it matters enough. -/
def report (c : Console) (severity : Severity) (message : String)
    (more : List (String × String)) : Console :=
  if severity.rank ≤ c.threshold.rank then
    c.add { mark := .event severity, text := eventText c.within message more }
  else c

/-- The notices as they are written where there is no terminal. -/
def diagnostics (c : Console) : String :=
  String.join ((c.notices.filter fun n => !n.aboveBar).map Notice.line)

end Console

end GuardCost
