/-
GuardCost/Report/System.lean

What the markdown report says about the machine it was made on.  Each fact
comes from a file or from a program that may be missing; then it is left out.
Only the architecture is always given.
-/
import GuardCost.Build.Toolchain
import GuardCost.Host.Basic

namespace GuardCost

/-- The trimmed first line that a command prints, unless it is blank. -/
def firstLineOf? (tools : Tools) (words : List String) : Action (Option String) := do
  match words.map Bytes.ofString with
  | [] => return none
  | program :: arguments =>
    match ← ({ program, arguments } : Command).run tools with
    | .error _ => return none
    | .ok output =>
      return ((Text.lines output.stdout).head?.map Text.trim).filter fun line => !line.isEmpty

/-- The content of a file of the system, if it can be read as text. -/
def systemFile? (w : World) (path : String) : Option String :=
  match w.files.read w.current (.ofString path) with
  | .ok content => Bytes.decode? content
  | .error _ => none

/-- The value that a line `name: value` gives to a name. -/
def valueAfterColon? (line : String) : Option String :=
  (partsAt ':' line.toList)[1]?.map fun part => Text.trim (String.ofList part)

/-- The names under which a processor says what it is. -/
def modelNames : List String := ["model name", "Model", "Hardware"]

/-- The processor, as the processor file has it. -/
def processorModel? (content : String) : Option String :=
  modelNames.findSome? fun name =>
    (Text.lines content).findSome? fun line =>
      if Text.startsWith line name then valueAfterColon? line else none

/-- The processor. -/
def processor? (tools : Tools) : Action (Option String) := do
  match (systemFile? (← get).world "/proc/cpuinfo").bind processorModel? with
  | some model => return some model
  | none =>
    match ← firstLineOf? tools ["sysctl", "-n", "machdep.cpu.brand_string"] with
    | some model => return some model
    | none => firstLineOf? tools ["sysctl", "-n", "hw.model"]

/-- Drop the quotation marks at both ends. -/
def dropQuotes (s : String) : String :=
  let isQuote := fun c : Char => c == '"'
  String.ofList (((s.toList.dropWhile isQuote).reverse.dropWhile isQuote).reverse)

/-- The name of the operating system. -/
def systemName? (content : String) : Option String :=
  let key := "PRETTY_NAME="
  (Text.lines content).findSome? fun line =>
    if Text.startsWith line key then
      some (dropQuotes (String.ofList (line.toList.drop key.length)))
    else none

/-- The facts that are known about the machine and the compiler. -/
def systemFacts (tools : Tools) (cc : String) : Action (List (String × String)) := do
  let arch ← firstLineOf? tools ["uname", "-m"]
  let model? ← processor? tools
  let compiler? ← Toolchain.compilerVersion? tools cc
  let os? := (systemFile? (← get).world "/etc/os-release").bind systemName?
  let date? ← firstLineOf? tools ["date", "+%Y-%m-%d %H:%M:%S"]
  let fact := fun (name : String) (value? : Option String) => (value?.map fun v => (name, v)).toList
  return ("Architecture", arch.getD Host.nativeArch) :: fact "CPU" model?
    ++ fact "Compiler" compiler? ++ fact "OS" os? ++ fact "Date" date?

end GuardCost
