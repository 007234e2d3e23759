/-
GuardCost/Process/Program.lean

Program files.  A file of a program of the system holds a mark and the name
of what it does, so that a copy of it under another name still does the same.
A script file names its interpreter in its first line; of that line only so
many bytes count.  `load` turns a file and the words of a command into the
program that is run in the end and the words that it gets.
-/
import GuardCost.Machine.FileSystem
import GuardCost.Process.Basic

namespace GuardCost.Process

/-! ### Programs of the system -/

/-- The names of the programs of the system. -/
def programNames : List String :=
  ["sh", "dash", "bash", "true", "false", "sync", "echo", "printf", "test", "[", "pwd",
    "basename", "dirname", "seq", "factor", "uname", "arch", "hostname", "whoami", "logname", "users", "who",
    "groups", "nproc", "id", "tty", "sleep", "yes", "env", "printenv", "timeout", "nohup", "nice",
    "setsid", "stdbuf", "which", "xargs", "kill", "mkdir", "rmdir", "touch", "truncate", "mktemp",
    "ln", "cp", "install", "mv", "rm", "unlink", "chmod", "chown", "chgrp", "link", "cat", "tac",
    "rev", "head", "tail", "wc", "tee", "nl", "fold", "expand", "cut", "paste", "tr", "sort",
    "uniq", "comm", "join", "grep", "egrep", "fgrep", "sed", "expr", "date", "ls", "dir",
    "readlink", "realpath", "stat", "du", "find", "cmp", "diff", "md5sum", "sha1sum", "sha256sum",
    "cksum", "sum", "od", "base64", "base32", "split", "dd", "strings", "awk", "mawk"]

/-- The mark at the start of a program file. -/
def mark : Bytes := 0x7F :: Bytes.ofString "ELF"

/-- The content of a program file. -/
def image (name : String) : Bytes := mark ++ Bytes.ofString name

/-- The program of a file with this content. -/
def ofImage? (content : Bytes) : Option String :=
  if Bytes.startsWith content mark then
    programNames.find? fun name => image name == content
  else none

/-- A location from its names. -/
def placeOf (names : List String) : Location := names.map Bytes.ofString

/-- The directory of the programs. -/
def programPlace : Location := placeOf ["usr", "bin"]

/-- Where programs are looked for. -/
def searchPath : String := "/usr/bin:/bin"

/-- The directories of a system. -/
def systemDirectories : List (List String) :=
  [["usr"], ["usr", "bin"], ["usr", "sbin"], ["usr", "lib"], ["usr", "include"], ["usr", "share"],
    ["usr", "local"], ["usr", "local", "bin"], ["dev"], ["dev", "shm"], ["proc"], ["proc", "self"],
    ["proc", "self", "fd"], ["etc"], ["home"], ["mnt"], ["opt"], ["root"], ["run"], ["sys"],
    ["tmp"], ["var"], ["var", "log"], ["var", "tmp"]]

/-- The links of a system. -/
def systemLinks : List (List String × String) :=
  [(["bin"], "usr/bin"), (["sbin"], "usr/sbin"), (["lib"], "usr/lib"),
    (["dev", "fd"], "/proc/self/fd"), (["dev", "stdin"], "/proc/self/fd/0"),
    (["dev", "stdout"], "/proc/self/fd/1"), (["dev", "stderr"], "/proc/self/fd/2")]

/-- The devices of a system. -/
def systemDevices : List (List String × Device) :=
  [(["dev", "null"], .null), (["dev", "zero"], .zero), (["dev", "full"], .full),
    (["dev", "random"], .zero), (["dev", "urandom"], .zero), (["dev", "tty"], .terminal)]
    ++ (List.range 10 ++ [60, 61, 62, 63]).map fun n => (["proc", "self", "fd", toString n], .descriptor n)

/-- The texts of a system. -/
def systemTexts : List (List String × String) :=
  [(["etc", "passwd"], "root:x:0:0:root:/root:/bin/bash\n"), (["etc", "group"], "root:x:0:\n"),
    (["etc", "shadow"], "root:*:19000:0:99999:7:::\n"), (["etc", "hosts"], "127.0.0.1\tlocalhost\n"), (["etc", "shells"], "/bin/sh\n/bin/bash\n")]

/-- The files of a system with nothing but its programs and devices. -/
def systemFiles : FileSystem :=
  let directories := systemDirectories.map fun names => (placeOf names, Node.directory 0)
  let programs := programNames.map fun name =>
    (programPlace ++ [Bytes.ofString name], Node.file (image name) .program 0)
  let links := systemLinks.map fun (names, target) =>
    (placeOf names, Node.link (Bytes.ofString target))
  let devices := systemDevices.map fun (names, device) => (placeOf names, Node.device device)
  let texts := systemTexts.map fun (names, text) =>
    (placeOf names, Node.file (Bytes.ofString text) .plain 0)
  .ofEntries (directories ++ links ++ devices ++ texts ++ programs)

/-! ### Loading -/

/-- How many bytes at the start of a script file count. -/
def headLength : Nat := 256

/-- Whether a byte is a blank in the first line of a script. -/
def isBlankByte (b : UInt8) : Bool := b == 32 || b == 9

/-- Whether the name of an interpreter ends at a byte. -/
def endsInterpreter (b : UInt8) : Bool := isBlankByte b || b == 0

/-- The first line of a script after its mark, if it is whole as far as it
counts. -/
def firstLine? (content : Bytes) : Option Bytes :=
  let head := content.take headLength
  let head := head ++ List.replicate (headLength - head.length) 0
  let rest := head.drop 2
  if rest.contains 10 then
    some ((rest.takeWhile (· != 10)).reverse.dropWhile isBlankByte).reverse
  else
    let line := rest.dropLast.dropWhile isBlankByte
    if line.any endsInterpreter then some line else none

/-- The interpreter in the first line of a script file, and its argument. -/
def interpreter? (content : Bytes) : Option (Bytes × Option Bytes) := do
  if !Bytes.startsWith content (Bytes.ofString "#!") then none
  let line := (← firstLine? content).dropWhile isBlankByte
  let program := line.takeWhile fun b => !endsInterpreter b
  if program = [] then none
  let rest := line.drop program.length
  let argument := (rest.dropWhile isBlankByte).takeWhile (· != 0)
  return (program, if argument = [] then none else some argument)

/-- A program that is about to be run, with the words that it gets. -/
structure Loaded where
  program : String
  words : List Bytes

/-- What is run in the end when a file is started with some words; script
files may be interpreted by script files, up to a depth. -/
def load (depth : Nat) (w : World) (file : Path) (words : List Bytes) :
    Except SystemError Loaded := do
  match ← w.files.find w.current file with
  | (_, .file content rights _) =>
    if !rights.isRunnable then throw .denied
    else match interpreter? content with
      | some (program, argument?) =>
        match depth with
        | 0 => throw .linkLoop
        | depth + 1 =>
          load depth w ⟨program⟩ (program :: argument?.toList ++ file.bytes :: words.tail)
      | none =>
        match ofImage? content with
        | some program => return { program, words }
        | none => throw .notExecutable
  | _ => throw .denied

/-- How deep script files may be nested. -/
def scriptDepth : Nat := 5

/-- The files that a program without a slash in its name may be, along a
search path. -/
def candidates (path : String) (program : Bytes) : List Path :=
  (partsAt ':' path.toList).map fun dir =>
    (⟨Bytes.narrow (String.ofList dir)⟩ : Path).join ⟨program⟩

/-- The same as `load`, but a file that is no program is taken for a script of
a shell. -/
def loadLeniently (shell : String) (w : World) (file : Path) (words : List Bytes) :
    Except SystemError Loaded :=
  match load scriptDepth w file words with
  | .error .notExecutable =>
    .ok ⟨shell, Bytes.ofString ("/bin/" ++ shell) :: file.bytes :: words.tail⟩
  | result => result

/-- Try files one after the other.  One that may not be run is passed over,
but remembered. -/
def firstLoaded (attempt : Path → Except SystemError Loaded) (seen : SystemError) :
    List Path → Except SystemError Loaded
  | [] => .error seen
  | file :: rest =>
    match attempt file with
    | .ok loaded => .ok loaded
    | .error cause =>
      if cause = .denied then firstLoaded attempt .denied rest
      else if cause = .notFound ∨ cause = .notDirectory then firstLoaded attempt seen rest
      else .error cause

/-- Find a program and load it; a name without a slash is looked for in the
search path. -/
def start (attempt : Path → Except SystemError Loaded) (path : String) (program : Bytes) :
    Except SystemError Loaded :=
  if program = [] then .error .notFound
  else if Bytes.slash ∈ program then attempt ⟨program⟩
  else firstLoaded attempt .notFound (candidates path program)

/-! ### Going on as another program -/

/-- How programs are run: by name, in the process that has been made ready for
them. -/
abbrev Runner := String → Doing Unit

/-- How long it takes to start a program, in nanoseconds. -/
def startingTime : Nat := 500000

/-- Make the process ready to go on as a program with some words. -/
def Loaded.enter (l : Loaded) : Doing Unit := do
  pass startingTime
  modify fun p =>
    { p with
      name := Bytes.widen (l.words.headD [])
      arguments := l.words.tail.map Bytes.widen
      bindings := p.environment.map fun (name, value) =>
        (name, { value? := some value, exported := true })
      unwritten? := none
      pending := []
      orphans := p.orphans ++ p.shell.jobs
      shell := { number := p.number } }

/-- Go on as a program, to its end. -/
def become (runner : Runner) (l : Loaded) : Doing Unit := do
  l.enter
  runner l.program
  throw (.exit (← get).shell.status)

/-- The search path of a process. -/
def pathOfProcess (p : Process) : String := (p.value? "PATH").getD searchPath

/-- Find a program for some words, and go on as it; the result is why there is
none. -/
def becomeFound (runner : Runner) (words : List String) : Doing SystemError := do
  let p ← get
  let argv := words.map Bytes.narrow
  match start (loadLeniently "sh" p.world · argv) (pathOfProcess p) (argv.headD []) with
  | .ok loaded =>
    become runner loaded
    return .notFound
  | .error cause => return cause

/-- Find a program for some words, run it in a process of its own, and wait
for it. -/
def spawn (runner : Runner) (words : List String) : Doing (Except SystemError Flow) := do
  let p ← get
  let argv := words.map Bytes.narrow
  match start (loadLeniently "sh" p.world · argv) (pathOfProcess p) (argv.headD []) with
  | .ok loaded => return .ok (← fork id (become runner loaded))
  | .error cause => return .error cause

end GuardCost.Process
