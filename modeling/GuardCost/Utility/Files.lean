/-
GuardCost/Utility/Files.lean

Utilities that make, copy, move and remove files.  What is done to a directory
with all that is in it goes down one level at a time, no deeper than a path
can be long.
-/
import GuardCost.Machine.Rights
import GuardCost.Utility.Plain

namespace GuardCost.Utility

open Process

/-! ### Looking -/

/-- What a path names; links are followed or not. -/
def look (p : Process) (follow : Bool) (file : String) : Except SystemError (Location × Node) :=
  if follow then p.machine.files.find p.directory (pathOf file)
  else p.machine.files.findUnfollowed p.directory (pathOf file)

/-- Whether a node is a directory. -/
def isDirectoryNode : Node → Bool
  | .directory _ => true
  | _ => false

/-- Whether a path names a directory. -/
def namesDirectory (p : Process) (file : String) : Bool :=
  p.machine.files.isDirectory p.directory (pathOf file)

/-- Whether there is something at a path. -/
def isThere (p : Process) (file : String) : Bool := (look p false file).toBool

/-- A path with another one after it. -/
def below (dir name : String) : String :=
  if dir.endsWith "/" then dir ++ name else dir ++ "/" ++ name

/-- The names in a directory, by ascending order. -/
def namesIn (p : Process) (dir : String) : List String :=
  match p.machine.files.list p.directory (pathOf dir) with
  | .ok names => (names.map Bytes.widen).mergeSort fun a b => !decide (b < a)
  | .error _ => []

/-- The rights of a node. -/
def rightsOf : Node → Rights
  | .file _ rights _ => rights
  | .directory _ => 0o755
  | .link _ => 0o777
  | .device _ => 0o666

/-- How deep directories are gone down into. -/
def deepest : Nat := 4096

/-- Change the files, or complain. -/
def attempt (what : String) (change : World → Except SystemError FileSystem) : Doing Bool := do
  match ← edit change with
  | .ok () => return true
  | .error cause =>
    complain (what ++ ": " ++ cause.plainMessage)
    return false

/-- The exit code for whether all went well. -/
def codeOfAll (results : List Bool) : Nat := if results.all id then 0 else 1

/-! ### Directories -/

/-- The directories on the way to a path, the first one first. -/
def pathsOnTheWay (file : String) : List String :=
  let cs := withoutEndSlashes file.toList
  ((List.range cs.length).filter fun i => cs[i + 1]? == some '/' && cs[i]? != some '/').map
    (fun i => String.ofList (cs.take (i + 1))) ++ [String.ofList cs]

/-- Make a directory. -/
def makeOne (file : String) : Doing Bool :=
  attempt ("cannot create directory " ++ quoteForShell file) fun w =>
    w.files.createDirectory w.current w.now (pathOf file)

/-- Say what was done in the name of the program. -/
def report (message : String) : Doing Unit := do
  emitLine ((← get).name ++ ": " ++ message)

/-- Make a directory, and those on the way to it. -/
def makeWay (spoken : Bool) : List String → Doing Bool
  | [] => return true
  | file :: rest => do
    let p ← get
    match look p true file with
    | .ok (_, .directory _) => makeWay spoken rest
    | .ok _ =>
      let cause : SystemError := if rest.isEmpty then .exists_ else .notDirectory
      complain ("cannot create directory " ++ quoteForShell file ++ ": " ++ cause.plainMessage)
      return false
    | .error _ =>
      if ← makeOne file then
        if spoken then report ("created directory " ++ quoteForShell file)
        makeWay spoken rest
      else return false

/-- Make directories. -/
def makeDirectories : Tool := fun _ arguments => do
  let known := [switch 'p' "parents", switch 'v' "verbose", valued 'm' "mode"]
  let line ← parse known true 1 arguments
  if line.operands.isEmpty then missingOperand 1 []
  match line.value? "m" with
  | some mode =>
    if (Rights.change? true 0 0o777 mode).isNone then fatal 1 ("invalid mode " ++ quoteWord mode)
  | none => pure ()
  let results ← line.operands.mapM fun file => do
    if line.has "p" && !file.isEmpty then makeWay (line.has "v") (pathsOnTheWay file)
    else
      let made ← makeOne file
      if made && line.has "v" then report ("created directory " ++ quoteForShell file)
      return made
  return codeOfAll results

/-- Remove directories with nothing in them. -/
def removeDirectories : Tool := fun _ arguments => do
  let known := [switch 'p' "parents", switch 'v' "verbose",
    named "ignore-fail-on-non-empty" .nothing]
  let line ← parse known true 1 arguments
  if line.operands.isEmpty then missingOperand 1 []
  let removeOne := fun (file : String) => do
    if line.has "v" then report ("removing directory, " ++ quoteForShell file)
    match ← edit fun w => w.files.removeDirectory w.current w.now (pathOf file) with
    | .ok () => return true
    | .error cause =>
      if cause = .notEmpty && line.has "ignore-fail-on-non-empty" then return true
      complain ("failed to remove " ++ quoteForShell file ++ ": " ++ cause.plainMessage)
      return false
  let results ← line.operands.mapM fun file => do
    if line.has "p" then removeUpwards removeOne (pathsOnTheWay file).reverse
    else removeOne file
  return codeOfAll results
where
  removeUpwards (removeOne : String → Doing Bool) : List String → Doing Bool
    | [] => return true
    | file :: rest => do
      if ← removeOne file then removeUpwards removeOne rest else return false

/-! ### New files -/

/-- Make a file that is missing, and say when it was last changed. -/
def touchOne (create : Bool) (time? : Option Time) (file : String) : Doing Bool := do
  let p ← get
  let what := "cannot touch " ++ quoteForShell file
  match look p true file with
  | .ok _ =>
    attempt ("setting times of " ++ quoteForShell file) fun w =>
      w.files.setModified w.current (pathOf file) (time?.getD w.now)
  | .error cause =>
    if cause = .notFound then
      if !create then return true
      else if file.endsWith "/" then
        complain ("setting times of " ++ quoteForShell file ++ ": " ++ cause.plainMessage)
        return false
      else
        let rights := Rights.without 0o666 p.mask
        let made ← attempt what fun w => w.files.writeAs rights w.current w.now (pathOf file) []
        match time? with
        | some time =>
          if made then
            let _ ← edit fun w => w.files.setModified w.current (pathOf file) time
        | none => pure ()
        return made
    else
      complain ((if cause = .notDirectory && file.endsWith "/" then
        "setting times of " ++ quoteForShell file else what) ++ ": " ++ cause.plainMessage)
      return false

/-- Touch files. -/
def touchAll : Tool := fun _ arguments => do
  let known := [switch 'c' "no-create", valued 'd' "date", valued 't' "stamp",
    valued 'r' "reference", switch 'h' "no-dereference", named "time" .value] ++ letters "afm"
  let line ← parse known true 1 arguments
  if line.operands.isEmpty then misuse 1 "missing file operand"
  let p ← get
  let time? ← match line.value? "r", line.value? "d" with
    | some file, _ =>
      match p.machine.files.modified? p.directory (pathOf file) with
      | some time => pure (some time)
      | none => fatal 1 ("failed to get attributes of " ++ quoteForShell file
          ++ ": No such file or directory")
    | none, some text =>
      match dayOf? text with
      | some time => pure (some time)
      | none => pure none
    | none, none => pure ((line.value? "t").bind stampOf?)
  let results ← line.operands.mapM (touchOne (!line.has "c") time?)
  return codeOfAll results
where
  /-- The days from the start of 1970 to a date. -/
  daysTo (year month day : Nat) : Nat :=
    let years := (List.range (year - 1970)).map fun i => if isLeap (1970 + i) then 366 else 365
    let months := (List.range (month - 1)).map fun i =>
      if i = 1 && isLeap year then 29 else [31, 28, 31, 30, 31, 30, 31, 31, 30, 31, 30, 31].getD i 30
    years.foldl (· + ·) 0 + months.foldl (· + ·) 0 + (day - 1)
  isLeap (year : Nat) : Bool := year % 4 = 0 && (year % 100 ≠ 0 || year % 400 = 0)
  /-- The time at which a date begins, with an hour if one follows. -/
  dayOf? (text : String) : Option Time :=
    let words := (partsAt ' ' (text.toList.map fun c => if c == 'T' then ' ' else c)).map
      String.ofList
    match text.toList with
    | '@' :: ds => (natural? (String.ofList ds)).map (· * 1000000000)
    | _ =>
      match ((partsAt '-' (words.headD "").toList).map fun d => natural? (String.ofList d)) with
      | [some year, some month, some day] =>
        let clock := ((words[1]?).map fun t =>
          (partsAt ':' t.toList).map fun d => (natural? (String.ofList d)).getD 0).getD []
        let seconds := clock.getD 0 0 * 3600 + clock.getD 1 0 * 60 + clock.getD 2 0
        some ((daysTo year month day * 86400 + seconds) * 1000000000)
      | _ => none
  /-- The time of a stamp of twelve digits. -/
  stampOf? (text : String) : Option Time :=
    let cs := text.toList.takeWhile Char.isDigit
    let part := fun (start count : Nat) =>
      (natural? (String.ofList ((cs.drop start).take count))).getD 0
    if cs.length = 12 then
      let days := daysTo (part 0 4) (part 4 2) (part 6 2)
      some ((days * 86400 + part 8 2 * 3600 + part 10 2 * 60) * 1000000000)
    else none

/-- The bytes that a size stands for. -/
def sizeOf? (s : String) : Option Nat :=
  let digits := s.toList.takeWhile Char.isDigit
  let unit? := match String.ofList (s.toList.drop digits.length) with
    | "" => some 1
    | "b" => some 512
    | "k" => some 1024
    | "K" => some 1024
    | "KB" => some 1000
    | "kB" => some 1000
    | "KiB" => some 1024
    | "M" => some 1048576
    | "MB" => some 1000000
    | "MiB" => some 1048576
    | "G" => some 1073741824
    | _ => none
  match unit?, natural? (String.ofList digits) with
  | some unit, some n => some (n * unit)
  | _, _ => none

/-- Make files as long as they should be. -/
def truncateAll : Tool := fun _ arguments => do
  let known := [valued 's' "size", switch 'c' "no-create", valued 'r' "reference",
    switch 'o' "io-blocks"]
  let line ← parse known true 1 arguments
  if (line.lastOf? ["s", "r"]).isNone then
    misuse 1 "you must specify either '--size' or '--reference'"
  let size := (line.value? "s").getD "0"
  let (sign, digits) := match size.toList with
    | '+' :: ds => (some '+', ds)
    | '-' :: ds => (some '-', ds)
    | ds => (none, ds)
  match sizeOf? (String.ofList digits) with
  | none => fatal 1 ("Invalid number: " ++ quoteWord size)
  | some n =>
    if line.operands.isEmpty then misuse 1 "missing file operand"
    let results ← line.operands.mapM fun file => do
      let p ← get
      let old := (p.machine.files.read p.directory (pathOf file)).toOption
      if old.isNone && line.has "c" then return true
      else
        let content := old.getD []
        let length := match sign with
          | some '+' => content.length + n
          | some _ => content.length - n
          | none => n
        let new := content.take length ++ List.replicate (length - content.length) 0
        attempt ("cannot open " ++ quoteForShell file ++ " for writing") fun w =>
          w.files.write w.current w.now (pathOf file) new
    return codeOfAll results

/-- A name that no file has, from a template whose last letters stand for any
others. -/
def freshName (p : Process) (before after : String) (letters : Nat) : String :=
  let digits := "abcdefghijklmnopqrstuvwxyzABCDEFGHIJKLMNOPQRSTUVWXYZ0123456789".toList
  let name := fun k : Nat =>
    let letter := fun i : Nat => digits.getD ((k * 7919 + i * 31 + k / (i + 1)) % 62) 'a'
    before ++ String.ofList ((List.range letters).map letter) ++ after
  let start := p.machine.nextProcess
  match (List.range 1000).find? fun k => !isThere p (name (start + k)) with
  | some k => name (start + k)
  | none => name start

/-- Make a file or a directory with a name of its own. -/
def makeFresh : Tool := fun _ arguments => do
  let known := [switch 'd' "directory", switch 'u' "dry-run", switch 'q' "quiet",
    ⟨"p", 'p', some "tmpdir", .maybe⟩, switch 't' "t", named "suffix" .value]
  let line ← parse known true 1 arguments
  let p ← get
  let template := line.operands.headD "tmp.XXXXXXXXXX"
  if line.operands.length > 1 then misuse 1 "too many templates"
  let cs := template.toList
  let suffix := match line.value? "suffix" with
    | some s => s.toList
    | none => if cs.getLast? == some 'X' then [] else (cs.reverse.takeWhile (· != 'X')).reverse
  let cs := if (line.value? "suffix").isSome then cs else cs.take (cs.length - suffix.length)
  let count := (cs.reverse.takeWhile (· == 'X')).length
  if count < 3 then fatal 1 ("too few X's in template " ++ quoteWord template)
  let temporary := (p.value? "TMPDIR").getD "/tmp"
  let dir? := if line.has "p" then some ((line.value? "p").getD temporary)
    else if line.operands.isEmpty || line.has "t" then some temporary else none
  let before := String.ofList (cs.take (cs.length - count))
  let before := dir?.elim before fun dir => below dir before
  let name := freshName p before (String.ofList suffix) count
  let kind := if line.has "d" then "directory" else "file"
  let made ← if line.has "u" then pure true
    else attempt ("failed to create " ++ kind ++ " via template "
        ++ quoteWord (dir?.elim template fun dir => below dir template)) fun w =>
      if line.has "d" then w.files.createDirectory w.current w.now (pathOf name)
      else w.files.writeAs 0o600 w.current w.now (pathOf name) []
  if made then
    emitLine name
    return 0
  else return 1

/-! ### Targets -/

/-- The operands of a utility that goes from sources to a target. -/
structure Journey where
  sources : List String
  target : String
  /-- Whether the target is the directory that sources go into. -/
  into : Bool

/-- Find the target among some operands. -/
def journey (line : Line) : Doing Journey := do
  let p ← get
  match line.value? "t" with
  | some dir =>
    if line.operands.isEmpty then misuse 1 "missing file operand"
    if !namesDirectory p dir then
      fatal 1 ("target directory " ++ quoteForShell dir ++ ": No such file or directory")
    return ⟨line.operands, dir, true⟩
  | none =>
    match line.operands.reverse with
    | [] => misuse 1 "missing file operand"
    | [a] => misuse 1 ("missing destination file operand after " ++ quoteForShell a)
    | target :: sources =>
      let sources := sources.reverse
      if line.has "T" then
        match sources with
        | _ :: extra :: _ => misuse 1 ("extra operand " ++ quoteForShell extra)
        | _ => return ⟨sources, target, false⟩
      let into := namesDirectory p target
      if sources.length > 1 && !into then
        match look p true target with
        | .ok _ => fatal 1 ("target " ++ quoteForShell target ++ ": Not a directory")
        | .error cause => fatal 1 ("target " ++ quoteForShell target ++ ": " ++ cause.plainMessage)
      return ⟨sources, target, into⟩

/-- Where a source goes. -/
def Journey.place (j : Journey) (source : String) : String :=
  if j.into then below j.target (lastName source) else j.target

/-- The options that say where to go. -/
def journeyOptions : List Known :=
  [valued 't' "target-directory", switch 'T' "no-target-directory", switch 'v' "verbose",
    switch 'f' "force", switch 'i' "interactive", switch 'n' "no-clobber", switch 'u' "update",
    valued 'S' "suffix", ⟨"b", 'b', some "backup", .maybe⟩]

/-- One path and another one, as they are shown. -/
def arrow (source target : String) : String :=
  quoteForShell source ++ " -> " ++ quoteForShell target

/-- Whether to go on; it is asked for if that is wanted, and anything but a yes
means no. -/
def isAllowed (asks : Bool) (question : String) : Doing Bool := do
  if !asks then return true
  flush
  putError ((← get).name ++ ": " ++ question ++ "? ")
  let answer ← readLine 0
  return answer.head? == some 'y' || answer.head? == some 'Y'

/-- Whether to ask before files are replaced. -/
def asksFirst (line : Line) : Bool :=
  (line.lastOf? ["i", "f", "n"]).any fun g => g.key == "i"

/-! ### Links -/

/-- Make links. -/
def makeLinks : Tool := fun _ arguments => do
  let known := [switch 's' "symbolic", switch 'n' "no-dereference", switch 'r' "relative",
    switch 'P' "physical", switch 'L' "logical"] ++ journeyOptions
  let line ← parse known true 1 arguments
  let p ← get
  let symbolic := line.has "s"
  let j ← match line.operands, line.value? "t" with
    | [a], none => pure ⟨[a], ".", true⟩
    | [], _ => misuse 1 "missing file operand"
    | [a, b], none =>
      let isLink := match look p false b with
        | .ok (_, .link _) => true
        | _ => false
      pure ⟨[a], b, namesDirectory p b && !line.has "T" && !(line.has "n" && isLink)⟩
    | _, _ => journey line
  let kind := if symbolic then "symbolic link " else "hard link "
  let results ← j.sources.mapM fun source => do
    let place := j.place source
    if line.has "f" && isThere (← get) place then
      let _ ← edit fun w => w.files.removeFile w.current w.now (pathOf place)
    let made ←
      if symbolic then
        attempt ("failed to create " ++ kind ++ quoteForShell place) fun w =>
          w.files.createLink w.current w.now (Bytes.narrow source) (pathOf place)
      else
        match look (← get) true source with
        | .error cause => do
          complain ("failed to access " ++ quoteForShell source ++ ": " ++ cause.plainMessage)
          pure false
        | .ok (_, .directory _) => do
          complain (quoteIfNeeded source ++ ": hard link not allowed for directory")
          pure false
        | .ok (_, node) =>
          attempt ("failed to create " ++ kind ++ quoteForShell place) fun w => do
            let loc ← w.files.locate w.current (pathOf place) false
            match w.files.lookup? loc with
            | some _ => throw .exists_
            | none => return w.files.enter loc w.now node
    if made && line.has "v" then emitLine (quoteForShell place ++ (if symbolic then " -> "
      else " => ") ++ quoteForShell source)
    return made
  return codeOfAll results

/-! ### Copies -/

/-- How files are copied. -/
structure CopyManner where
  deep : Bool
  /-- Whether links are copied as links. -/
  keepLinks : Bool
  spoken : Bool
  force : Bool
  keepOld : Bool
  keepRights : Bool
  /-- Only over files that are older. -/
  newerOnly : Bool
  /-- Whether to ask before files are replaced. -/
  asks : Bool := false
  /-- Whether links are made in the place of copies, and of which kind. -/
  links? : Option Bool := none

/-- Copy the content of a file. -/
def copyContent (m : CopyManner) (source target : String) (content : Bytes) (rights : Rights) :
    Doing Bool := do
  let p ← get
  match look p false target with
  | .ok (_, .link _) =>
    if !(look p true target).toBool then
      complain ("not writing through dangling symlink " ++ quoteForShell target)
      return false
  | _ => pure ()
  let rights := if m.keepRights then rights else Rights.without rights p.mask
  let there := isThere p target
  if target.endsWith "/" && !there then
    complain ("cannot create regular file " ++ quoteForShell target ++ ": Not a directory")
    return false
  match m.links?, there with
  | some symbolic, false =>
    return ← attempt ("cannot create link " ++ quoteForShell target) fun w => do
      if symbolic then w.files.createLink w.current w.now (Bytes.narrow source) (pathOf target)
      else
        let loc ← w.files.locate w.current (pathOf target) false
        return w.files.enter loc w.now (.file content rights w.now)
  | _, _ => pure ()
  let made ← attempt ("cannot create regular file " ++ quoteForShell target) fun w =>
    w.files.writeAs rights w.current w.now (pathOf target) content
  if made && m.keepRights then
    let _ ← edit fun w => w.files.setRights w.current (pathOf target) rights
    match p.machine.files.modified? p.directory (pathOf source) with
    | some time =>
      let _ ← edit fun w => w.files.setModified w.current (pathOf target) time
    | none => pure ()
  if made && m.spoken then emitLine (arrow source target)
  return made && (there || true)

/-- Copy a file, or a directory with all that is in it. -/
def copyTree (m : CopyManner) (allowance : Nat) (source target : String) : Doing Bool :=
  match allowance with
  | 0 => return false
  | n + 1 => do
    let p ← get
    match look p (!m.keepLinks) source with
    | .error cause =>
      complain ("cannot stat " ++ quoteForShell source ++ ": " ++ cause.plainMessage)
      return false
    | .ok (place, node) =>
      let goal := look p true target
      let same := match goal with
        | .ok (other, _) => other == place
        | .error _ => false
      let older := match goal with
        | .ok _ =>
          !(decide ((p.machine.files.modified? p.directory (pathOf target)).getD 0
            < (p.machine.files.modified? p.directory (pathOf source)).getD 0))
        | .error _ => false
      match node with
      | .directory _ =>
        if !m.deep then
          complain ("-r not specified; omitting directory " ++ quoteForShell source)
          return false
        else match goal with
          | .ok (inside, .directory _) =>
            if same || place.isPrefixOf inside then intoItself source target
            else copyInside n source target
          | .ok _ =>
            complain ("cannot overwrite non-directory " ++ quoteForShell target
              ++ " with directory " ++ quoteForShell source)
            return false
          | .error _ =>
            let isInside := match p.machine.files.locate p.directory (pathOf target) false with
              | .ok goal => place.isPrefixOf goal
              | .error _ => false
            if isInside then intoItself source target
            else
              let made ← attempt ("cannot create directory " ++ quoteForShell target) fun w =>
                w.files.createDirectory w.current w.now (pathOf target)
              if made then
                if m.spoken then emitLine (arrow source target)
                copyInside n source target
              else return false
      | .link destination =>
        if m.force || !isThere p target then
          if isThere p target then
            let _ ← edit fun w => w.files.removeFile w.current w.now (pathOf target)
        let made ← attempt ("cannot create symbolic link " ++ quoteForShell target) fun w =>
          w.files.createLink w.current w.now destination (pathOf target)
        if made && m.spoken then emitLine (arrow source target)
        return made
      | .file content rights _ =>
        if same then
          complain (quoteForShell source ++ " and " ++ quoteForShell target ++ " are the same file")
          return false
        else match goal with
          | .ok (_, .directory _) =>
            complain ("cannot overwrite directory " ++ quoteForShell target
              ++ " with non-directory")
            return false
          | .ok _ =>
            if m.keepOld || (m.newerOnly && older) then return true
            else if !(← isAllowed m.asks ("overwrite " ++ quoteForShell target)) then
              return false
            else copyContent m source target content rights
          | .error cause =>
            if cause = .notDirectory then
              complain ("cannot stat " ++ quoteForShell target ++ ": " ++ cause.plainMessage)
              return false
            else copyContent m source target content rights
      | .device _ =>
        let content := (p.machine.files.read p.directory (pathOf source)).toOption.getD []
        copyContent m source target content 0o666
where
  intoItself (source target : String) : Doing Bool := do
    complain ("cannot copy a directory, " ++ quoteForShell source ++ ", into itself, "
      ++ quoteForShell target)
    return false
  copyInside (n : Nat) (source target : String) : Doing Bool := do
    let names := namesIn (← get) source
    let results ← names.mapM fun name =>
      copyTree { m with keepLinks := true } n (below source name) (below target name)
    return results.all id

/-- Copy files. -/
def copyAll : Tool := fun _ arguments => do
  let known := [switch 'r' "recursive", ⟨"r", 'R', none, .nothing⟩, switch 'a' "archive",
    switch 'p' "p", switch 'P' "no-dereference", switch 'L' "dereference", switch 'd' "d",
    switch 'H' "H", switch 'l' "link", switch 's' "symbolic-link", named "parents" .nothing,
    named "preserve" .maybe, named "no-preserve" .value, switch 'x' "one-file-system",
    named "reflink" .maybe, named "sparse" .value, named "attributes-only" .nothing,
    named "remove-destination" .nothing] ++ journeyOptions
  let line ← parse known true 1 arguments
  let j ← journey line
  let deep := line.has "r" || line.has "a"
  let manner : CopyManner :=
    { deep
      keepLinks := !line.has "L" && (line.has "P" || line.has "d" || deep)
      spoken := line.has "v"
      force := line.has "f"
      keepOld := line.has "n"
      keepRights := line.has "p" || line.has "a" || line.has "preserve"
      newerOnly := line.has "u"
      asks := asksFirst line
      links? := if line.has "s" then some true else if line.has "l" then some false else none }
  if line.has "n" then
    complain "warning: behavior of -n is non-portable and may change in future; use --update=none instead"
  let results ← j.sources.mapM fun source => copyTree manner deepest source (j.place source)
  return codeOfAll results

/-- Copy files, and give the copies rights. -/
def installAll : Tool := fun _ arguments => do
  let known := [switch 'd' "directory", valued 'm' "mode", switch 'D' "D", valued 'o' "owner",
    valued 'g' "group", switch 's' "strip", switch 'p' "preserve-timestamps",
    switch 'c' "c"] ++ journeyOptions
  let line ← parse known true 1 arguments
  let rights := ((line.value? "m").bind (Rights.change? false 0 0)).getD 0o755
  if line.has "d" then
    let results ← line.operands.mapM fun file => makeWay (line.has "v") (pathsOnTheWay file)
    return codeOfAll results
  else
    if line.has "D" then
      let target := (line.value? "t").getD (directoryPart (line.operands.getLastD "."))
      let _ ← makeWay false (pathsOnTheWay target)
    let j ← journey line
    let manner : CopyManner :=
      { deep := false, keepLinks := false, spoken := line.has "v", force := true
        keepOld := false, keepRights := false, newerOnly := false }
    let results ← j.sources.mapM fun source => do
      let place := j.place source
      if (look (← get) true source).toBool && isThere (← get) place then
        let _ ← edit fun w => w.files.removeFile w.current w.now (pathOf place)
      let copied ← copyTree manner deepest source place
      if copied then
        let _ ← edit fun w => w.files.setRights w.current (pathOf place) rights
      return copied
    return codeOfAll results

/-! ### Moving -/

/-- Move one file. -/
def moveOne (line : Line) (source target : String) : Doing Bool := do
  let p ← get
  match look p false source with
  | .error cause =>
    complain ("cannot stat " ++ quoteForShell source ++ ": " ++ cause.plainMessage)
    return false
  | .ok (place, node) =>
    let goal := look p false target
    match goal with
    | .ok (other, there) =>
      if other == place then
        complain (quoteForShell source ++ " and " ++ quoteForShell target ++ " are the same file")
        return false
      else if line.has "n" then
        complain ("not replacing " ++ quoteForShell target)
        return false
      else if isDirectoryNode node && !isDirectoryNode there then
        complain ("cannot overwrite non-directory " ++ quoteForShell target ++ " with directory "
          ++ quoteForShell source)
        return false
      else if !isDirectoryNode node && isDirectoryNode there then
        complain ("cannot overwrite directory " ++ quoteForShell target ++ " with non-directory "
          ++ quoteForShell source)
        return false
      else if line.has "u" && !(decide (
          (p.machine.files.modified? p.directory (pathOf target)).getD 0
            < (p.machine.files.modified? p.directory (pathOf source)).getD 0)) then return true
      else if !(← isAllowed (asksFirst line) ("overwrite " ++ quoteForShell target)) then
        return false
    | .error cause =>
      if cause = .notDirectory then
        complain ("cannot stat " ++ quoteForShell target ++ ": " ++ cause.plainMessage)
        return false
    if [".", ".."].contains (lastName source) then
      complain ("cannot move " ++ quoteForShell source ++ " to " ++ quoteForShell target
        ++ ": Device or resource busy")
      return false
    match ← edit fun w => w.files.rename w.current w.now (pathOf source) (pathOf target) with
    | .ok () =>
      if line.has "v" then emitLine ("renamed " ++ arrow source target)
      return true
    | .error cause =>
      if cause = .invalid then
        complain ("cannot move " ++ quoteForShell source ++ " to a subdirectory of itself, "
          ++ quoteForShell target)
      else if cause = .notEmpty then
        complain ("cannot overwrite " ++ quoteForShell target ++ ": " ++ cause.plainMessage)
      else
        complain ("cannot move " ++ quoteForShell source ++ " to " ++ quoteForShell target ++ ": "
          ++ cause.plainMessage)
      return false

/-- Move files. -/
def moveAll : Tool := fun _ arguments => do
  let known := [named "strip-trailing-slashes" .nothing, switch 'Z' "context"] ++ journeyOptions
  let line ← parse known true 1 arguments
  let j ← journey line
  let results ← j.sources.mapM fun source => moveOne line source (j.place source)
  return codeOfAll results

/-! ### Removing -/

/-- Remove a file, or a directory with all that is in it. -/
def removeTree (line : Line) (allowance : Nat) (file : String) : Doing Bool :=
  match allowance with
  | 0 => return false
  | n + 1 => do
    let p ← get
    let what := "cannot remove " ++ quoteForShell file
    let asks := (line.lastOf? ["i", "f"]).any fun g => g.key == "i"
    match look p false file with
    | .error cause =>
      if line.has "f" && (cause = .notFound || cause = .notDirectory) then return true
      else
        complain (what ++ ": " ++ cause.plainMessage)
        return false
    | .ok (place, .directory _) =>
      if line.has "r" then
        let isFilled := !(p.machine.files.children place).isEmpty
        if !(← isAllowed (asks && isFilled) ("descend into directory " ++ quoteForShell file)) then
          return false
        let results ← (namesIn p file).mapM fun name => removeTree line n (below file name)
        if !results.all id then return false
        else if !(← isAllowed asks ("remove directory " ++ quoteForShell file)) then
          return false
        else removeDirectory what
      else if line.has "d" then removeDirectory what
      else
        complain (what ++ ": Is a directory")
        return false
    | .ok (_, node) =>
      let kind := match node with
        | .file [] .. => "regular empty file "
        | .file .. => "regular file "
        | .link _ => "symbolic link "
        | _ => "character special file "
      if !(← isAllowed asks ("remove " ++ kind ++ quoteForShell file)) then return true
      match ← edit fun w => w.files.removeFile w.current w.now (pathOf file) with
      | .ok () =>
        if line.has "v" then emitLine ("removed " ++ quoteForShell file)
        return true
      | .error cause =>
        complain (what ++ ": " ++ cause.plainMessage)
        return false
where
  removeDirectory (what : String) : Doing Bool := do
    let removed ← attempt what fun w =>
      w.files.removeDirectory w.current w.now (pathOf (trimmed file))
    if removed && line.has "v" then emitLine ("removed directory " ++ quoteForShell file)
    return removed
  trimmed (file : String) : String :=
    let cs := withoutEndSlashes file.toList
    if cs.isEmpty then file else String.ofList cs

/-- Remove files. -/
def removeAll : Tool := fun _ arguments => do
  let known := [switch 'f' "force", switch 'r' "recursive", ⟨"r", 'R', none, .nothing⟩,
    switch 'd' "dir", switch 'v' "verbose", switch 'i' "i", switch 'I' "I",
    named "interactive" .maybe, named "no-preserve-root" .nothing, named "preserve-root" .maybe,
    named "one-file-system" .nothing]
  let line ← parse known true 1 arguments
  if line.operands.isEmpty && !line.has "f" then missingOperand 1 []
  let results ← line.operands.mapM fun file => do
    let name := lastName file
    let p ← get
    if line.has "r" && (name == "." || name == "..") then
      complain ("refusing to remove '.' or '..' directory: skipping " ++ quoteForShell file)
      return false
    else if line.has "r" && (look p true file).toOption.any (fun entry => entry.1.isEmpty) then
      complain "it is dangerous to operate recursively on '/'"
      complain "use --no-preserve-root to override this failsafe"
      return false
    else removeTree line deepest file
  return codeOfAll results

/-- Remove one file. -/
def removeLink : Tool := fun _ arguments => do
  let line ← parse [] true 1 arguments
  match line.operands with
  | [] => missingOperand 1 []
  | [file] =>
    let removed ← attempt ("cannot unlink " ++ quoteForShell file) fun w =>
      w.files.removeFile w.current w.now (pathOf file)
    return codeOfAll [removed]
  | _ :: extra :: _ => misuse 1 ("extra operand " ++ quoteWord extra)

/-! ### Rights -/

/-- Change the rights of a file, and of all that is in it. -/
def changeTree (line : Line) (new : Process → Node → Rights) (allowance : Nat) (file : String) :
    Doing Bool :=
  match allowance with
  | 0 => return false
  | n + 1 => do
    let p ← get
    match look p true file with
    | .error cause =>
      if !line.has "f" then
        complain ((if isThere p file then "cannot operate on dangling symlink "
          else "cannot access ") ++ quoteForShell file
          ++ (if isThere p file then "" else ": " ++ cause.plainMessage))
      return false
    | .ok (_, node) =>
      let before := rightsOf node
      let after := new p node
      let _ ← edit fun w => w.files.setRights w.current (pathOf file) after
      let shown := fun r : Rights => Rights.octal r 4 ++ " (" ++ Rights.letters r ++ ")"
      if before != after && (line.has "v" || line.has "c") then
        emitLine ("mode of " ++ quoteForShell file ++ " changed from " ++ shown before ++ " to "
          ++ shown after)
      else if line.has "v" then
        emitLine ("mode of " ++ quoteForShell file ++ " retained as " ++ shown after)
      if line.has "R" && isDirectoryNode node then
        let names := (namesIn p file).filter fun name =>
          match look p false (below file name) with
          | .ok (_, .link _) => false
          | _ => true
        let results ← names.mapM fun name => changeTree line new n (below file name)
        return results.all id
      else return true

/-- Whether a word is a mode that looks like an option. -/
def isModeOption (a : String) : Bool :=
  match a.toList with
  | '-' :: c :: cs => (c :: cs).all fun c => "rwxXstugo,+-=01234567".toList.contains c
  | _ => false

/-- Change the rights of files. -/
def changeRights : Tool := fun _ arguments => do
  let known := [switch 'R' "recursive", switch 'v' "verbose", switch 'c' "changes",
    switch 'f' "silent", ⟨"f", none, some "quiet", .nothing⟩, named "reference" .value]
  let modes := arguments.filter isModeOption
  let line ← parse known true 1 (arguments.filter fun a => !isModeOption a)
  let p ← get
  let (mode?, files) := match modes, line.value? "reference" with
    | m :: _, _ => (some m, line.operands)
    | [], some _ => (none, line.operands)
    | [], none => (line.operands.head?, line.operands.tail)
  let given := modes ++ line.operands
  if given.isEmpty then missingOperand 1 []
  if files.isEmpty then missingOperand 1 given
  match mode? with
  | none =>
    let file := (line.value? "reference").getD ""
    match look p true file with
    | .ok (_, node) =>
      let results ← files.mapM (changeTree line (fun _ _ => rightsOf node) deepest)
      return codeOfAll results
    | .error cause =>
      fatal 1 ("failed to get attributes of " ++ quoteForShell file ++ ": " ++ cause.plainMessage)
  | some mode =>
    let change := fun (p : Process) (node : Node) =>
      Rights.change? (isDirectoryNode node) p.mask (rightsOf node) mode
    if (Rights.change? false 0 0 mode).isNone then misuse 1 ("invalid mode: " ++ quoteWord mode)
    let results ← files.mapM
      (changeTree line (fun p node => (change p node).getD (rightsOf node)) deepest)
    return codeOfAll results

/-- Change who owns files; here they all stay with the one there is. -/
def changeOwner : Tool := fun _ arguments => do
  let known := [switch 'R' "recursive", switch 'v' "verbose", switch 'c' "changes",
    switch 'f' "silent", switch 'h' "no-dereference"]
  let line ← parse known true 1 arguments
  match line.operands with
  | [] => missingOperand 1 []
  | [owner] => missingOperand 1 [owner]
  | _ :: files =>
    let results ← files.mapM fun file => do
      match look (← get) true file with
      | .ok _ => return true
      | .error cause =>
        complain ("cannot access " ++ quoteForShell file ++ ": " ++ cause.plainMessage)
        return false
    return codeOfAll results

end GuardCost.Utility
