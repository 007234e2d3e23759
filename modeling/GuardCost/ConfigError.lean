/-
GuardCost/ConfigError.lean

What can be wrong with the setup of a run.  All of it is found before any
work starts.
-/
import GuardCost.Host.Triple
import GuardCost.Machine.Path
import GuardCost.Toml.Decode

namespace GuardCost

/-- What is wrong with a program of the suite. -/
inductive ProgramFault where
  | blankName
  | notOneSegment
  | noStack
  | stated (reason : String)
  deriving DecidableEq, Repr

/-- The wording of a fault. -/
def ProgramFault.message : ProgramFault → String
  | blankName => "name is empty"
  | notOneSegment => "name must be a single path segment"
  | noStack => "stack size must be positive"
  | stated reason => reason

/-- Why a suite document was refused. -/
inductive DocumentFault where
  /-- The text is no document. -/
  | malformed
  /-- The document does not describe a suite. -/
  | unfit (fault : Toml.Fault)
  | stated (reason : String)
  deriving DecidableEq, Repr

/-- The wording of a fault. -/
def DocumentFault.message : DocumentFault → String
  | malformed => "TOML parse error"
  | unfit fault => "TOML parse error\n" ++ fault.message ++ "\n"
  | stated reason => reason

/-- Why a run cannot be set up. -/
inductive ConfigError where
  | conflictingProfiles
  | toolNotFound (path : Path)
  | noToolProfile (release debug : Path)
  | missingDirectory (path : Path)
  | missingFile (path : Path)
  | invalidPath (path : Path) (cause : SystemError)
  | registryRead (path : Path) (cause : SystemError)
  | registryParse (path : Path) (fault : DocumentFault)
  | duplicateProgram (name : String)
  | invalidProgram (name : String) (fault : ProgramFault)
  | unknownProgram (name : String)
  | host (cause : HostError)
  deriving DecidableEq, Repr

namespace ConfigError

/-- The wording of an error. -/
def message : ConfigError → String
  | conflictingProfiles => "--release and --debug are mutually exclusive"
  | toolNotFound path => "lowering tool not found at " ++ path.text
  | noToolProfile release debug =>
    "no build of the lowering tool found (looked for " ++ release.text ++ " and "
      ++ debug.text ++ ")"
  | missingDirectory path => "directory not found: " ++ path.text
  | missingFile path => "file not found: " ++ path.text
  | invalidPath path cause => "cannot resolve path " ++ path.text ++ ": " ++ cause.message
  | registryRead path cause =>
    "failed to read program registry " ++ path.text ++ ": " ++ cause.message
  | registryParse path fault =>
    "invalid program registry " ++ path.text ++ ": " ++ fault.message
  | duplicateProgram name => "duplicate program name '" ++ name ++ "'"
  | invalidProgram name fault => "invalid program '" ++ name ++ "': " ++ fault.message
  | unknownProgram name => "unknown program '" ++ name ++ "'"
  | host cause => "invalid host description: " ++ cause.message

/-- The wording of the causes behind an error, the nearest first. -/
def causes : ConfigError → List String
  | invalidPath _ cause => [cause.message]
  | registryRead _ cause => [cause.message]
  | host cause => [cause.message]
  | _ => []

end ConfigError

end GuardCost
