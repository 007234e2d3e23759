/-
GuardCost/Error.lean

Every way in which an operation can fail.  The wording of an error and of the
causes behind it are those of the failure it stands for.
-/
import GuardCost.Bench.Reduction
import GuardCost.Build.Stage

namespace GuardCost

/-- Why an operation failed. -/
inductive Error where
  /-- The setup is wrong. -/
  | config (cause : ConfigError)
  /-- A stage of a build failed. -/
  | build (cause : BuildError)
  /-- A measurement cannot be trusted. -/
  | measure (cause : MeasureError)
  /-- A request to the system failed. -/
  | system (cause : SystemError)
  /-- The workers of a build could not be started. -/
  | workers (cause : SystemError)

namespace Error

/-- The wording of an error. -/
def message : Error → String
  | config cause => cause.message
  | build cause => cause.message
  | measure cause => cause.message
  | system cause => "IO error: " ++ cause.message
  | workers cause => "failed to start build workers: " ++ cause.message

/-- The wording of the causes behind an error, the nearest first. -/
def causes : Error → List String
  | config cause => cause.causes
  | build cause => cause.causes
  | measure cause => cause.causes
  | system cause => [cause.message]
  | workers cause => [cause.message, cause.message]

end Error

end GuardCost
