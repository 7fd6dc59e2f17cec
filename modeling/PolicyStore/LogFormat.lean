import PolicyStore.Text.Blank

/-!
# Log output formats

A format is chosen by name, in any case and with blanks around it. Installing logging fails when
something else has already installed it.
-/

namespace PolicyStore

inductive LogFormat
  | json
  | pretty
  deriving DecidableEq, Repr

inductive LogError
  | alreadyInstalled
  | unknownFormat (value : String)
  deriving DecidableEq, Repr

namespace LogError

def message : LogError → String
  | .alreadyInstalled => "failed to install tracing subscriber"
  | .unknownFormat value =>
    "unknown log format '" ++ value ++ "' (expected json or pretty)"

/-- Whether another failure lies behind this one. -/
def hasCause : LogError → Bool
  | .alreadyInstalled => true
  | .unknownFormat _ => false

end LogError

namespace LogFormat

/-- The format of a name: `json`, or `pretty` and its other name `text`. -/
def parse (value : String) : Except LogError LogFormat :=
  let name := String.ofList ((Text.trim value.toList).map Char.toLower)
  if name = "json" then .ok .json
  else if name = "pretty" ∨ name = "text" then .ok .pretty
  else .error (.unknownFormat value)

end LogFormat

/-- The state of a process's logging: what is installed, and the build it was first asked to report.
Only the first build name given is kept. -/
structure Logging where
  installed : Bool
  build : Option String
  deriving DecidableEq, Repr

namespace Logging

def buildName (logging : Logging) : String :=
  logging.build.getD "dev"

/-- Installs logging for a build. The name is kept even when the installation is refused. -/
def install (logging : Logging) (build : String) : Except LogError Unit × Logging :=
  let named := { logging with build := some (logging.build.getD build) }
  if logging.installed then (.error .alreadyInstalled, named)
  else (.ok (), { named with installed := true })

end Logging

end PolicyStore
