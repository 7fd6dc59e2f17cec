import PolicyStore.CommandLine.Report
import PolicyStore.LogFormat
import PolicyStore.Settings
import PolicyStore.Text.Numeral

/-!
# What a command line gives values for

A parameter is given by its place or by an option; some may also come from the environment. Each has
values of its own kind, and what is given is kept as a table from parameters to their values.
-/

namespace PolicyStore

inductive Parameter
  | setting (source : Settings.Variable)
  | logLevel
  | logFormat
  | output
  | names
  /-- A record name, or that of a policy in its domain. -/
  | name
  | value
  | domain
  | id
  | file
  | group
  | nodes
  deriving DecidableEq, Repr

namespace Parameter

abbrev Value : Parameter → Type
  | .logFormat => LogFormat
  | .output => OutputFormat
  | .domain => Domain
  | .id => RecordId
  | .names | .nodes => List String
  | .setting _ | .logLevel | .name | .value | .file | .group => String

def isRepeatable : Parameter → Bool
  | .names | .nodes => true
  | _ => false

/-- The options that every level of the command line takes, by name. -/
def globals : List (String × Parameter) := [
  ("database-url", .setting .databaseUrl),
  ("max-connections", .setting .maxConnections),
  ("acquire-timeout-secs", .setting .acquireTimeoutSecs),
  ("statement-deadline-ms", .setting .statementDeadlineMs),
  ("log-level", .logLevel),
  ("log-format", .logFormat),
  ("output", .output),
  ("format", .output)]

def source? : Parameter → Option String
  | .setting source => some source.name
  | .logLevel => some "RPCGATE_LOG"
  | .logFormat => some "RPCGATE_LOG_FORMAT"
  | _ => none

def environmental : List Parameter :=
  [.setting .databaseUrl, .setting .maxConnections, .setting .acquireTimeoutSecs,
    .setting .statementDeadlineMs, .logLevel, .logFormat]

end Parameter

/-- Why a command line is not understood. -/
inductive UsageFault
  | helpAsked (page : String)
  /-- Nothing at all was given. -/
  | nothingGiven
  | missingCommand
  | unknownCommand (name : String)
  | unknownArgument (argument : String)
  | missingArgument (parameter : Parameter)
  | missingValue (parameter : Parameter)
  /-- A value that is none of those there are to choose from. -/
  | unacceptableValue (parameter : Parameter) (value : String)
  /-- A value that cannot be read. -/
  | unreadableValue (parameter : Parameter) (value : String)
  | repeatedArgument (parameter : Parameter)
  | unneededValue (value : String)
  deriving DecidableEq, Repr

namespace Parameter

def domainOf? (value : String) : Option Domain :=
  [("strategy", Domain.strategy), ("allowlist", .allowList), ("route", .routeGroup)].lookup value

def outputOf? (value : String) : Option OutputFormat :=
  [("table", OutputFormat.table), ("json", .json)].lookup value

/-- A value that is there, or that is none of those to choose from. -/
def choose {α : Type} (parameter : Parameter) (value : String) :
    Option α → Except UsageFault α
  | some a => .ok a
  | none => .error (.unacceptableValue parameter value)

def readable {ε α : Type} (parameter : Parameter) (value : String) :
    Except ε α → Except UsageFault α
  | .ok a => .ok a
  | .error _ => .error (.unreadableValue parameter value)

/-- Reads what is given for a parameter. Names and other texts are taken as they are; the path of a
file is not empty. -/
def read : (parameter : Parameter) → String → Except UsageFault parameter.Value
  | .domain, text => choose .domain text (domainOf? text)
  | .output, text => choose .output text (outputOf? text)
  | .id, text => readable .id text (Text.readInt64 text.toList)
  | .logFormat, text => readable .logFormat text (LogFormat.parse text)
  | .file, text => if text.isEmpty then .error (.missingValue .file) else .ok text
  | .names, text | .nodes, text => .ok [text]
  | .setting _, text | .logLevel, text | .name, text | .value, text | .group, text => .ok text

end Parameter

abbrev Given : Type := (parameter : Parameter) → Option parameter.Value

namespace Given

def nothing : Given := fun _ => none

def put (given : Given) (parameter : Parameter) (value : parameter.Value) : Given := fun other =>
  if same : parameter = other then some (same ▸ value) else given other

/-- What is given here, and for the rest what is given there. -/
def orElse (here there : Given) : Given := fun parameter => here parameter <|> there parameter

def need (given : Given) (parameter : Parameter) : Except UsageFault parameter.Value :=
  match given parameter with
  | some value => .ok value
  | none => .error (.missingArgument parameter)

end Given

end PolicyStore
