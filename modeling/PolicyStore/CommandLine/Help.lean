import PolicyStore.CommandLine.Level

/-!
# Help

A page of help tells what a level of the command line is about, how it is used, which levels it leads
to, and what it can be given. Options are told with the environment variables that stand for them.
-/

namespace PolicyStore

abbrev Environment : Type := String → Option String

namespace Parameter

def placeholder : Parameter → String
  | .setting .databaseUrl => "DATABASE_URL"
  | .setting .maxConnections => "MAX_CONNECTIONS"
  | .setting .acquireTimeoutSecs => "ACQUIRE_TIMEOUT_SECS"
  | .setting .statementDeadlineMs => "STATEMENT_DEADLINE_MS"
  | .logLevel => "LOG_LEVEL"
  | .logFormat => "LOG_FORMAT"
  | .output => "OUTPUT"
  | .names => "NAMES"
  | .name => "NAME"
  | .value => "VALUE"
  | .domain => "DOMAIN"
  | .id => "ID"
  | .file => "FILE"
  | .group => "GROUP"
  | .nodes => "NODES"

/-- A parameter as it is shown at its place; a list that may be empty stands in brackets. -/
def shown : Parameter → String
  | .nodes => "[NODES]..."
  | .names => "<NAMES>..."
  | parameter => "<" ++ parameter.placeholder ++ ">"

/-- What a parameter is for. The name of a policy is told apart from that of a record. -/
def purpose (isPolicy : Bool) : Parameter → String
  | .setting .databaseUrl | .logLevel => ""
  | .setting .maxConnections => "Pool size [default: 8]"
  | .setting .acquireTimeoutSecs => "Seconds to wait for a pooled connection [default: 10]"
  | .setting .statementDeadlineMs =>
    "Abort any single store operation after this many milliseconds"
  | .logFormat => "Log output format: pretty or json"
  | .output => "Select output format for commands that render structured data"
  | .names => "Full record names"
  | .name => if isPolicy then "Logical name (without the domain prefix)" else "Full record name"
  | .value => "Raw value"
  | .domain => ""
  | .id => "Record id"
  | .file => "JSON payload file"
  | .group => "Route group name"
  | .nodes => "Node URLs in routing order"

/-- The environment variable of a parameter, with its value unless that is a secret. -/
def sourceNote (environment : Environment) (parameter : Parameter) : List String :=
  match parameter, parameter.source? with
  | _, none => []
  | .setting .databaseUrl, some source => ["[env: " ++ source ++ "]"]
  | _, some source => ["[env: " ++ source ++ "=" ++ (environment source).getD "" ++ "]"]

def choiceNote : Parameter → List String
  | .output => ["[default: table]", "[possible values: table, json]"]
  | .domain => ["[possible values: strategy, allowlist, route]"]
  | _ => []

def description (environment : Environment) (isPolicy : Bool) (parameter : Parameter) : String :=
  " ".intercalate <|
    ([parameter.purpose isPolicy].filter (· != "")) ++ parameter.sourceNote environment ++
      parameter.choiceNote

end Parameter

def UsageFault.message : UsageFault → String
  | .helpAsked _ => "help was asked for"
  | .nothingGiven | .missingCommand => "a command is required but none was given"
  | .unknownCommand word => "unrecognized command '" ++ word ++ "'"
  | .unknownArgument argument => "unexpected argument '" ++ argument ++ "'"
  | .missingArgument parameter => "the argument " ++ parameter.shown ++ " was not given"
  | .missingValue parameter => "a value is required for " ++ parameter.shown
  | .unacceptableValue parameter value | .unreadableValue parameter value =>
    "invalid value '" ++ value ++ "' for " ++ parameter.shown
  | .repeatedArgument parameter => "the argument " ++ parameter.shown ++ " was given twice"
  | .unneededValue value => "unexpected value '" ++ value ++ "'"

namespace Level

def columns (entries : List (String × String)) : List String :=
  let width := (entries.map fun (name, _) => name.length).foldl max 0
  entries.map fun (name, about) => "  " ++ Report.filled width name ++ "  " ++ about

/-- Entries whose descriptions stand on lines of their own. -/
def stacked (entries : List (String × String)) : List String :=
  entries.flatMap fun (name, about) => [name, "          " ++ about]

/-- What the level that tells about the others is about. -/
def aboutHelp : String := "Print this message or the help of the given subcommand(s)"

def usage (level : Level) : List String :=
  ["[OPTIONS]"] ++ (if level.isGroup then ["<COMMAND>"] else []) ++
    (level.options.map fun (name, _, parameter) => "--" ++ name ++ " " ++ parameter.shown) ++
    level.places.map Parameter.shown

def optionEntries (environment : Environment) (level : Level) : List (String × String) :=
  (level.options.map fun (name, letter, parameter) =>
    (String.ofList [' ', ' ', '-', letter, ','] ++ " --" ++ name ++ " " ++ parameter.shown,
      parameter.description environment true)) ++
  (Parameter.globals.filter fun (name, _) => name != "format").map (fun (name, parameter) =>
    ("      --" ++ name ++ " " ++ parameter.shown, parameter.description environment true)) ++
  [("  -h, --help", "Print help")]

/-- A part of a page under its title, if there is anything to it. -/
def part (title : String) : List String → List String
  | [] => []
  | lines => ["", title] ++ lines

/-- The page of the level that some words lead to. -/
def page (environment : Environment) (path : List String) (level : Level) : String :=
  let isPolicy := level.places.contains .domain
  Report.lines (
    [level.about, "", "Usage: " ++ " ".intercalate ("rpcgate" :: path ++ level.usage)] ++
    part "Commands:" (columns <|
      (level.members.map fun (name, member) => (name, member.about)) ++
        if level.isGroup then [("help", aboutHelp)] else []) ++
    part "Arguments:" (columns <| level.places.map fun parameter =>
      (parameter.shown, parameter.description environment isPolicy)) ++
    part "Options:" (stacked (level.optionEntries environment))) ++ "\n"

def helpPage (path : List String) : String :=
  Report.lines [aboutHelp, "",
    "Usage: " ++ " ".intercalate ("rpcgate" :: path ++ ["help", "[COMMAND]..."])] ++ "\n"

def helpOn (environment : Environment) (path : List String) : Level → List String → UsageFault
  | level, [] => .helpAsked (level.page environment path)
  | level, word :: words =>
    match level.turn? word with
    | none => .unknownCommand word
    | some .help => words.head?.elim (.helpAsked (helpPage path)) .unknownCommand
    | some (.level next) => next.helpOn environment (path ++ [word]) words

end Level

end PolicyStore
