import PolicyStore.CommandLine.Command
import PolicyStore.CommandLine.Parameter

/-!
# The levels of the command line

The command line is a tree. A group leads to further levels by name; a command takes parameters by
their places and by options. Every level takes the global options, and help may be asked for at any.
-/

namespace PolicyStore

/-- A level of the command line; each tells what it is about. -/
inductive Level
  | group (about : String) (members : List (String × Level))
  /-- A command with its own options by name and letter, its parameters by place, and how it comes of
  what is given. -/
  | command (about : String) (options : List (String × Char × Parameter)) (places : List Parameter)
      (build : Given → Except UsageFault Command)

namespace Level

def simple (about : String) (places : List Parameter)
    (build : Given → Except UsageFault Command) : Level :=
  .command about [] places build

def reorg : Level := .group "Inspect or advance the reorg generation" [
  ("version", simple "Print the current reorg generation" [] fun _ => return .readReorg),
  ("bump", simple "Advance the reorg generation by one" [] fun _ => return .bumpReorg)]

def root : Level := .group "Administrative CLI for the rpcgate configuration store" [
  ("get", simple "Print raw record values" [.names] fun given =>
    return .getRecords (← given.need .names)),
  ("set", simple "Write a raw record value" [.name, .value] fun given =>
    return .setRecord (← given.need .name) (← given.need .value)),
  ("delete", simple "Delete a raw record" [.name] fun given =>
    return .deleteRecord (← given.need .name)),
  ("list", simple "List every valid object of a domain" [.domain] fun given =>
    return .listPolicies (← given.need .domain)),
  ("show", simple "Show one object of a domain by logical name" [.domain, .name] fun given =>
    return .showPolicy (← given.need .domain) (← given.need .name)),
  ("show-id", simple "Show one object of a domain by record id" [.domain, .id] fun given =>
    return .showPolicyById (← given.need .domain) (← given.need .id)),
  ("put", .command "Validate and store an object from a JSON payload file"
    [("file", 'f', .file)] [.domain, .name] fun given =>
    return .putPolicy (← given.need .domain) (← given.need .name) (← given.need .file)),
  ("remove", simple "Delete one object of a domain" [.domain, .name] fun given =>
    return .removePolicy (← given.need .domain) (← given.need .name)),
  ("route-set", simple "Store a node route group from a list of node URLs" [.group, .nodes]
    fun given => return .setRouteGroup (← given.need .group) ((given .nodes).getD [])),
  ("reorg", reorg)]

def about : Level → String
  | .group about _ | .command about _ _ _ => about

def members : Level → List (String × Level)
  | .group _ members => members
  | .command _ _ _ _ => []

def places : Level → List Parameter
  | .group _ _ => []
  | .command _ _ places _ => places

def options : Level → List (String × Char × Parameter)
  | .group _ _ => []
  | .command _ options _ _ => options

/-- Whether a level leads to others, one of which tells about the rest. -/
def isGroup : Level → Bool
  | .group _ _ => true
  | .command _ _ _ _ => false

def named? (level : Level) (name : String) : Option Parameter :=
  Parameter.globals.lookup name <|> (level.options.map fun (name, _, p) => (name, p)).lookup name

def lettered? (level : Level) (letter : Char) : Option Parameter :=
  (level.options.map fun (_, letter, p) => (letter, p)).lookup letter

inductive Turn
  | help
  | level (next : Level)

/-- What a word leads to, if it is the name of a level. -/
def turn? (level : Level) (word : String) : Option Turn :=
  if level.isGroup && word == "help" then some .help else (level.members.lookup word).map .level

end Level

end PolicyStore
