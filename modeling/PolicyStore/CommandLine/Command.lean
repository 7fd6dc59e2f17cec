import PolicyStore.CommandLine.PayloadFile
import PolicyStore.CommandLine.Report
import PolicyStore.Service

/-!
# Commands

Every command is one operation of the service whose value becomes a report. A payload file is read,
and its text decoded, before the operation starts.
-/

namespace PolicyStore

inductive Command
  | getRecords (names : List String)
  | setRecord (name value : String)
  | deleteRecord (name : String)
  | listPolicies (domain : Domain)
  | showPolicy (domain : Domain) (name : String)
  | showPolicyById (domain : Domain) (id : RecordId)
  | putPolicy (domain : Domain) (name path : String)
  | removePolicy (domain : Domain) (name : String)
  | setRouteGroup (name : String) (nodes : List String)
  | readReorg
  | bumpReorg
  deriving DecidableEq, Repr

namespace Command

abbrev Result : Type := Except CommandError Report

def printed (text : String) : Result := .ok (.ofText text)

def shown (text : Except CommandError String) : Result := text.map .ofText

/-- The values that were found, with a warning for every name that has none. -/
def valuesFound (format : OutputFormat) (names : List String) (values : Service.Values) : Result :=
  if values.isEmpty then
    .error (.notFound ("no records found for " ++ ", ".intercalate names))
  else
    .ok ⟨Report.values format values,
      (names.filter fun name => !values.contains name).map fun name =>
        "record '" ++ name ++ "' not found"⟩

/-- The text when something was there to be removed, and what was not found otherwise. -/
def removal (text missing : String) (existed : Bool) : Result :=
  if existed then printed text else .error (.notFound missing)

/-- The policy that a file holds, not stored yet. -/
def policyInFile (files : Files) (domain : Domain) (name path : String) :
    Except CommandError (Policy domain) := do
  let text ← files.read path
  (Policy.ofPayload domain 0 name text).mapError .ofPolicyError

def operation (registry : Registry) (format : OutputFormat) (files : Files) :
    Command → Except CommandError (Operation Result)
  | .getRecords names => .ok <| (Service.loadByNames names).map (valuesFound format names)
  | .setRecord name value => .ok <| (Service.upsert name value).map fun id =>
    printed ("stored " ++ name ++ " (id " ++ toString id ++ ")")
  | .deleteRecord name => .ok <| (Service.delete name).map <|
    removal ("deleted " ++ name) ("record '" ++ name ++ "' not found")
  | .listPolicies domain => .ok <| (Service.loadAll registry domain).map fun snapshot =>
    shown (Report.snapshot format snapshot)
  | .showPolicy domain name => .ok <| (Service.load registry domain name).map fun policy =>
    shown (Report.policy format policy)
  | .showPolicyById domain id => .ok <| (Service.loadById registry domain id).map fun policy =>
    shown (Report.policy format policy)
  | .putPolicy domain name path =>
    (policyInFile files domain name path).map fun policy =>
      (Service.store registry policy).map fun id =>
        printed ("stored " ++ domain.label ++ " '" ++ name ++ "' (id " ++ toString id ++ ")")
  | .removePolicy domain name => .ok <| (Service.remove registry domain name).map <|
    removal ("removed " ++ name) ("'" ++ name ++ "' not found")
  | .setRouteGroup name nodes => .ok <|
    (Service.store registry (⟨0, name, ⟨nodes⟩⟩ : Policy .routeGroup)).map fun id =>
      printed ("stored " ++ Domain.routeGroup.label ++ " '" ++ name ++ "' with " ++
        toString nodes.length ++ " node(s) (id " ++ toString id ++ ")")
  | .readReorg => .ok <| Service.reorgVersion.map fun version =>
    printed (Report.version format version)
  | .bumpReorg => .ok <| Service.bumpReorgVersion.map fun version =>
    printed (Report.version format version)

/-- The result of a command whose operation came to an end. -/
def conclude : Except PolicyError Result → Result
  | .error error => .error (.ofPolicyError error)
  | .ok result => result

/-- Performs a command on a service; the signal to stop would be given at `signal`. -/
def perform {σ : Type} (command : Command) (format : OutputFormat) (files : Files)
    (service : Service σ) (signal : Option Nat) : Option Result × Service σ × List Skipped :=
  match command.operation service.registry format files with
  | .error error => (some (.error error), service, [])
  | .ok operation =>
    let (result, service, skipped) := service.perform (fun _ => operation) signal
    (result.map conclude, service, skipped)

def path? : Command → Option String
  | .putPolicy _ _ path => some path
  | _ => none

end Command

end PolicyStore
