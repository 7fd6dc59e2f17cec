import PolicyStore.CommandLine.Failure
import PolicyStore.Json.TreeReader
import PolicyStore.Service.Operation

/-!
# What commands print

A report is the text that a command prints and the warnings that go with it. Structured data is shown
as a table for people or as JSON for programs. A policy is shown with its payload and the fingerprint
of it. The payload is written as it would be stored and read again as a document, which sorts its
members and may fail.
-/

namespace PolicyStore

inductive OutputFormat
  | table
  | json
  deriving DecidableEq, Repr

structure Report where
  text : String
  warnings : List String
  deriving DecidableEq, Repr

namespace Report

def ofText (text : String) : Report := ⟨text, []⟩

def lines (lines : List String) : String := "\n".intercalate lines

/-! ## Values -/

def values (format : OutputFormat) (values : Service.Values) : String :=
  match format with
  | .table => lines (values.toList.map fun (name, value) => name ++ " = " ++ value)
  | .json => (Json.Tree.object (values.toList.map fun (name, value) => (name, .text value))).indented

/-! ## Policies -/

variable {domain : Domain}

structure View where
  id : RecordId
  name : String
  fingerprint : Fingerprint
  payload : Json.Tree

/-- The failure to show a policy whose payload is not read again. -/
def unreadPayload (problem : Json.Problem) : CommandError :=
  .failure ("payload is not valid JSON: " ++ problem.message) []

/-- Looks at a policy: writes its payload and reads it again. -/
def view (policy : Policy domain) : Except CommandError View := do
  let text ← policy.payload.mapError .ofPolicyError
  let payload ← (Json.Tree.read text).mapError unreadPayload
  return ⟨policy.id, policy.name, .of text, payload⟩

def View.tree (view : View) : Json.Tree :=
  .object [
    ("id", .ofInt64 view.id),
    ("name", .text view.name),
    ("fingerprint", .text view.fingerprint.hex),
    ("payload", view.payload)]

def policy (format : OutputFormat) (policy : Policy domain) : Except CommandError String :=
  (view policy).map fun view =>
    match format with
    | .json => view.tree.indented
    | .table => lines [
        "kind: " ++ domain.label,
        "id: " ++ toString view.id,
        "name: " ++ view.name,
        "fingerprint: " ++ view.fingerprint.hex,
        "summary: " ++ domain.summary policy.content,
        "payload: " ++ view.payload.compact]

/-- A text filled up with blanks to a width in characters. -/
def filled (width : Nat) (text : String) : String :=
  text ++ String.ofList (List.replicate (width - text.length) ' ')

def row (id name fingerprint summary : String) : String :=
  " ".intercalate [filled 8 id, filled 24 name, filled 12 fingerprint, summary]

/-- The row of a policy, with the fingerprint of its stored value. -/
def policyRow (fingerprints : Fingerprints) (id : RecordId) (policy : Policy domain) : String :=
  row (toString id) policy.name ((fingerprints[id]?.map Fingerprint.short).getD "-")
    (domain.summary policy.content)

/-- All policies of a domain. As JSON there is no listing when one of them cannot be shown. -/
def snapshot (format : OutputFormat) (snapshot : Snapshot domain) : Except CommandError String :=
  match format with
  | .json =>
    (snapshot.items.values.mapM view).map fun views =>
      (Json.Tree.list (views.map View.tree)).indented
  | .table =>
    .ok <| lines (row "ID" "NAME" "FINGERPRINT" "SUMMARY" ::
      snapshot.items.toList.map fun (id, policy) => policyRow snapshot.fingerprints id policy)

/-! ## The reorganization counter -/

def version (format : OutputFormat) (version : Int64) : String :=
  match format with
  | .json => (Json.Tree.object [("reorg_version", .ofInt64 version)]).indented
  | .table => "reorg version: " ++ toString version

end Report

end PolicyStore
