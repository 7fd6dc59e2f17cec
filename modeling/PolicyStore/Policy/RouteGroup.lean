import PolicyStore.Json.RecordReader
import PolicyStore.Json.Tree
import PolicyStore.PolicyError
import PolicyStore.Url.Parse

/-!
# Node route groups

A route group lists the nodes that requests go to, in order. Every node is an absolute URL, kept as
it was written.
-/

namespace PolicyStore

structure RouteGroup where
  nodes : List String
  deriving DecidableEq, Repr

namespace RouteGroup

section Nodes

variable (parse : String → Except Url.Fault Url)

/-- The URLs of nodes counted from `index`, or the first node that is none. -/
def urlsFrom (index : Nat) : List String → Except Violation (List Url)
  | [] => .ok []
  | node :: nodes =>
    match parse node with
    | .error fault => .error (.notAbsoluteUrl index node fault)
    | .ok url => (urlsFrom (index + 1) nodes).map (url :: ·)

/-- The first node of a group that `parse` does not take for a URL. -/
def violationBy? (group : RouteGroup) : Option Violation :=
  match urlsFrom parse 0 group.nodes with
  | .ok _ => none
  | .error violation => some violation

end Nodes

def urls (group : RouteGroup) : Except Violation (List Url) :=
  urlsFrom Url.parse 0 group.nodes

structure Draft where
  nodes : Option (List String) := none

def layout : Json.Layout Draft where
  title := "struct RouteGroupPayload"
  fields := [.of "nodes" false Draft.nodes (fun _ l => { nodes := some l }) (.list .text)]

def reader : Json.Reader RouteGroup :=
  (Json.Reader.record layout {}).map fun draft => ⟨draft.nodes.getD []⟩

def tree (group : RouteGroup) : Json.Tree :=
  .object [("nodes", .ofStrings group.nodes)]

def summary (group : RouteGroup) : String :=
  if group.nodes.isEmpty then "<no nodes>" else ", ".intercalate group.nodes

end RouteGroup

end PolicyStore
