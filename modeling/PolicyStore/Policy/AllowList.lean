import PolicyStore.Json.RecordReader
import PolicyStore.Json.Tree
import PolicyStore.PolicyError
import PolicyStore.Text.Blank

/-!
# Allow-lists

An allow-list exempts requests from rate limits while it is enabled. No entry of its lists is blank.
-/

namespace PolicyStore

structure AllowList where
  enabled : Bool
  userAgents : List String
  origins : List String
  methods : List String
  contractAddresses : List String
  deriving DecidableEq, Repr

namespace AllowList

/-- A list of an allow-list by name. -/
structure Section where
  name : String
  entries : List String

def sections (list : AllowList) : List Section :=
  [⟨"user_agents", list.userAgents⟩, ⟨"origins", list.origins⟩, ⟨"methods", list.methods⟩,
    ⟨"contract_addresses", list.contractAddresses⟩]

/-- The first blank entry of a list. -/
def Section.violation? (part : Section) : Option Violation :=
  (part.entries.findIdx? Text.isBlankText).map (.blankEntry part.name)

def violation? (list : AllowList) : Option Violation :=
  list.sections.findSome? Section.violation?

/-- An allow-list of which some fields have been read. -/
structure Draft where
  enabled : Option Bool := none
  userAgents : Option (List String) := none
  origins : Option (List String) := none
  methods : Option (List String) := none
  contractAddresses : Option (List String) := none

def layout : Json.Layout Draft where
  title := "struct AllowListPayload"
  fields :=
    [.of "enabled" false Draft.enabled (fun draft b => { draft with enabled := some b }) .flag,
      .of "user_agents" false Draft.userAgents
        (fun draft l => { draft with userAgents := some l }) (.list .text),
      .of "origins" false Draft.origins (fun draft l => { draft with origins := some l })
        (.list .text),
      .of "methods" false Draft.methods (fun draft l => { draft with methods := some l })
        (.list .text),
      .of "contract_addresses" false Draft.contractAddresses
        (fun draft l => { draft with contractAddresses := some l }) (.list .text)]

def reader : Json.Reader AllowList :=
  (Json.Reader.record layout {}).map fun draft =>
    { enabled := draft.enabled.getD false
      userAgents := draft.userAgents.getD []
      origins := draft.origins.getD []
      methods := draft.methods.getD []
      contractAddresses := draft.contractAddresses.getD [] }

/-- An allow-list as it is written: empty lists are left out. -/
def tree (list : AllowList) : Json.Tree :=
  .object (("enabled", .flag list.enabled) ::
    (list.sections.filter fun part => !part.entries.isEmpty).map fun part =>
      (part.name, .ofStrings part.entries))

def summary (list : AllowList) : String :=
  (if list.enabled then "enabled" else "disabled") ++
    " ua=" ++ toString list.userAgents.length ++ " origins=" ++ toString list.origins.length ++
    " methods=" ++ toString list.methods.length ++
    " contracts=" ++ toString list.contractAddresses.length

end AllowList

end PolicyStore
