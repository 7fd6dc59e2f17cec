import PolicyStore.Json.Printer
import PolicyStore.Namespace.Key
import PolicyStore.Policy.AllowList
import PolicyStore.Policy.RouteGroup
import PolicyStore.Policy.Strategy

/-!
# Policies

A policy is the content of a domain with its name and the id of its record. Its payload is the JSON
text of its content; a text is accepted as a payload when it is JSON of the domain's shape and the
content keeps the domain's rules, and content is written only when it does.
-/

namespace PolicyStore

namespace Domain

abbrev Content : Domain → Type
  | .strategy => Strategy
  | .allowList => AllowList
  | .routeGroup => RouteGroup

def reader : (domain : Domain) → Json.Reader domain.Content
  | .strategy => Strategy.reader
  | .allowList => AllowList.reader
  | .routeGroup => RouteGroup.reader

/-- The first rule of its domain that a content breaks, when `parse` says what a URL is. -/
def violationBy? (parse : String → Except Url.Fault Url) :
    (domain : Domain) → domain.Content → Option Violation
  | .strategy => Strategy.violation?
  | .allowList => AllowList.violation?
  | .routeGroup => RouteGroup.violationBy? parse

def violation? (domain : Domain) (content : domain.Content) : Option Violation :=
  domain.violationBy? Url.parse content

def tree : (domain : Domain) → domain.Content → Json.Tree
  | .strategy => Strategy.tree
  | .allowList => AllowList.tree
  | .routeGroup => RouteGroup.tree

def summary : (domain : Domain) → domain.Content → String
  | .strategy => Strategy.summary
  | .allowList => AllowList.summary
  | .routeGroup => RouteGroup.summary

def key (domain : Domain) (name : String) : String :=
  encodeKey domain.namePrefix name

end Domain

/-- A policy; its id is zero until it is stored. -/
structure Policy (domain : Domain) where
  id : RecordId
  name : String
  content : domain.Content

namespace Policy

variable {domain : Domain}

/-- The payload of a policy, when `parse` says what a URL is; there is none when the content breaks a
rule. -/
def payloadBy (parse : String → Except Url.Fault Url) (policy : Policy domain) :
    Except PolicyError String :=
  match domain.violationBy? parse policy.content with
  | some violation => .error (.invalidPayload domain policy.name violation)
  | none => .ok (domain.tree policy.content).compact

def payload (policy : Policy domain) : Except PolicyError String :=
  policy.payloadBy Url.parse

/-- The content that a text stands for, whether or not it keeps the rules. -/
def readContent (domain : Domain) (name text : String) : Except PolicyError domain.Content :=
  match domain.reader.readWhole text.toList with
  | .error fault => .error (.malformedPayload domain name (fault.locate text.toList))
  | .ok content => .ok content

/-- The policy of a payload, when `parse` says what a URL is. -/
def ofPayloadBy (parse : String → Except Url.Fault Url) (domain : Domain) (id : RecordId)
    (name text : String) : Except PolicyError (Policy domain) := do
  let content ← readContent domain name text
  match domain.violationBy? parse content with
  | some violation => .error (.invalidPayload domain name violation)
  | none => return ⟨id, name, content⟩

def ofPayload (domain : Domain) (id : RecordId) (name text : String) :
    Except PolicyError (Policy domain) :=
  ofPayloadBy Url.parse domain id name text

def ofRecord (domain : Domain) (record : Record) : Except PolicyError (Policy domain) := do
  let name ← decodeKey domain.namePrefix record.name
  ofPayload domain record.id name record.value

end Policy

end PolicyStore
