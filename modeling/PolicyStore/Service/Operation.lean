import PolicyStore.Counter
import PolicyStore.Namespace.Registry
import PolicyStore.Policy.Delta
import PolicyStore.Service.Program

/-!
# Operations on policies

The operations that the service offers, each as the requests that it makes. Typed operations refuse
a domain that is not registered, an empty name, and a policy that breaks a rule before the record
store is asked; what only the stored records can show is told by the program itself.
-/

namespace PolicyStore.Service

abbrev Values := Std.ExtTreeMap String String

/-- The values of records; of several with one name the last one counts. -/
def valuesOf (records : List Record) : Values :=
  records.foldl (fun values record => values.insert record.name record.value) ∅

/-! ## Records -/

def loadByNames (names : List String) : Operation Values :=
  .guarded "load configs by name" <| .request (.loadRecords names) fun records =>
    .pure (valuesOf records)

def loadByPattern (namePrefix : String) : Operation (List Record) :=
  .guarded "load configs by prefix" <| .request (.loadByPrefix namePrefix) .pure

def loadRecordById (id : RecordId) : Operation Record :=
  .guarded "load config by id" <| .request (.loadById id) .pure

def upsert (name value : String) : Operation RecordId :=
  .guarded "upsert config" <| .request (.upsert name value) .pure

def delete (name : String) : Operation Bool :=
  .guarded "delete config" <| .request (.delete name) .pure

/-! ## Policies -/

/-- The record name of a policy in a registered domain. -/
def domainKey (registry : Registry) (domain : Domain) (name : String) :
    Except PolicyError String := do
  registry.require domain.namePrefix
  let key := domain.key name
  let _ ← decodeKey domain.namePrefix key
  return key

def load (registry : Registry) (domain : Domain) (name : String) : Operation (Policy domain) :=
  .after (domainKey registry domain name) fun key =>
    .guarded "load config object" <| .request (.loadByName key) fun
      | none => .done (.error (.notFound (.byName key)))
      | some record => .done (Policy.ofRecord domain record)

def loadById (registry : Registry) (domain : Domain) (id : RecordId) :
    Operation (Policy domain) :=
  .after (registry.require domain.namePrefix) fun () =>
    .guarded "load config object by id" <| .request (.loadById id) fun record =>
      .done (Policy.ofRecord domain record)

/-- Loads a domain and goes on with its snapshot. -/
def withSnapshot {α : Type} (registry : Registry) (domain : Domain)
    (next : Snapshot domain → Program α) : Program α :=
  match registry.require domain.namePrefix with
  | .error error => .done (.error error)
  | .ok () =>
    .request (.loadByPrefix domain.namePrefix) fun records =>
      let (snapshot, skipped) := Snapshot.decode domain records
      .report skipped (next snapshot)

def loadAll (registry : Registry) (domain : Domain) : Operation (Snapshot domain) :=
  .guarded "load config domain" <| withSnapshot registry domain .pure

def loadChanged (registry : Registry) (domain : Domain) (previous : Fingerprints) :
    Operation (Delta domain) :=
  .after (registry.require domain.namePrefix) fun () =>
    .guarded "load changed config objects" <|
      .request (.loadByPrefix domain.namePrefix) fun records =>
        let (delta, skipped) := Delta.decode domain records previous
        .report skipped (.pure delta)

def store (registry : Registry) {domain : Domain} (policy : Policy domain) : Operation RecordId :=
  .after (domainKey registry domain policy.name) fun key =>
    .after policy.payload fun payload =>
      .guarded "store config object" <| .request (.upsert key payload) .pure

def remove (registry : Registry) (domain : Domain) (name : String) : Operation Bool :=
  .after (domainKey registry domain name) fun key =>
    .guarded "remove config object" <| .request (.delete key) .pure

/-- All that a rate limiter polls. -/
structure RateLimitConfig where
  strategies : Snapshot .strategy
  allowLists : Snapshot .allowList

def loadRateLimitConfig (registry : Registry) : Operation RateLimitConfig :=
  .guarded "load rate limit config" <|
    withSnapshot registry .strategy fun strategies =>
      withSnapshot registry .allowList fun allowLists => .pure ⟨strategies, allowLists⟩

abbrev RouteGroups := Std.ExtTreeMap String (Policy .routeGroup)

def groupsOf (snapshot : Snapshot .routeGroup) : RouteGroups :=
  snapshot.items.values.foldl (fun groups group => groups.insert group.name group) ∅

def groupsProgram (records : List Record) : Program RouteGroups :=
  let (snapshot, skipped) := Snapshot.decode .routeGroup records
  .report skipped (.pure (groupsOf snapshot))

/-- The route groups of the given names; all of them when no name is given. -/
def loadRouteGroups (registry : Registry) (names : List String) : Operation RouteGroups :=
  .after (registry.require Domain.routeGroup.namePrefix) fun () =>
    .guarded "load node route groups" <|
      if names.isEmpty then .request (.loadByPrefix Domain.routeGroup.namePrefix) groupsProgram
      else .request (.loadRecords (names.map Domain.routeGroup.key)) groupsProgram

/-! ## The reorganization counter -/

/-- The generation that a stored counter stands for; without a record it is zero. -/
def versionOf : Option Record → Except PolicyError Int64
  | none => .ok 0
  | some record => (parseCounter reorgKey record.value).mapError .ofStoreError

def reorgVersion : Operation Int64 :=
  .guarded "read reorg version" <| .request (.loadByName reorgKey) fun record =>
    .done (versionOf record)

def bumpReorgVersion : Operation Int64 :=
  .guarded "bump reorg version" <| .request (.increment reorgKey) .pure

end PolicyStore.Service
