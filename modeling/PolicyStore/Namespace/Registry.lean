import PolicyStore.Namespace.Key

/-!
# The registry of namespaces

The registry refuses a prefix that overlaps another one or would capture a reserved record name, so
that every record name belongs to at most one prefix.
-/

namespace PolicyStore

/-- The prefixes and the reserved record names, in the order in which they came. -/
structure Registry where
  prefixes : List String
  keys : List String
  deriving DecidableEq, Repr

namespace Registry

def empty : Registry := ⟨[], []⟩

/-- Adds a prefix. A prefix that is already there changes nothing. -/
def register (registry : Registry) (candidate : String) : Except PolicyError Registry :=
  if candidate.isEmpty then .error .emptyNamespace
  else if registry.prefixes.contains candidate then .ok registry
  else
    match registry.prefixes.find? fun existing =>
      startsWith candidate existing || startsWith existing candidate with
    | some existing => .error (.namespaceConflict candidate existing)
    | none =>
      match registry.keys.find? (startsWith candidate) with
      | some existing => .error (.namespaceConflict candidate existing)
      | none => .ok { registry with prefixes := registry.prefixes ++ [candidate] }

/-- Reserves a record name that belongs to no prefix. -/
def reserveKey (registry : Registry) (key : String) : Except PolicyError Registry :=
  if key.isEmpty then .error .emptyNamespace
  else
    match registry.prefixes.find? fun existing => startsWith existing key with
    | some existing => .error (.namespaceConflict key existing)
    | none =>
      if registry.keys.contains key then .ok registry
      else .ok { registry with keys := registry.keys ++ [key] }

def isRegistered (registry : Registry) (namePrefix : String) : Bool :=
  registry.prefixes.contains namePrefix

def require (registry : Registry) (namePrefix : String) : Except PolicyError Unit :=
  if registry.isRegistered namePrefix then .ok () else .error (.unregisteredNamespace namePrefix)

/-- The prefix that a record name belongs to. -/
def namespaceOf (registry : Registry) (key : String) : Option String :=
  registry.prefixes.find? fun namePrefix => startsWith namePrefix key

def builtin : Registry :=
  ⟨[Domain.strategy.namePrefix, Domain.allowList.namePrefix, Domain.routeGroup.namePrefix],
    [reorgKey]⟩

/-- Adding the three domains and the counter one by one gives the builtin registry. -/
theorem builtin_eq_ok :
    (do
      let registry ← empty.register Domain.strategy.namePrefix
      let registry ← registry.register Domain.allowList.namePrefix
      let registry ← registry.register Domain.routeGroup.namePrefix
      registry.reserveKey reorgKey) = .ok builtin := by
  rfl

end Registry

end PolicyStore
