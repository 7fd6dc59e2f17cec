import PolicyStore.PolicyError

/-!
# Record names of policies

The record name of a policy is the prefix of its domain followed by its own name, which is not empty.
-/

namespace PolicyStore

def startsWith (start text : String) : Bool :=
  start.toList.isPrefixOf text.toList

def afterStart (start text : String) : String :=
  String.ofList (text.toList.drop start.toList.length)

def encodeKey (namePrefix logicalName : String) : String :=
  namePrefix ++ logicalName

/-- The name of the policy that a record name under a prefix belongs to. -/
def decodeKey (namePrefix key : String) : Except PolicyError String :=
  if startsWith namePrefix key then
    let logicalName := afterStart namePrefix key
    if logicalName.isEmpty then .error (.emptyLogicalName namePrefix key) else .ok logicalName
  else .error (.foreignNamespace namePrefix key)

end PolicyStore
