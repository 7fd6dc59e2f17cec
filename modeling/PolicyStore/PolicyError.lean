import PolicyStore.Domain
import PolicyStore.Json.Fault
import PolicyStore.StoreError
import PolicyStore.Url.Fault

/-!
# Failures of policy operations

A failure of the record layer that has a meaning for policies is told in their terms; the rest stays
behind a storage failure.
-/

namespace PolicyStore

inductive Violation
  | blankRuleKey
  | zeroInterval (key : String)
  | zeroQuota (key : String)
  | blankEntry (list : String) (index : Nat)
  | notAbsoluteUrl (index : Nat) (node : String) (fault : Url.Fault)
  deriving DecidableEq, Repr

def Violation.message : Violation → String
  | .blankRuleKey => "rule key must not be empty"
  | .zeroInterval key => "rule '" ++ key ++ "' has a zero interval"
  | .zeroQuota key => "rule '" ++ key ++ "' has a zero quota"
  | .blankEntry list index => list ++ "[" ++ toString index ++ "] is empty"
  | .notAbsoluteUrl index node fault =>
    "node " ++ toString index ++ " ('" ++ node ++ "') is not an absolute URL: " ++ fault.message

inductive PolicyError
  | notFound (lookup : Lookup)
  /-- Nothing follows the prefix in a record name. -/
  | emptyLogicalName (namePrefix name : String)
  | foreignNamespace (namePrefix name : String)
  /-- A payload is not JSON of the domain's shape. -/
  | malformedPayload (domain : Domain) (name : String) (problem : Json.Problem)
  | invalidPayload (domain : Domain) (name : String) (violation : Violation)
  | nonNumericVersion (value : Option String)
  | invalidSetting (setting reason : String)
  | namespaceConflict (candidate existing : String)
  | emptyNamespace
  | unregisteredNamespace (namePrefix : String)
  | storage (cause : StoreError)
  | interrupted (operation : String) (reason : Interruption)
  deriving DecidableEq, Repr

namespace PolicyError

def ofStoreError : StoreError → PolicyError
  | .recordNotFound lookup => .notFound lookup
  | .nonNumericCounter _ value => .nonNumericVersion value
  | .invalidSetting setting reason => .invalidSetting setting reason
  | .interrupted operation reason => .interrupted operation reason
  | cause => .storage cause

/-- What the failure means to a caller. -/
def kind : PolicyError → ErrorKind
  | .notFound _ => .notFound
  | .storage _ => .storage
  | .interrupted _ _ => .cancelled
  | _ => .validation

def message : PolicyError → String
  | .notFound lookup => "configuration not found: " ++ lookup.describe
  | .emptyLogicalName namePrefix name =>
    "config name '" ++ name ++ "' has an empty logical name after prefix '" ++ namePrefix ++ "'"
  | .foreignNamespace namePrefix name =>
    "config name '" ++ name ++ "' is outside namespace '" ++ namePrefix ++ "'"
  | .malformedPayload domain name _ =>
    "malformed " ++ domain.label ++ " payload for '" ++ name ++ "'"
  | .invalidPayload domain name violation =>
    "invalid " ++ domain.label ++ " '" ++ name ++ "': " ++ violation.message
  | .nonNumericVersion value => "reorg version is not numeric: " ++ Text.quotedOption value
  | .invalidSetting setting reason => "invalid setting " ++ setting ++ ": " ++ reason
  | .namespaceConflict candidate existing =>
    "namespace '" ++ candidate ++ "' overlaps '" ++ existing ++ "'"
  | .emptyNamespace => "namespace prefix must not be empty"
  | .unregisteredNamespace namePrefix => "namespace '" ++ namePrefix ++ "' is not registered"
  | .storage _ => "storage operation failed"
  | .interrupted operation reason => operation ++ " interrupted: " ++ reason.message

/-- What lies behind the failure, outermost first. -/
def causes : PolicyError → List String
  | .malformedPayload _ _ problem => [problem.message]
  | .storage cause => cause.message :: cause.causes
  | _ => []

end PolicyError

end PolicyStore
