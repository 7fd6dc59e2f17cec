/-!
# Policy domains

Every policy belongs to one of three domains. A domain owns the record names that start with its
prefix; what follows the prefix is the name of the policy.
-/

namespace PolicyStore

inductive Domain
  | strategy
  | allowList
  | routeGroup
  deriving DecidableEq, Repr

namespace Domain

def namePrefix : Domain → String
  | .strategy => "ratelimit.strategy."
  | .allowList => "acl.allowlist."
  | .routeGroup => "noderoute.group."

/-- What messages call a domain's policies. -/
def label : Domain → String
  | .strategy => "rate-limit strategy"
  | .allowList => "allow-list"
  | .routeGroup => "node route group"

end Domain

/-- The name of the record that counts chain reorganizations. -/
def reorgKey : String := "reorg.version"

end PolicyStore
