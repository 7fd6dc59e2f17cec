import PolicyStore.PolicyError

/-!
# How commands fail

A command fails because of what it was given, because something is not there, or because something
went wrong; the exit code of the process tells these apart.
-/

namespace PolicyStore

inductive CommandError
  | validation (message : String)
  | notFound (message : String)
  /-- Something went wrong; what lies behind it follows. -/
  | failure (message : String) (causes : List String)
  deriving DecidableEq, Repr

namespace CommandError

def exitCode : CommandError → Nat
  | .validation _ => 2
  | .failure _ _ => 3
  | .notFound _ => 4

/-- The failure in words, with all that lies behind it. -/
def message : CommandError → String
  | .validation message | .notFound message => message
  | .failure message causes => ": ".intercalate (message :: causes)

/-- What the failure is called where no more is told. -/
def title (_ : CommandError) : String := "cli error"

def ofPolicyError (error : PolicyError) : CommandError :=
  match error.kind with
  | .validation => .validation (": ".intercalate (error.message :: error.causes))
  | .notFound => .notFound error.message
  | .storage | .cancelled => .failure error.message error.causes

end CommandError

end PolicyStore
