import PolicyStore.Duration

/-!
# Why an operation stopped early
-/

namespace PolicyStore

inductive Interruption
  | cancelled
  | deadlineExceeded (limit : Duration)
  deriving DecidableEq, Repr

/-- The interruption in words; a limit is shown in whole milliseconds. -/
def Interruption.message : Interruption → String
  | .cancelled => "cancelled by caller"
  | .deadlineExceeded limit => "deadline of " ++ toString limit.millis ++ "ms exceeded"

end PolicyStore
