import PolicyStore.StoreError
import PolicyStore.Text.Blank
import PolicyStore.Text.Numeral

/-!
# Counters kept as text

A counter record holds a decimal 64-bit number, possibly with blanks around it.
-/

namespace PolicyStore

/-- Reads the stored text of the counter `name`. Digits that leave the 64-bit range are told apart
from text that is no number; the first offending character decides. -/
def parseCounter (name value : String) : Except StoreError Int64 :=
  match Text.readInt64 (Text.trim value.toList) with
  | .ok n => .ok n
  | .error .outOfRange => .error (.counterOverflow name)
  | .error .malformed => .error (.nonNumericCounter name (some value))

/-- The successor of a counter's value, unless it is the last one. -/
def nextCount? (n : Int64) : Option Int64 :=
  if n = Int64.maxValue then none else some (n + 1)

end PolicyStore
