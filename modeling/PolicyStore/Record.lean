/-!
# Configuration records

One flat table holds every policy: a record has an id that never changes, a unique name and a text
value. Names and values are bounded in UTF-8 bytes.
-/

namespace PolicyStore

/-- The surrogate key of a record. -/
abbrev RecordId := Int64

/-- One row of the record table. `updatedAt` moves when the value changes. -/
structure Record where
  id : RecordId
  name : String
  value : String
  createdAt : Int
  updatedAt : Int
  deriving DecidableEq, Repr

/-- How a single record was asked for. -/
inductive Lookup
  | byId (id : RecordId)
  | byName (name : String)
  deriving DecidableEq, Repr

def Lookup.describe : Lookup → String
  | .byId id => "id " ++ toString id
  | .byName name => "name '" ++ name ++ "'"

def maxNameBytes : Nat := 128

def maxValueBytes : Nat := 16250

/-- A column whose content does not fit, with the bytes it would take. -/
structure Overflow where
  column : String
  limit : Nat
  actual : Nat
  deriving DecidableEq, Repr

/-- The first column that refuses a write of `value` under `name`: a name has at least one byte. -/
def overflow? (name value : String) : Option Overflow :=
  if name.utf8ByteSize = 0 ∨ maxNameBytes < name.utf8ByteSize then
    some ⟨"name", maxNameBytes, name.utf8ByteSize⟩
  else if maxValueBytes < value.utf8ByteSize then
    some ⟨"value", maxValueBytes, value.utf8ByteSize⟩
  else none

end PolicyStore
