import PolicyStore.RecordStore.Memory

/-!
# What changed in a table of records

Two states of a table are compared row by row, by name.
-/

namespace PolicyStore

/-- How a row differs between two states of a table. -/
inductive Change
  | inserted (id : RecordId) (value : String)
  /-- Another row has taken the name. -/
  | replaced (id : RecordId) (value : String)
  /-- The row has another value or time of change; `touched` tells about the latter. -/
  | updated (id : RecordId) (value : String) (touched : Bool)
  | deleted (id : RecordId)
  deriving DecidableEq, Repr

namespace Memory

def rowChange? (before : Option Row) (row : Row) : Option Change :=
  match before with
  | none => some (.inserted row.id row.value)
  | some old =>
    if old.id ≠ row.id then some (.replaced row.id row.value)
    else if old.value ≠ row.value ∨ old.updatedAt ≠ row.updatedAt then
      some (.updated row.id row.value (old.updatedAt ≠ row.updatedAt))
    else none

/-- The changes from one state to another: first of the rows that are there afterwards, then of those
that are gone, each in the order of names. -/
def changes (before after : Memory) : List (String × Change) :=
  (after.rows.toList.filterMap fun (name, row) =>
    (rowChange? before.rows[name]? row).map (name, ·)) ++
  (before.rows.toList.filterMap fun (name, row) =>
    if after.rows.contains name then none else some (name, .deleted row.id))

end Memory

end PolicyStore
