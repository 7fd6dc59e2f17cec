import PolicyStore.Database.Statement

/-!
# Replies of a database

A database replies with rows or with an error, hangs up, or never replies. Rows of the record table
have the columns of a record in their order; the other functions give rows of a single column. Where
one row is wanted the first counts, and only that one is looked at.
-/

namespace PolicyStore.Database

inductive Cell
  | null
  | integer (n : Int)
  | flag (b : Bool)
  | text (s : String)
  deriving DecidableEq, Repr

abbrev Row : Type := List Cell

/-- What a database does when a statement is sent to it. -/
inductive Reply
  | rows (rows : List Row)
  | rejected (state : String) (constraint : Option String) (message : String)
  | hangUp
  | silence
  deriving DecidableEq, Repr

namespace Cell

def integer? : Cell → Option Int
  | .integer n => some n
  | _ => none

def text? : Cell → Option String
  | .text s => some s
  | _ => none

def flag? : Cell → Option Bool
  | .flag b => some b
  | _ => none

def int64? (cell : Cell) : Option Int64 := cell.integer?.map Int64.ofInt

end Cell

/-- The value of a column; a column without a value of its kind is at fault. -/
def column {α : Type} (row : Row) (index : Nat) (name : String) (value? : Cell → Option α) :
    Except DatabaseFault α :=
  match row[index]?.bind value? with
  | some value => .ok value
  | none => .error (.unexpectedNull name)

def recordOf (row : Row) : Except DatabaseFault Record := do
  return {
    id := ← column row 0 "\"id\"" Cell.int64?
    name := ← column row 1 "\"name\"" Cell.text?
    value := ← column row 2 "\"value\"" Cell.text?
    createdAt := ← column row 3 "\"created_at\"" Cell.integer?
    updatedAt := ← column row 4 "\"updated_at\"" Cell.integer? }

def first? {α : Type} (decode : Row → Except DatabaseFault α) :
    List Row → Except DatabaseFault (Option α)
  | [] => .ok none
  | row :: _ => (decode row).map some

def scalar {α : Type} (value? : Cell → Option α) : List Row → Except DatabaseFault α
  | [] => .error .noRow
  | row :: _ => column row 0 "0" value?

/-- The rule that a state of failure speaks of. -/
def rejectionOf (state : String) : Rejection :=
  if state = "23505" then .unique
  else if state = "23514" then .check
  else if state = "23502" then .notNull
  else if state = "23503" then .foreignKey
  else .other

/-- The failure that a fault means for a request. A counter that is no number, or would leave the
64-bit range, is told apart by the state. -/
def failure (request : Request) (fault : DatabaseFault) : StoreError :=
  match request, fault with
  | .increment name, .rejected rejection state constraint message =>
    if state = "22P02" then .nonNumericCounter name none
    else if state = "22003" then .counterOverflow name
    else .ofFault (operationName (.increment name)) (.rejected rejection state constraint message)
  | request, fault => .ofFault (operationName request) fault

def decode : (request : Request) → List Row → Except DatabaseFault (Answer request)
  | .loadRecords _, rows => (rows.mapM recordOf).map .ok
  | .loadByName _, rows => (first? recordOf rows).map .ok
  | .loadByPrefix _, rows => (rows.mapM recordOf).map .ok
  | .loadById id, rows =>
    (first? recordOf rows).map fun
      | some record => .ok record
      | none => .error (.recordNotFound (.byId id))
  | .upsert _ _, rows => (scalar Cell.int64? rows).map .ok
  | .delete _, rows => (scalar Cell.flag? rows).map .ok
  | .increment _, rows => (scalar Cell.int64? rows).map .ok

def answerOf (request : Request) (rows : List Row) : Answer request :=
  match decode request rows with
  | .ok answer => answer
  | .error fault => .error (failure request fault)

end PolicyStore.Database
