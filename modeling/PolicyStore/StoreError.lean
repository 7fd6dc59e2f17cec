import PolicyStore.Interruption
import PolicyStore.Record

/-!
# Failures of the record layer

A failure is kept as its cause. `message` gives its own words and `causes` the words of what lies
behind it, outermost first, so that a report can show the whole chain.
-/

namespace PolicyStore

/-- What a caller needs to know of a failure to go on. -/
inductive ErrorKind
  | notFound
  /-- Stored or supplied data is not acceptable. -/
  | validation
  | storage
  | cancelled
  deriving DecidableEq, Repr

/-- The rule a database applied when it refused a statement. -/
inductive Rejection
  | unique
  | check
  | notNull
  | foreignKey
  | other
  deriving DecidableEq, Repr

/-- A failure reported by the database or met on the way to it. -/
inductive DatabaseFault
  | noRow
  | poolClosed
  | disconnected
  | unreachable
  | unexpectedNull (column : String)
  | rejected (rejection : Rejection) (state : String) (constraint : Option String) (message : String)
  deriving DecidableEq, Repr

namespace DatabaseFault

/-- The fault in words, and then what lies behind it. -/
def causes : DatabaseFault → List String
  | .noRow => ["no rows returned by a query that expected to return at least one row"]
  | .poolClosed => ["attempted to acquire a connection on a closed pool"]
  | .disconnected =>
    ["error communicating with database: expected to read 5 bytes, got 0 bytes at EOF",
      "expected to read 5 bytes, got 0 bytes at EOF"]
  | .unreachable => ["no driver for this database"]
  | .unexpectedNull column =>
    ["error occurred while decoding column " ++ column ++
        ": unexpected null; try decoding as an `Option`",
      "unexpected null; try decoding as an `Option`"]
  | .rejected _ _ _ message => ["error returned from database: " ++ message, message]

/-- The constraint that a statement broke: `none` when the fault is not about a constraint, and
`some none` when it is but the constraint has no name. -/
def brokenConstraint? : DatabaseFault → Option (Option String)
  | .rejected .other _ _ _ => none
  | .rejected _ _ constraint _ => some constraint
  | _ => none

end DatabaseFault

inductive MigrationFault
  /-- A migration was applied that is not known here. -/
  | missing (version : Nat)
  /-- A migration was applied in another wording. -/
  | modified (version : Nat)
  /-- A migration was begun and not finished. -/
  | dirty (version : Nat)
  | refused (version : Nat) (fault : DatabaseFault)
  deriving DecidableEq, Repr

def MigrationFault.causes : MigrationFault → List String
  | .missing version =>
    ["migration " ++ toString version ++
      " was previously applied but is missing in the resolved migrations"]
  | .modified version =>
    ["migration " ++ toString version ++ " was previously applied but has been modified"]
  | .dirty version =>
    ["migration " ++ toString version ++
      " is partially applied; fix and remove row from `_sqlx_migrations` table"]
  | .refused version fault =>
    ("while executing migration " ++ toString version ++ ": " ++ fault.causes.headD "") ::
      fault.causes

inductive StoreError
  | migrationFailed (fault : MigrationFault)
  | connectFailed (fault : DatabaseFault)
  | queryFailed (operation : String) (fault : DatabaseFault)
  | constraintViolated (operation : String) (constraint : Option String) (fault : DatabaseFault)
  | boundExceeded (overflow : Overflow)
  | recordNotFound (lookup : Lookup)
  | nonNumericCounter (name : String) (value : Option String)
  | counterOverflow (name : String)
  | invalidSetting (setting reason : String)
  | interrupted (operation : String) (reason : Interruption)
  deriving DecidableEq, Repr

namespace StoreError

/-- A database fault met by `operation`: a broken constraint is told apart from the rest. -/
def ofFault (operation : String) (fault : DatabaseFault) : StoreError :=
  match fault.brokenConstraint? with
  | some constraint => .constraintViolated operation constraint fault
  | none => .queryFailed operation fault

def kind : StoreError → ErrorKind
  | .recordNotFound _ => .notFound
  | .nonNumericCounter _ _ | .invalidSetting _ _ => .validation
  | .interrupted _ _ => .cancelled
  | .migrationFailed _ | .connectFailed _ | .queryFailed _ _ | .constraintViolated _ _ _
  | .boundExceeded _ | .counterOverflow _ => .storage

def message : StoreError → String
  | .migrationFailed _ => "migration failed"
  | .connectFailed _ => "failed to connect to database"
  | .queryFailed operation _ => "database operation failed: " ++ operation
  | .constraintViolated operation (some constraint) _ =>
    operation ++ " violated constraint " ++ constraint
  | .constraintViolated operation none _ => operation ++ " violated a table constraint"
  | .boundExceeded o =>
    o.column ++ " is " ++ toString o.actual ++ " bytes, exceeding the " ++ toString o.limit ++
      " byte limit"
  | .recordNotFound lookup => "no config record with " ++ lookup.describe
  | .nonNumericCounter name (some value) =>
    "counter '" ++ name ++ "' holds non-numeric '" ++ value ++ "'"
  | .nonNumericCounter name none => "counter '" ++ name ++ "' holds a non-numeric value"
  | .counterOverflow name => "counter '" ++ name ++ "' is outside the 64-bit range"
  | .invalidSetting setting reason => "invalid setting " ++ setting ++ ": " ++ reason
  | .interrupted operation reason => operation ++ " interrupted: " ++ reason.message

def causes : StoreError → List String
  | .migrationFailed fault => fault.causes
  | .connectFailed fault | .queryFailed _ fault | .constraintViolated _ _ fault => fault.causes
  | _ => []

end StoreError

end PolicyStore
