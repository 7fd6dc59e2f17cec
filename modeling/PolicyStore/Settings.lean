import PolicyStore.Duration
import PolicyStore.StoreError
import PolicyStore.Text.Blank
import PolicyStore.Text.Numeral

/-!
# Connection settings

Settings come from named variables. The connection string is required and taken as it stands; the
numeric overrides are optional and have to be positive. The first variable at fault is reported.
-/

namespace PolicyStore

structure Settings where
  databaseUrl : String
  maxConnections : UInt32
  acquireTimeoutSecs : UInt64
  statementDeadlineMs : Option UInt64
  deriving DecidableEq, Repr

namespace Settings

inductive Variable
  | databaseUrl
  | maxConnections
  | acquireTimeoutSecs
  | statementDeadlineMs
  deriving DecidableEq, Repr

def Variable.name : Variable → String
  | .databaseUrl => "RPCGATE_DATABASE_URL"
  | .maxConnections => "RPCGATE_DB_MAX_CONNECTIONS"
  | .acquireTimeoutSecs => "RPCGATE_DB_ACQUIRE_TIMEOUT_SECS"
  | .statementDeadlineMs => "RPCGATE_DB_STATEMENT_DEADLINE_MS"

/-- Pooled connections when nothing else is said. -/
def defaultMaxConnections : UInt32 := 8

/-- Seconds to wait for a pooled connection when nothing else is said. -/
def defaultAcquireTimeoutSecs : UInt64 := 10

/-- Reads a number from 1 to `bound` with blanks around it. -/
def readPositive (bound : Nat) (source : Variable) (raw : String) : Except StoreError Nat :=
  match Text.readNat bound (Text.trim raw.toList) with
  | .ok (n + 1) => .ok (n + 1)
  | _ => .error (.invalidSetting source.name "must be a positive integer")

/-- An optional override: absent is fine, present has to be a positive number. -/
def readOverride (bound : Nat) (source : Variable) (lookup : Variable → Option String) :
    Except StoreError (Option Nat) :=
  match lookup source with
  | none => .ok none
  | some raw => (readPositive bound source raw).map some

def ofLookup (lookup : Variable → Option String) : Except StoreError Settings := do
  let url ←
    match lookup .databaseUrl with
    | some url =>
      if Text.isBlankText url then
        .error (.invalidSetting Variable.databaseUrl.name "must be set")
      else .ok url
    | none => .error (.invalidSetting Variable.databaseUrl.name "must be set")
  let connections ← readOverride (UInt32.size - 1) .maxConnections lookup
  let timeout ← readOverride (UInt64.size - 1) .acquireTimeoutSecs lookup
  let deadline ← readOverride (UInt64.size - 1) .statementDeadlineMs lookup
  return {
    databaseUrl := url
    maxConnections := (connections.map UInt32.ofNat).getD defaultMaxConnections
    acquireTimeoutSecs := (timeout.map UInt64.ofNat).getD defaultAcquireTimeoutSecs
    statementDeadlineMs := deadline.map UInt64.ofNat }

end Settings

end PolicyStore
