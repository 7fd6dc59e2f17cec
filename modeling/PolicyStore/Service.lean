import PolicyStore.RecordStore.Memory
import PolicyStore.Service.Operation

/-!
# The policy service

A service is a record store with the registry and the policy for interruption under which operations
run on it. It keeps no policies of its own: every operation asks the store.
-/

namespace PolicyStore

/-- A service over the record store `records`, which is in the given state. -/
structure Service (σ : Type) where
  records : RecordStore σ
  state : σ
  registry : Registry
  interrupt : Interrupt

namespace Service

variable {σ α : Type}

/-- Performs an operation that depends on the registry; the signal would be given at `signal`. A
signal once given stays given. -/
def perform (service : Service σ) (operation : Registry → Operation α) (signal : Option Nat) :
    Option (Except PolicyError α) × Service σ × List Skipped :=
  let outcome :=
    (operation service.registry).perform service.records service.interrupt signal service.state
  (outcome.result, { service with state := outcome.state, interrupt := outcome.interrupt },
    outcome.skipped)

/-- A service over an empty table of records, which answers at once. -/
def inMemory (registry : Registry) : Service Memory :=
  ⟨Memory.paced .instant, .empty, registry, .unbounded⟩

end Service

structure Connection (σ : Type) where
  records : RecordStore σ
  state : σ

def Connection.service {σ : Type} (connection : Connection σ) (interrupt : Interrupt) : Service σ :=
  ⟨connection.records, connection.state, .builtin, interrupt⟩

end PolicyStore
