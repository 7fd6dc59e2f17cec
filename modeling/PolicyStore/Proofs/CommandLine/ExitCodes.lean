import PolicyStore.Proofs.CommandLine.Performing
import PolicyStore.Proofs.Service.Forwarding

/-!
# Failures of the record store and exit codes

A failure of the record store becomes one of the service and then one of the command, and it keeps its
kind on this way. The kind decides the exit code. So a command whose call to the record store fails asks
for nothing more and ends with the exit code of this failure.
-/

namespace PolicyStore

variable {σ α : Type}

/-! ## Kinds of failures -/

/-- The exit code for a kind of failures. -/
def ErrorKind.exitCode : ErrorKind → Nat
  | .notFound => 4
  | .validation => 2
  | .storage | .cancelled => 3

theorem CommandError.exitCode_ofPolicyError (error : PolicyError) :
    (ofPolicyError error).exitCode = error.kind.exitCode := by
  rw [ofPolicyError]
  cases error.kind <;> rfl

theorem CommandError.exitCode_ofStoreError (fault : StoreError) :
    (ofPolicyError (.ofStoreError fault)).exitCode = fault.kind.exitCode := by
  rw [exitCode_ofPolicyError, PolicyError.kind_ofStoreError]

/-! ## The calls of a command -/

theorem Operation.perform_keeping_calls (operation : Operation α) (records : RecordStore σ)
    (interrupt : Interrupt) (signal : Option Nat) (state : σ) :
    (operation.perform (RecordStore.keeping records) interrupt signal (state, [])).state.2.map
        StoreCall.request <+:
      (operation.calls records interrupt signal state).map StoreCall.request := by
  cases operation with
  | refused error => exact List.prefix_refl _
  | guarded title program =>
    rw [perform, calls]
    split
    · exact List.prefix_refl _
    · exact program.run_keeping_calls records interrupt signal 0 state []

namespace Command

/-- The calls to the record store that a command makes, each with the answer that it comes back with. -/
def calls (command : Command) (format : OutputFormat) (files : Files) (service : Service σ)
    (signal : Option Nat) : List StoreCall :=
  match command.operation service.registry format files with
  | .error _ => []
  | .ok operation => operation.calls service.records service.interrupt signal service.state

/-- The requests that the record store gets for a command. -/
def received (command : Command) (format : OutputFormat) (files : Files) (service : Service σ)
    (signal : Option Nat) : List Request :=
  (command.perform format files service.keeping signal).2.1.state.2.map StoreCall.request

variable {command : Command} {format : OutputFormat} {files : Files}

theorem received_calls (command : Command) (format : OutputFormat) (files : Files)
    (service : Service σ) (signal : Option Nat) :
    command.received format files service signal <+:
      (command.calls format files service signal).map StoreCall.request := by
  have hregistry : service.keeping.registry = service.registry := rfl
  rw [received, perform, calls, hregistry]
  cases command.operation service.registry format files with
  | error error => exact List.prefix_refl _
  | ok operation =>
    exact operation.perform_keeping_calls service.records service.interrupt signal service.state

/-- Every command passes on the failures of its operation. -/
theorem forwards_operation {registry : Registry} {operation : Operation Result}
    (h : command.operation registry format files = .ok operation) : operation.Forwards := by
  cases hoffer : command.offer files with
  | error error =>
    rw [operation_of_offer_error hoffer] at h
    cases h
  | ok offer =>
    obtain ⟨f, hoperation, -⟩ := operation_of_offer_ok hoffer registry format
    rw [hoperation] at h
    cases h
    exact (offer.forwards_operation registry).map f

/-- What becomes of a call that fails: no other call follows it, and the command fails with it and with
the exit code of its kind. -/
structure PassesOn (calls : List StoreCall) (result : Option Result) (call : StoreCall)
    (fault : StoreError) : Prop where
  last : call.EndsCalls calls
  told : result = some (.error (.ofPolicyError (.ofStoreError fault)))
  exits : ∃ error, result = some (.error error) ∧ error.exitCode = fault.kind.exitCode

/-- Whatever a record store answers, a command asks it for nothing after a call that fails, and fails
with the exit code for this failure. -/
theorem failures_reach_exit (command : Command) (format : OutputFormat) (files : Files)
    (service : Service σ) (signal : Option Nat) :
    command.received format files service signal <+:
        (command.calls format files service signal).map StoreCall.request ∧
      ∀ call ∈ command.calls format files service signal, ∀ fault, call.FailsWith fault →
        PassesOn (command.calls format files service signal)
          (command.perform format files service signal).1 call fault := by
  refine ⟨received_calls command format files service signal, fun call hcall fault hfault => ?_⟩
  rw [calls] at hcall ⊢
  rw [perform]
  cases hoperation : command.operation service.registry format files with
  | error error =>
    rw [hoperation] at hcall
    cases hcall
  | ok operation =>
    rw [hoperation] at hcall
    obtain ⟨hends, hresult⟩ :=
      Operation.Forwards.perform (forwards_operation hoperation) hcall hfault
    have htold : (service.perform (fun _ => operation) signal).1.map conclude =
        some (.error (.ofPolicyError (.ofStoreError fault))) := by
      rw [Service.perform, hresult]
      rfl
    exact ⟨hends, htold, _, htold, CommandError.exitCode_ofStoreError fault⟩

/-- A service whose record store takes its time and then fails, with a signal and a deadline. -/
def failingService (fault : StoreError) : Service Unit :=
  ⟨fun _ _ => ⟨2, (), some 3, .error fault⟩, (), .builtin, ⟨some .fresh, some (.ofMillis 10)⟩⟩

/-- A record that is not there, a counter that is no number and one that cannot grow, and a record store
that stops by itself: each has its exit code, also when a signal comes after the answer. -/
theorem failures_reach_exit_four :
    (∃ error, ((showPolicyById .allowList 7).perform .json noFiles
        (failingService (.recordNotFound (.byId 7))) (some 6)).1 = some (.error error) ∧
      error.exitCode = 4) ∧
    (∃ error, (readReorg.perform .table noFiles
        (failingService (.nonNumericCounter reorgKey none)) none).1 = some (.error error) ∧
      error.exitCode = 2) ∧
    (∃ error, (bumpReorg.perform .table noFiles
        (failingService (.counterOverflow reorgKey)) none).1 = some (.error error) ∧
      error.exitCode = 3) ∧
    ∃ error, ((deleteRecord "a").perform .table noFiles
        (failingService (.interrupted "delete" .cancelled)) none).1 = some (.error error) ∧
      error.exitCode = 3 := by
  obtain ⟨-, hmissing⟩ := failures_reach_exit (showPolicyById .allowList 7) .json noFiles
    (failingService (.recordNotFound (.byId 7))) (some 6)
  obtain ⟨-, hunread⟩ := failures_reach_exit readReorg .table noFiles
    (failingService (.nonNumericCounter reorgKey none)) none
  obtain ⟨-, hfull⟩ := failures_reach_exit bumpReorg .table noFiles
    (failingService (.counterOverflow reorgKey)) none
  obtain ⟨-, hstopped⟩ := failures_reach_exit (deleteRecord "a") .table noFiles
    (failingService (.interrupted "delete" .cancelled)) none
  exact ⟨(hmissing _ (List.mem_singleton_self _) _ rfl).exits,
    (hunread _ (List.mem_singleton_self _) _ rfl).exits,
    (hfull _ (List.mem_singleton_self _) _ rfl).exits,
    (hstopped _ (List.mem_singleton_self _) _ rfl).exits⟩

end Command

end PolicyStore
