import PolicyStore.CommandLine.Command
import PolicyStore.Proofs.Service.Asking

/-!
# Commands as offers of the service

A command takes up one offer of the service and makes a report of what this gives. Before that only a
payload file can fail. A report says that nothing was found only when nothing was changed.
-/

namespace PolicyStore

variable {σ α β : Type}

/-! ## Operations behind commands -/

theorem Program.eval_mapResult (f : Except PolicyError α → Except PolicyError β)
    (program : Program α) (memory : Memory) :
    (program.mapResult f).eval memory =
      ⟨f (program.eval memory).result, (program.eval memory).memory,
        (program.eval memory).skipped⟩ := by
  induction program generalizing memory with
  | done result => rfl
  | report skipped next ih => simp only [mapResult, eval, ih]
  | ask request next ih => exact ih _ _

theorem Operation.eval_map (f : α → β) (operation : Operation α) (memory : Memory) :
    (operation.map f).eval memory =
      ⟨(operation.eval memory).result.map f, (operation.eval memory).memory,
        (operation.eval memory).skipped⟩ := by
  cases operation with
  | refused error => rfl
  | guarded name program => rw [map, eval, Program.eval_mapResult, eval]

/-- A file system without files. -/
def noFiles : Files := fun _ => .error .missing

namespace Command

/-- A command prints what it makes of the value that its operation gives. -/
theorem perform_onTable (command : Command) (operation : Operation α) (f : α → Result)
    {registry : Registry} {format : OutputFormat} {files : Files}
    (h : command.operation registry format files = .ok (operation.map f)) {memory : Memory} {a : α}
    (ha : (operation.eval memory).result = .ok a) :
    (command.perform format files (Service.onTable registry memory) none).1 = some (f a) := by
  have hcommand : command.operation (Service.onTable registry memory).registry format files =
      .ok (operation.map f) := h
  simp only [perform, hcommand, Service.perform_onTable, Operation.eval_map, ha]
  rfl

/-- A command leaves the table as its operation does. -/
theorem state_onTable (command : Command) (operation : Operation α) (f : α → Result)
    {registry : Registry} {format : OutputFormat} {files : Files}
    (h : command.operation registry format files = .ok (operation.map f)) (memory : Memory) :
    (command.perform format files (Service.onTable registry memory) none).2.1.state =
      (operation.eval memory).memory := by
  have hcommand : command.operation (Service.onTable registry memory).registry format files =
      .ok (operation.map f) := h
  simp only [perform, hcommand, Service.perform_onTable, Operation.eval_map]
  rfl

/-! ## The offer of a command -/

/-- The offer that a command takes up. -/
def offer (files : Files) : Command → Except CommandError Service.Offer
  | .getRecords names => .ok (.loadByNames names)
  | .setRecord name value => .ok (.upsert name value)
  | .deleteRecord name => .ok (.delete name)
  | .listPolicies domain => .ok (.policies (.loadAll domain))
  | .showPolicy domain name => .ok (.policies (.load domain name))
  | .showPolicyById domain id => .ok (.policies (.loadById domain id))
  | .putPolicy domain name path =>
    (policyInFile files domain name path).map fun policy => .policies (.store domain policy)
  | .removePolicy domain name => .ok (.policies (.remove domain name))
  | .setRouteGroup name nodes => .ok (.policies (.store .routeGroup ⟨0, name, ⟨nodes⟩⟩))
  | .readReorg => .ok .reorgVersion
  | .bumpReorg => .ok .bumpReorgVersion

theorem printed_ne_error {text : String} {error : CommandError} : printed text ≠ .error error := by
  intro h
  cases h

theorem removal_eq_error {text missing : String} {existed : Bool} {error : CommandError}
    (h : removal text missing existed = .error error) : existed = false := by
  cases existed with
  | false => rfl
  | true => exact absurd h printed_ne_error

variable {command : Command} {format : OutputFormat} {files : Files} {offer : Service.Offer}

theorem policyInFile_of_text {domain : Domain} {name path text : String}
    (h : files path = .ok text) :
    policyInFile files domain name path =
      (Policy.ofPayload domain 0 name text).mapError CommandError.ofPolicyError := by
  rw [policyInFile, Files.read, h]
  rfl

theorem policyInFile_eq_ok {domain : Domain} {name path : String} {policy : Policy domain}
    (h : policyInFile files domain name path = .ok policy) :
    ∃ text, files path = .ok text ∧ Policy.ofPayload domain 0 name text = .ok policy := by
  cases htext : files path with
  | error fault =>
    rw [policyInFile, Files.read, htext] at h
    cases h
  | ok text =>
    rw [policyInFile_of_text htext] at h
    cases hpolicy : Policy.ofPayload domain 0 name text with
    | error error =>
      rw [hpolicy] at h
      cases h
    | ok found =>
      rw [hpolicy] at h
      cases h
      exact ⟨text, rfl, hpolicy⟩

theorem offer_putPolicy {domain : Domain} {name path : String}
    (h : (Command.putPolicy domain name path).offer files = .ok offer) :
    ∃ policy, policyInFile files domain name path = .ok policy ∧
      offer = .policies (.store domain policy) := by
  rw [Command.offer] at h
  cases hfile : policyInFile files domain name path with
  | error fault =>
    rw [hfile] at h
    cases h
  | ok policy =>
    rw [hfile] at h
    cases h
    exact ⟨policy, rfl, rfl⟩

theorem operation_of_offer_error {error : CommandError} (h : command.offer files = .error error)
    (registry : Registry) (format : OutputFormat) :
    command.operation registry format files = .error error := by
  cases command with
  | putPolicy domain name path =>
    rw [Command.offer] at h
    rw [operation]
    cases hfile : policyInFile files domain name path with
    | error fault =>
      rw [hfile] at h
      cases h
      rfl
    | ok policy =>
      rw [hfile] at h
      cases h
  | _ => cases h

/-- A command makes something of what its offer gives, and this is a failure only when there was
nothing to change. -/
theorem operation_of_offer_ok (h : command.offer files = .ok offer) (registry : Registry)
    (format : OutputFormat) : ∃ f : offer.Reply → Result,
      command.operation registry format files = .ok ((offer.operation registry).map f) ∧
      ∀ reply error, f reply = .error error → offer.Undone reply := by
  cases command with
  | setRecord name value =>
    cases h
    exact ⟨_, rfl, fun _ _ hfailed => absurd hfailed printed_ne_error⟩
  | deleteRecord name =>
    cases h
    exact ⟨_, rfl, fun _ _ hfailed => removal_eq_error hfailed⟩
  | putPolicy domain name path =>
    obtain ⟨policy, hfile, rfl⟩ := offer_putPolicy h
    rw [operation, hfile]
    exact ⟨_, rfl, fun _ _ hfailed => absurd hfailed printed_ne_error⟩
  | removePolicy domain name =>
    cases h
    exact ⟨_, rfl, fun _ _ hfailed => removal_eq_error hfailed⟩
  | setRouteGroup name nodes =>
    cases h
    exact ⟨_, rfl, fun _ _ hfailed => absurd hfailed printed_ne_error⟩
  | bumpReorg =>
    cases h
    exact ⟨_, rfl, fun _ _ hfailed => absurd hfailed printed_ne_error⟩
  -- the rest only shows what it reads
  | _ =>
    cases h
    exact ⟨_, rfl, fun _ _ _ => rfl⟩

/-! ## Performing a command -/

theorem perform_of_offer_error {error : CommandError} (h : command.offer files = .error error)
    (service : Service σ) (signal : Option Nat) :
    command.perform format files service signal = (some (.error error), service, []) := by
  rw [perform, operation_of_offer_error h]

theorem perform_of_offer_ok (h : command.offer files = .ok offer) (format : OutputFormat)
    (service : Service σ) (signal : Option Nat) : ∃ f : offer.Reply → Result,
      command.perform format files service signal =
        (((service.perform (fun registry => (offer.operation registry).map f) signal).1.map conclude,
          (service.perform (fun registry => (offer.operation registry).map f) signal).2)) ∧
      ∀ reply error, f reply = .error error → offer.Undone reply := by
  obtain ⟨f, hoperation, hundone⟩ := operation_of_offer_ok h service.registry format
  refine ⟨f, ?_, hundone⟩
  rw [perform, hoperation]
  rfl

end Command

end PolicyStore
