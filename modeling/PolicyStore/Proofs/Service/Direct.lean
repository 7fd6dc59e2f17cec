import PolicyStore.Proofs.Namespace.Keys
import PolicyStore.Service

/-!
# Operations on a table that answers at once

Without waits an operation is a function of the table: it has a result and leaves a table behind.
`Operation.eval` is this function, and performing an operation on a service in memory computes it,
unless the signal to stop has been given before. For the operations on a domain it is told what it
is.
-/

namespace PolicyStore

/-- What an operation comes to: its result, the table that it leaves, and the records left out. -/
structure Reached (α : Type) where
  result : Except PolicyError α
  memory : Memory
  skipped : List Skipped

variable {α β : Type}

/-- What a program comes to on a table. -/
def Program.eval : Program α → Memory → Reached α
  | .done result, memory => ⟨result, memory, []⟩
  | .report skipped next, memory =>
    { next.eval memory with skipped := skipped ++ (next.eval memory).skipped }
  | .ask request next, memory =>
    (next (memory.answer request).1).eval (memory.answer request).2

/-- What an operation comes to on a table. -/
def Operation.eval : Operation α → Memory → Reached α
  | .refused error, memory => ⟨.error error, memory, []⟩
  | .guarded _ program, memory => program.eval memory

/-- Where nothing waits, nothing is interrupted. -/
theorem Program.run_instant (program : Program α) (interrupt : Interrupt) (signal : Option Nat)
    (time : Nat) (memory : Memory) :
    program.run (Memory.paced .instant) interrupt signal time memory =
      ⟨.ok (program.eval memory).result, (program.eval memory).memory,
        (program.eval memory).skipped⟩ := by
  induction program generalizing time memory with
  | done result => rfl
  | report skipped next ih => simp only [run, eval, ih]
  | ask request next ih => exact ih _ time _

theorem Program.eval_request (request : Request) (next : request.Reply → Program α)
    (memory : Memory) :
    (Program.request request next).eval memory =
      match (memory.answer request).1 with
      | .ok reply => (next reply).eval (memory.answer request).2
      | .error fault => ⟨.error (.ofStoreError fault), (memory.answer request).2, []⟩ := by
  rw [Program.request, eval]
  cases (memory.answer request).1 <;> rfl

theorem Operation.eval_after_ok {check : Except PolicyError β} {b : β} (h : check = .ok b)
    (next : β → Operation α) (memory : Memory) :
    (Operation.after check next).eval memory = (next b).eval memory := by
  rw [h]
  rfl

theorem Operation.eval_after_error {check : Except PolicyError β} {error : PolicyError}
    (h : check = .error error) (next : β → Operation α) (memory : Memory) :
    (Operation.after check next).eval memory = ⟨.error error, memory, []⟩ := by
  rw [h]
  rfl

namespace Service

/-- The service over a table that answers at once. -/
def onTable (registry : Registry) (memory : Memory) : Service Memory :=
  ⟨Memory.paced .instant, memory, registry, .unbounded⟩

theorem inMemory_eq (registry : Registry) : inMemory registry = onTable registry .empty := rfl

theorem perform_onTable (operation : Registry → Operation α) (registry : Registry)
    (memory : Memory) :
    (onTable registry memory).perform operation none =
      (some ((operation registry).eval memory).result,
        onTable registry ((operation registry).eval memory).memory,
        ((operation registry).eval memory).skipped) := by
  rw [perform, onTable]
  dsimp only
  cases operation registry with
  | refused error => rfl
  | guarded name program =>
    rw [Operation.perform, Program.run_instant]
    rfl

/-- The same service under another policy for interruption. -/
def under (service : Service Memory) (interrupt : Interrupt) : Service Memory :=
  { service with interrupt := interrupt }

/-- An operation that may be interrupted fails and does nothing, or it is carried out in full. -/
theorem perform_under (operation : Registry → Operation α) (registry : Registry) (memory : Memory)
    (interrupt : Interrupt) (signal : Option Nat) :
    ((∃ error, (((onTable registry memory).under interrupt).perform operation signal).1 =
        some (.error error)) ∧
      (((onTable registry memory).under interrupt).perform operation signal).2.1.state = memory) ∨
    ((((onTable registry memory).under interrupt).perform operation signal).1 =
        some ((operation registry).eval memory).result ∧
      (((onTable registry memory).under interrupt).perform operation signal).2.1.state =
        ((operation registry).eval memory).memory) := by
  rw [perform, under, onTable]
  dsimp only
  cases operation registry with
  | refused error => exact .inl ⟨⟨error, rfl⟩, rfl⟩
  | guarded name program =>
    rw [Operation.perform]
    by_cases hgiven : interrupt.isGiven = true
    · rw [if_pos hgiven]
      exact .inl ⟨⟨_, rfl⟩, rfl⟩
    · rw [if_neg hgiven, Program.run_instant]
      exact .inr ⟨rfl, rfl⟩

/-! ## Operations on a registered domain -/

theorem require_eq_ok {registry : Registry} {domain : Domain}
    (h : registry.isRegistered domain.namePrefix = true) :
    registry.require domain.namePrefix = .ok () := by
  rw [Registry.require, if_pos h]

theorem builtin_isRegistered (domain : Domain) :
    Registry.builtin.isRegistered domain.namePrefix = true := by
  cases domain <;> decide

variable {registry : Registry} {domain : Domain}

theorem domainKey_ok (h : registry.isRegistered domain.namePrefix = true) {name : String}
    (hname : name ≠ "") : domainKey registry domain name = .ok (domain.key name) := by
  have hkey : decodeKey domain.namePrefix (domain.key name) = .ok name :=
    decodeKey_encodeKey hname domain.namePrefix
  simp only [domainKey, require_eq_ok h, bind, Except.bind, hkey]
  rfl

theorem domainKey_empty (h : registry.isRegistered domain.namePrefix = true) :
    domainKey registry domain "" =
      .error (.emptyLogicalName domain.namePrefix (domain.key "")) := by
  have hkey : decodeKey domain.namePrefix (domain.key "") = .error _ :=
    decodeKey_encodeKey_empty domain.namePrefix
  simp only [domainKey, require_eq_ok h, bind, Except.bind, hkey]
  rfl

theorem domainKey_eq_ok {name key : String} (h : domainKey registry domain name = .ok key) :
    name ≠ "" ∧ key = domain.key name := by
  rw [domainKey] at h
  cases hrequire : registry.require domain.namePrefix with
  | error error => simp [hrequire, bind, Except.bind] at h
  | ok _ =>
    cases hdecode : decodeKey domain.namePrefix (domain.key name) with
    | error error => simp [hrequire, hdecode, bind, Except.bind] at h
    | ok decoded =>
      simp only [hrequire, hdecode, bind, Except.bind] at h
      obtain ⟨hname, hkey⟩ := decodeKey_eq_ok_iff.mp hdecode
      refine ⟨?_, (Except.ok.inj h).symm⟩
      rintro rfl
      rw [Domain.key, decodeKey_encodeKey_empty] at hdecode
      exact nomatch hdecode

theorem eval_load (h : registry.isRegistered domain.namePrefix = true) {name : String}
    (hname : name ≠ "") (memory : Memory) :
    ((load registry domain name).eval memory).result =
      match memory.rows[domain.key name]? with
      | none => .error (.notFound (.byName (domain.key name)))
      | some row => Policy.ofRecord domain (row.record (domain.key name)) := by
  rw [load, Operation.eval_after_ok (domainKey_ok h hname), Operation.eval, Program.eval_request]
  simp only [Memory.answer, Memory.loadByName]
  cases memory.rows[domain.key name]? <;> rfl

theorem eval_loadById (h : registry.isRegistered domain.namePrefix = true) (id : RecordId)
    (memory : Memory) :
    ((loadById registry domain id).eval memory).result =
      match memory.loadById id with
      | .error fault => .error (.ofStoreError fault)
      | .ok record => Policy.ofRecord domain record := by
  rw [loadById, Operation.eval_after_ok (require_eq_ok h), Operation.eval, Program.eval_request]
  simp only [Memory.answer]
  cases memory.loadById id <;> rfl

theorem eval_loadAll (h : registry.isRegistered domain.namePrefix = true) (memory : Memory) :
    ((loadAll registry domain).eval memory).result =
      .ok (Snapshot.decode domain (memory.loadByPrefix domain.namePrefix)).1 := by
  rw [loadAll, withSnapshot, require_eq_ok h]
  rfl

theorem eval_loadChanged (h : registry.isRegistered domain.namePrefix = true)
    (previous : Fingerprints) (memory : Memory) :
    ((loadChanged registry domain previous).eval memory).result =
      .ok (Delta.decode domain (memory.loadByPrefix domain.namePrefix) previous).1 := by
  rw [loadChanged, require_eq_ok h]
  rfl

theorem eval_store (h : registry.isRegistered domain.namePrefix = true) {policy : Policy domain}
    {text : String} (hname : policy.name ≠ "") (hpayload : policy.payload = .ok text)
    (memory : Memory) :
    (store registry policy).eval memory =
      ⟨(memory.upsert (domain.key policy.name) text).1.mapError .ofStoreError,
        (memory.upsert (domain.key policy.name) text).2, []⟩ := by
  rw [store, Operation.eval_after_ok (domainKey_ok h hname), Operation.eval_after_ok hpayload,
    Operation.eval, Program.eval_request]
  simp only [Memory.answer]
  cases (memory.upsert (domain.key policy.name) text).1 <;> rfl

theorem eval_remove (h : registry.isRegistered domain.namePrefix = true) {name : String}
    (hname : name ≠ "") (memory : Memory) :
    (remove registry domain name).eval memory =
      ⟨.ok (memory.delete (domain.key name)).1, (memory.delete (domain.key name)).2, []⟩ := by
  rw [remove, Operation.eval_after_ok (domainKey_ok h hname), Operation.eval, Program.eval_request]
  rfl

end Service

end PolicyStore
