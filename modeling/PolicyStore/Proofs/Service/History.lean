import PolicyStore.Proofs.RecordStore.History
import PolicyStore.Proofs.Service.Direct

/-!
# Histories of a service in memory

A history is a list of calls that may write, performed one after the other, each of which may
succeed, fail or be interrupted. A call makes at most one request, so what holds of requests
carries over: as long as ids are left, the table stays sound and only ever grows older.
-/

namespace PolicyStore

/-- What a call that may write asks for. -/
inductive Action
  | upsert (name value : String)
  | delete (name : String)
  | store (domain : Domain) (policy : Policy domain)
  | remove (domain : Domain) (name : String)
  | bump

/-- A call: an action with the policy under which it may be interrupted and the time at which the
signal would be given. -/
structure Call where
  action : Action
  interrupt : Interrupt := .unbounded
  signal : Option Nat := none

/-- The table is what a request makes of an earlier one. -/
def Memory.Answered (memory after : Memory) : Prop :=
  ∃ request, (memory.answer request).2 = after

theorem Memory.Answered.effect {memory after : Memory} (h : memory.Answered after) :
    memory.Effect after := by
  obtain ⟨request, rfl⟩ := h
  exact memory.effect_answer request

namespace Service

/-- The service after an action whose signal would be given at `signal`. -/
def act (service : Service Memory) (signal : Option Nat) : Action → Service Memory
  | .upsert name value => (service.perform (fun _ => upsert name value) signal).2.1
  | .delete name => (service.perform (fun _ => delete name) signal).2.1
  | .store _ policy => (service.perform (store · policy) signal).2.1
  | .remove domain name => (service.perform (remove · domain name) signal).2.1
  | .bump => (service.perform (fun _ => bumpReorgVersion) signal).2.1

/-- The service after a call, under the policy that it had before. -/
def afterCall (service : Service Memory) (call : Call) : Service Memory :=
  { service with state := ((service.under call.interrupt).act call.signal call.action).state }

/-- The service after a history. -/
def after (service : Service Memory) (calls : List Call) : Service Memory :=
  calls.foldl afterCall service

/-- The number of rows that were created in a history. -/
def creations (service : Service Memory) : List Call → Nat
  | [] => 0
  | call :: calls =>
    service.state.creations (service.afterCall call).state +
      (service.afterCall call).creations calls

theorem after_append (service : Service Memory) (early late : List Call) :
    service.after (early ++ late) = (service.after early).after late :=
  List.foldl_append

theorem creations_append (service : Service Memory) (early late : List Call) :
    service.creations (early ++ late) =
      service.creations early + (service.after early).creations late := by
  induction early generalizing service with
  | nil => simp [creations, after]
  | cons call early ih =>
    rw [List.cons_append, creations, ih, creations, Nat.add_assoc]
    rfl

theorem creations_mono (service : Service Memory) {past calls : List Call}
    (h : past <+: calls) : service.creations past ≤ service.creations calls := by
  obtain ⟨rest, rfl⟩ := h
  rw [creations_append]
  exact Nat.le_add_right _ _

/-! ## Calls as requests -/

variable {α : Type} {registry : Registry} {memory : Memory}

/-- A table that is left alone is what a reading request makes of it. -/
theorem answered_self (memory : Memory) : memory.Answered memory := ⟨.loadRecords [], rfl⟩

/-- A request whose reply is the result does to the table what the request does. -/
theorem answered_request (request : Request) (memory : Memory) :
    memory.Answered ((Program.request request .pure).eval memory).memory := by
  refine ⟨request, ?_⟩
  rw [Program.eval_request]
  cases (memory.answer request).1 <;> rfl

theorem answered_after {β : Type} (check : Except PolicyError β) (next : β → Operation α)
    (memory : Memory) (h : ∀ b, memory.Answered ((next b).eval memory).memory) :
    memory.Answered ((Operation.after check next).eval memory).memory := by
  cases hcheck : check with
  | error error => exact answered_self memory
  | ok b => exact h b

theorem answered_store (registry : Registry) {domain : Domain} (policy : Policy domain)
    (memory : Memory) : memory.Answered ((store registry policy).eval memory).memory := by
  refine answered_after _ _ memory fun key => answered_after _ _ memory fun payload => ?_
  exact answered_request (.upsert key payload) memory

theorem answered_remove (registry : Registry) (domain : Domain) (name : String)
    (memory : Memory) : memory.Answered ((remove registry domain name).eval memory).memory := by
  refine answered_after _ _ memory fun key => ?_
  exact answered_request (.delete key) memory

theorem answered_perform {operation : Registry → Operation α}
    (h : memory.Answered ((operation registry).eval memory).memory) (interrupt : Interrupt)
    (signal : Option Nat) :
    memory.Answered
      (((onTable registry memory).under interrupt).perform operation signal).2.1.state := by
  rcases perform_under operation registry memory interrupt signal with ⟨-, hsame⟩ | ⟨-, hdone⟩
  · rw [hsame]
    exact answered_self memory
  · rw [hdone]
    exact h

theorem answered_act (registry : Registry) (memory : Memory) (interrupt : Interrupt)
    (signal : Option Nat) (action : Action) :
    memory.Answered (((onTable registry memory).under interrupt).act signal action).state := by
  cases action with
  | upsert name value =>
    exact answered_perform (answered_request (.upsert name value) memory) interrupt signal
  | delete name => exact answered_perform (answered_request (.delete name) memory) interrupt signal
  | store domain policy =>
    exact answered_perform (answered_store registry policy memory) interrupt signal
  | remove domain name =>
    exact answered_perform (answered_remove registry domain name memory) interrupt signal
  | bump => exact answered_perform (answered_request (.increment reorgKey) memory) interrupt signal

theorem afterCall_onTable (registry : Registry) (memory : Memory) (call : Call) :
    ∃ next, (onTable registry memory).afterCall call = onTable registry next ∧
      memory.Answered next :=
  ⟨_, rfl, answered_act registry memory call.interrupt call.signal call.action⟩

/-! ## Histories -/

theorem creations_le_length (registry : Registry) (memory : Memory) (calls : List Call) :
    (onTable registry memory).creations calls ≤ calls.length := by
  induction calls generalizing memory with
  | nil => exact Nat.le_refl 0
  | cons call calls ih =>
    obtain ⟨next, hnext, hanswered⟩ := afterCall_onTable registry memory call
    have hfirst := hanswered.effect.creations_le_one
    have hrest := ih next
    rw [creations, hnext, List.length_cons]
    change memory.creations next + _ ≤ _
    omega

/-- A history does to the table what some requests do, one after the other. -/
theorem after_requests (registry : Registry) (memory : Memory) (calls : List Call) :
    ∃ requests, (onTable registry memory).after calls =
      onTable registry (memory.after requests) := by
  induction calls generalizing memory with
  | nil => exact ⟨[], rfl⟩
  | cons call calls ih =>
    obtain ⟨_, hnext, request, rfl⟩ := afterCall_onTable registry memory call
    obtain ⟨requests, hrequests⟩ := ih (memory.answer request).2
    refine ⟨request :: requests, ?_⟩
    rw [after, List.foldl_cons, hnext]
    exact hrequests

theorem leads_after (registry : Registry) (memory : Memory) (calls : List Call) :
    ∃ later, (onTable registry memory).after calls = onTable registry later ∧
      memory.Leads ((onTable registry memory).creations calls) later := by
  induction calls generalizing memory with
  | nil => exact ⟨memory, rfl, .refl memory⟩
  | cons call calls ih =>
    obtain ⟨next, hnext, hanswered⟩ := afterCall_onTable registry memory call
    obtain ⟨later, hlater, hleads⟩ := ih next
    refine ⟨later, ?_, ?_⟩
    · rw [after, List.foldl_cons, hnext]
      exact hlater
    · rw [creations, hnext]
      exact .step hanswered.effect hleads

/-- After a history the table is sound and follows the one from before it. -/
theorem after_onTable {created : Nat} (hs : memory.Sound created) {calls : List Call}
    (hbound : created + (onTable registry memory).creations calls < 2 ^ 63) :
    ∃ later, (onTable registry memory).after calls = onTable registry later ∧
      later.Sound (created + (onTable registry memory).creations calls) ∧ memory.Follows later := by
  obtain ⟨later, hlater, hleads⟩ := leads_after registry memory calls
  exact ⟨later, hlater, Memory.counted_sound.leads hleads hs hbound, hleads.follows hs hbound⟩

/-- What a history from the empty table comes to. -/
theorem after_inMemory (registry : Registry) {calls : List Call}
    (hbound : (inMemory registry).creations calls < 2 ^ 63) :
    ∃ memory, (inMemory registry).after calls = onTable registry memory ∧
      memory.Sound ((inMemory registry).creations calls) := by
  rw [inMemory_eq] at hbound ⊢
  have hfrom : 0 + (onTable registry .empty).creations calls < 2 ^ 63 := by rwa [Nat.zero_add]
  obtain ⟨memory, hmemory, hsound, -⟩ := after_onTable Memory.sound_empty hfrom
  rw [Nat.zero_add] at hsound
  exact ⟨memory, hmemory, hsound⟩

end Service

end PolicyStore
