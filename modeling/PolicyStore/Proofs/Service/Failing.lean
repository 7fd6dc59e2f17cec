import PolicyStore.Proofs.Interrupting
import PolicyStore.Service

/-!
# Failing with the record store

A program may fail by itself, or because a call to the record store fails. A lenient program does only
the latter, whatever it is answered. What comes of it is then told by the calls that it makes, and
these are kept by the record store itself.
-/

namespace PolicyStore

variable {σ α β : Type}

/-! ## Calls -/

/-- A call to a record store, with its answer if there ever is one. -/
structure StoreCall where
  request : Request
  answer : Option (Answer request)

namespace StoreCall

def FailsWith (call : StoreCall) (fault : StoreError) : Prop :=
  call.answer = some (.error fault)

def Succeeds (call : StoreCall) : Prop :=
  ∃ reply, call.answer = some (.ok reply)

end StoreCall

/-- The same record store, which also keeps the calls that it gets. -/
def RecordStore.keeping (records : RecordStore σ) : RecordStore (σ × List StoreCall) :=
  fun (state, calls) request =>
    let exchange := records state request
    let call : StoreCall := ⟨request, exchange.lag.map fun _ => exchange.answer⟩
    ⟨exchange.lead, (exchange.state, calls ++ [call]), exchange.lag, exchange.answer⟩

namespace Service

/-- The same service over the record store that keeps its calls, which has had none. -/
def keeping (service : Service σ) : Service (σ × List StoreCall) :=
  ⟨RecordStore.keeping service.records, (service.state, []), service.registry, service.interrupt⟩

/-- The calls to the record store that an operation makes. -/
def asked (service : Service σ) (operation : Registry → Operation α) (signal : Option Nat) :
    List StoreCall :=
  (service.keeping.perform operation signal).2.1.state.2

/-- An operation is interrupted when the signal has been given before, or when something else than
its completion ends one of its waits. -/
def Interrupted (service : Service σ) (operation : Registry → Operation α) (signal : Option Nat) :
    Prop :=
  ∃ title program, operation service.registry = .guarded title program ∧
    (service.interrupt.isGiven = true ∨
      ∃ reason, (program.run service.records service.interrupt signal 0 service.state).ending =
        .error (.stopped reason))

end Service

/-! ## What calls come to -/

/-- The result of a program by its calls. The last call may fail or never come back, and then it
decides; otherwise there is a value. -/
inductive CallsEnd : List StoreCall → Option (Except PolicyError α) → Prop
  | done (a : α) : CallsEnd [] (some (.ok a))
  | failed {call : StoreCall} {fault : StoreError} (h : call.FailsWith fault) :
      CallsEnd [call] (some (.error (.ofStoreError fault)))
  | waiting {call : StoreCall} (h : call.answer = none) : CallsEnd [call] none
  | answered {call : StoreCall} {calls : List StoreCall} {result : Option (Except PolicyError α)}
      (h : call.Succeeds) (rest : CallsEnd calls result) : CallsEnd (call :: calls) result

namespace CallsEnd

variable {calls : List StoreCall} {result : Option (Except PolicyError α)}

theorem eq_error_iff (h : CallsEnd calls result) (error : PolicyError) :
    result = some (.error error) ↔
      ∃ call ∈ calls, ∃ fault, call.FailsWith fault ∧ error = .ofStoreError fault := by
  induction h with
  | done a => simp
  | @failed call fault h =>
    constructor
    · intro herror
      exact ⟨call, List.mem_singleton_self call, fault, h, by simpa using herror.symm⟩
    · rintro ⟨other, hother, found, hfound, rfl⟩
      rw [List.mem_singleton.mp hother] at hfound
      have hsame : fault = found := by simpa using h.symm.trans hfound
      rw [hsame]
  | @waiting call h =>
    refine iff_of_false nofun ?_
    rintro ⟨other, hother, found, hfound, -⟩
    rw [List.mem_singleton.mp hother] at hfound
    exact nomatch h.symm.trans hfound
  | @answered call calls result h rest ih =>
    rw [ih]
    constructor
    · rintro ⟨other, hother, hfound⟩
      exact ⟨other, List.mem_cons_of_mem call hother, hfound⟩
    · rintro ⟨other, hother, found, hfound, herror⟩
      rcases List.mem_cons.mp hother with rfl | hlater
      · obtain ⟨reply, hreply⟩ := h
        exact nomatch hreply.symm.trans hfound
      · exact ⟨other, hlater, found, hfound, herror⟩

theorem eq_ok_iff (h : CallsEnd calls result) :
    (∃ a, result = some (.ok a)) ↔ ∀ call ∈ calls, call.Succeeds := by
  induction h with
  | done a => simp
  | @failed call fault h =>
    refine iff_of_false nofun fun hall => ?_
    obtain ⟨reply, hreply⟩ := hall call (List.mem_singleton_self call)
    exact nomatch hreply.symm.trans h
  | @waiting call h =>
    refine iff_of_false nofun fun hall => ?_
    obtain ⟨reply, hreply⟩ := hall call (List.mem_singleton_self call)
    exact nomatch hreply.symm.trans h
  | answered h rest ih => rw [ih, List.forall_mem_cons, and_iff_right h]

end CallsEnd

/-! ## Lenient programs -/

/-- A program that fails only when a call fails, and then with what this failure means. -/
def Program.Lenient : Program α → Prop
  | .done result => ∃ a, result = .ok a
  | .report _ next => next.Lenient
  | .ask _ next => (∀ reply, (next (.ok reply)).Lenient) ∧
      ∀ fault, next (.error fault) = .done (.error (.ofStoreError fault))

theorem Program.lenient_request (request : Request) {next : request.Reply → Program α}
    (h : ∀ reply, (next reply).Lenient) : (Program.request request next).Lenient :=
  ⟨h, fun _ => rfl⟩

/-- An operation that is not refused and whose program is lenient. -/
def Operation.Lenient : Operation α → Prop
  | .refused _ => False
  | .guarded _ program => program.Lenient

theorem Operation.lenient_after {check : Except PolicyError β} {b : β} (hcheck : check = .ok b)
    {next : β → Operation α} (h : (next b).Lenient) : (Operation.after check next).Lenient := by
  rw [hcheck]
  exact h

/-! ## Waits -/

namespace Program

theorem wait_some (interrupt : Interrupt) (signal : Option Nat) (time duration : Nat) :
    wait interrupt signal time (some duration) = .ok (time + duration) ∨
      ∃ reason, wait interrupt signal time (some duration) = .error (.stopped reason) := by
  cases duration with
  | zero => exact .inl rfl
  | succ duration =>
    have hwait : wait interrupt signal time (some (duration + 1)) =
        (interrupt.await signal (some (time + (duration + 1)))).map fun () =>
          time + (duration + 1) := rfl
    rw [hwait]
    rcases interrupt.await_some signal (time + (duration + 1)) with hok | ⟨reason, hstopped⟩
    · exact .inl (by rw [hok]; rfl)
    · exact .inr ⟨reason, by rw [hstopped]; rfl⟩

theorem wait_unbounded (signal : Option Nat) (time : Nat) (duration : Option Nat)
    (reason : Interruption) : wait .unbounded signal time duration ≠ .error (.stopped reason) := by
  cases duration with
  | none => nofun
  | some duration =>
    cases duration with
    | zero => nofun
    | succ duration => nofun

theorem wait_none (interrupt : Interrupt) (signal : Option Nat) (time : Nat) :
    wait interrupt signal time none = .error .never ∨
      ∃ reason, wait interrupt signal time none = .error (.stopped reason) := by
  rw [wait]
  rcases interrupt.await_none signal with hnever | ⟨reason, hstopped⟩
  · exact .inl (by rw [hnever]; rfl)
  · exact .inr ⟨reason, by rw [hstopped]; rfl⟩

/-! ## Runs of lenient programs -/

/-- Keeping the calls does not change how a program ends. -/
theorem run_keeping_ending (program : Program α) (records : RecordStore σ) (interrupt : Interrupt)
    (signal : Option Nat) (time : Nat) (state : σ) (calls : List StoreCall) :
    (program.run (RecordStore.keeping records) interrupt signal time (state, calls)).ending =
      (program.run records interrupt signal time state).ending := by
  induction program generalizing time state calls with
  | done result => rfl
  | report skipped next ih => exact ih time state calls
  | ask request next ih =>
    simp only [run, RecordStore.keeping]
    cases wait interrupt signal time (some (records state request).lead) with
    | error halt => rfl
    | ok start =>
      dsimp only
      cases wait interrupt signal start (records state request).lag with
      | error halt => rfl
      | ok finish => exact ih _ finish _ _

/-- A lenient program that is not stopped ends as its calls do. -/
theorem Lenient.run {program : Program α} (h : program.Lenient) (records : RecordStore σ)
    (interrupt : Interrupt) (signal : Option Nat) (time : Nat) (state : σ) (calls : List StoreCall) :
    let run := program.run (RecordStore.keeping records) interrupt signal time (state, calls)
    (∃ reason, run.ending = .error (.stopped reason)) ∨
      ∃ made result, run.state.2 = calls ++ made ∧ CallsEnd made result ∧
        run.ending = result.elim (.error .never) .ok := by
  induction program generalizing time state calls with
  | done result =>
    obtain ⟨a, rfl⟩ := h
    exact .inr ⟨[], some (.ok a), (List.append_nil calls).symm, .done a, rfl⟩
  | report skipped next ih => exact ih h time state calls
  | ask request next ih =>
    obtain ⟨hnext, hfault⟩ := h
    simp only [Program.run, RecordStore.keeping]
    rcases wait_some interrupt signal time (records state request).lead with hstart | ⟨reason, hstop⟩
    case inr =>
      rw [hstop]
      exact .inl ⟨reason, rfl⟩
    rw [hstart]
    dsimp only
    cases hlag : (records state request).lag with
    | none =>
      rcases wait_none interrupt signal (time + (records state request).lead) with
        hnever | ⟨reason, hstop⟩
      · rw [hnever]
        exact .inr ⟨_, none, rfl, .waiting rfl, rfl⟩
      · rw [hstop]
        exact .inl ⟨reason, rfl⟩
    | some lag =>
      rcases wait_some interrupt signal (time + (records state request).lead) lag with
        hfinish | ⟨reason, hstop⟩
      case inr =>
        rw [hstop]
        exact .inl ⟨reason, rfl⟩
      rw [hfinish]
      dsimp only
      cases hanswer : (records state request).answer with
      | error fault =>
        rw [hfault]
        exact .inr ⟨_, some _, rfl, .failed rfl, rfl⟩
      | ok reply =>
        let call : StoreCall := ⟨request, some (.ok reply)⟩
        rcases ih (.ok reply) (hnext reply) (time + (records state request).lead + lag)
            (records state request).state (calls ++ [call]) with
          hstopped | ⟨made, result, hmade, hend, hending⟩
        · exact .inl hstopped
        · have hcalls := hmade.trans (List.append_assoc calls [call] made)
          exact .inr ⟨call :: made, result, hcalls, .answered ⟨reply, rfl⟩ hend, hending⟩

/-- Without a signal and a deadline no program is stopped. -/
theorem run_unbounded_ending (program : Program α) (records : RecordStore σ) (signal : Option Nat)
    (time : Nat) (state : σ) (reason : Interruption) :
    (program.run records .unbounded signal time state).ending ≠ .error (.stopped reason) := by
  induction program generalizing time state with
  | done result => nofun
  | report skipped next ih => exact ih time state
  | ask request next ih =>
    simp only [run]
    cases hlead : wait .unbounded signal time (some (records state request).lead) with
    | error halt =>
      intro hstopped
      cases hstopped
      exact wait_unbounded signal time _ reason hlead
    | ok start =>
      dsimp only
      cases hlag : wait .unbounded signal start (records state request).lag with
      | error halt =>
        intro hstopped
        cases hstopped
        exact wait_unbounded signal start _ reason hlag
      | ok finish => exact ih _ finish _

end Program

/-! ## Operations -/

theorem PolicyError.kind_ofStoreError (fault : StoreError) : (ofStoreError fault).kind = fault.kind := by
  cases fault <;> rfl

namespace Service

variable {service : Service σ} {operation : Registry → Operation α} {signal : Option Nat}

/-- An operation fails just when a call that it makes fails, with what this failure means and of its
kind, and has a value just when all calls come back with one. -/
structure FailsAsAsked (service : Service σ) (operation : Registry → Operation α)
    (signal : Option Nat) : Prop where
  error : ∀ error, (service.perform operation signal).1 = some (.error error) ↔
    ∃ call ∈ service.asked operation signal, ∃ fault, call.FailsWith fault ∧
      error = .ofStoreError fault ∧ error.kind = fault.kind
  ok : (∃ a, (service.perform operation signal).1 = some (.ok a)) ↔
    ∀ call ∈ service.asked operation signal, call.Succeeds

theorem callsEnd_perform (h : (operation service.registry).Lenient)
    (huninterrupted : ¬service.Interrupted operation signal) :
    CallsEnd (service.asked operation signal) (service.perform operation signal).1 := by
  rw [asked, perform, perform, keeping]
  dsimp only
  cases hoperation : operation service.registry with
  | refused error =>
    rw [hoperation] at h
    exact h.elim
  | guarded title program =>
    rw [hoperation] at h
    have hgiven : ¬service.interrupt.isGiven = true :=
      fun hgiven => huninterrupted ⟨title, program, hoperation, .inl hgiven⟩
    have hkept := program.run_keeping_ending service.records service.interrupt signal 0 service.state []
    rcases Program.Lenient.run h service.records service.interrupt signal 0 service.state [] with
      hstopped | ⟨made, result, hmade, hend, hending⟩
    · rw [hkept] at hstopped
      exact absurd ⟨title, program, hoperation, .inr hstopped⟩ huninterrupted
    rw [hkept] at hending
    simp only [Operation.perform, if_neg hgiven]
    rw [hmade, hending, List.nil_append]
    cases result <;> exact hend

theorem failsAsAsked (h : (operation service.registry).Lenient)
    (huninterrupted : ¬service.Interrupted operation signal) :
    FailsAsAsked service operation signal := by
  have hend := callsEnd_perform h huninterrupted
  refine ⟨fun error => ?_, hend.eq_ok_iff⟩
  rw [hend.eq_error_iff]
  constructor
  · rintro ⟨call, hcall, fault, hfault, rfl⟩
    exact ⟨call, hcall, fault, hfault, rfl, PolicyError.kind_ofStoreError fault⟩
  · rintro ⟨call, hcall, fault, hfault, rfl, -⟩
    exact ⟨call, hcall, fault, hfault, rfl⟩

/-- Without a signal and a deadline nothing is interrupted. -/
theorem not_interrupted_unbounded (h : service.interrupt = .unbounded)
    (operation : Registry → Operation α) (signal : Option Nat) :
    ¬service.Interrupted operation signal := by
  rintro ⟨title, program, -, hgiven | ⟨reason, hstopped⟩⟩
  · rw [h] at hgiven
    exact nomatch hgiven
  · rw [h] at hstopped
    exact program.run_unbounded_ending _ _ _ _ reason hstopped

end Service

end PolicyStore
