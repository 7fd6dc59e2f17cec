import PolicyStore.Proofs.Service.Failing
import PolicyStore.Proofs.Service.Offers

/-!
# Failures of the record store are passed on

A program passes failures on when a call that fails ends it, with what the failure means. All that a
service offers does so, although it goes on past records that do not decode. Then a call that failed is
the last one, whatever is asked of what record store and whatever may interrupt it.
-/

namespace PolicyStore

variable {σ α β : Type} {registry : Registry} {domain : Domain}

/-! ## Calls and what they come back with -/

/-- The calls that a program makes from a time on, each with the answer that it comes back with. A call
has no answer when it is stopped before it comes back, or never does. -/
def Program.calls (records : RecordStore σ) (interrupt : Interrupt) (signal : Option Nat) :
    Program α → Nat → σ → List StoreCall
  | .done _, _, _ => []
  | .report _ next, time, state => next.calls records interrupt signal time state
  | .ask request next, time, state =>
    let exchange := records state request
    match wait interrupt signal time (some exchange.lead) with
    | .error _ => [⟨request, none⟩]
    | .ok time =>
      match wait interrupt signal time exchange.lag with
      | .error _ => [⟨request, none⟩]
      | .ok time =>
        ⟨request, some exchange.answer⟩ ::
          (next exchange.answer).calls records interrupt signal time exchange.state

/-- The calls that an operation makes. -/
def Operation.calls (operation : Operation α) (records : RecordStore σ) (interrupt : Interrupt)
    (signal : Option Nat) (state : σ) : List StoreCall :=
  match operation with
  | .refused _ => []
  | .guarded _ program =>
    if interrupt.isGiven then [] else program.calls records interrupt signal 0 state

/-- A record store gets these calls, except that the last one may be stopped before it takes effect. -/
theorem Program.run_keeping_calls (program : Program α) (records : RecordStore σ)
    (interrupt : Interrupt) (signal : Option Nat) (time : Nat) (state : σ) (kept : List StoreCall) :
    (program.run (RecordStore.keeping records) interrupt signal time (state, kept)).state.2.map
        StoreCall.request <+:
      kept.map StoreCall.request ++
        (program.calls records interrupt signal time state).map StoreCall.request := by
  induction program generalizing time state kept with
  | done result => exact List.prefix_append _ _
  | report skipped next ih => exact ih time state kept
  | ask request next ih =>
    simp only [run, calls, RecordStore.keeping]
    cases wait interrupt signal time (some (records state request).lead) with
    | error halt => exact List.prefix_append _ _
    | ok start =>
      dsimp only
      cases wait interrupt signal start (records state request).lag with
      | error halt =>
        rw [List.map_append]
        exact List.prefix_refl _
      | ok finish =>
        have hlater := ih (records state request).answer finish (records state request).state
          (kept ++ [⟨request, (records state request).lag.map fun _ => (records state request).answer⟩])
        rw [List.map_append, List.append_assoc] at hlater
        exact hlater

/-! ## Programs that pass failures on -/

/-- A program that a call which fails ends, with what this failure means. -/
def Program.Forwards : Program α → Prop
  | .done _ => True
  | .report _ next => next.Forwards
  | .ask _ next => (∀ reply, (next (.ok reply)).Forwards) ∧
      ∀ fault, next (.error fault) = .done (.error (.ofStoreError fault))

/-- An operation whose program passes failures on. -/
def Operation.Forwards : Operation α → Prop
  | .refused _ => True
  | .guarded _ program => program.Forwards

theorem Program.forwards_request (request : Request) {next : request.Reply → Program α}
    (h : ∀ reply, (next reply).Forwards) : (Program.request request next).Forwards :=
  ⟨h, fun _ => rfl⟩

theorem Operation.forwards_after {check : Except PolicyError β} {next : β → Operation α}
    (h : ∀ b, (next b).Forwards) : (Operation.after check next).Forwards := by
  cases check with
  | error error => trivial
  | ok b => exact h b

theorem Program.Forwards.map (f : α → β) {program : Program α} (h : program.Forwards) :
    (program.mapResult (Except.map f)).Forwards := by
  induction program with
  | done result => trivial
  | report skipped next ih => exact ih h
  | ask request next ih =>
    obtain ⟨hreply, hfault⟩ := h
    refine ⟨fun reply => ih (.ok reply) (hreply reply), fun fault => ?_⟩
    show (next (.error fault)).mapResult (Except.map f) = _
    rw [hfault]
    rfl

theorem Operation.Forwards.map (f : α → β) {operation : Operation α} (h : operation.Forwards) :
    (operation.map f).Forwards := by
  cases operation with
  | refused error => trivial
  | guarded title program => exact Program.Forwards.map f h

/-! ## A call that fails -/

/-- A call is the last of several, and all others came back with a value. -/
def StoreCall.EndsCalls (call : StoreCall) (calls : List StoreCall) : Prop :=
  ∃ early, calls = early ++ [call] ∧ ∀ other ∈ early, other.Succeeds

theorem StoreCall.endsCalls_singleton (call : StoreCall) : call.EndsCalls [call] :=
  ⟨[], rfl, List.forall_mem_nil _⟩

theorem StoreCall.EndsCalls.cons {call first : StoreCall} {calls : List StoreCall}
    (h : call.EndsCalls calls) (hfirst : first.Succeeds) : call.EndsCalls (first :: calls) := by
  obtain ⟨early, rfl, hearly⟩ := h
  exact ⟨first :: early, rfl, List.forall_mem_cons.mpr ⟨hfirst, hearly⟩⟩

theorem StoreCall.not_failsWith_of_none {request : Request} {fault : StoreError} :
    ¬StoreCall.FailsWith ⟨request, none⟩ fault := by
  intro h
  cases h

/-- A call that fails is the last call of a program that passes failures on, which ends with it. -/
theorem Program.Forwards.run {program : Program α} (h : program.Forwards)
    {records : RecordStore σ} {interrupt : Interrupt} {signal : Option Nat} {time : Nat} {state : σ}
    {call : StoreCall} (hcall : call ∈ program.calls records interrupt signal time state)
    {fault : StoreError} (hfault : call.FailsWith fault) :
    call.EndsCalls (program.calls records interrupt signal time state) ∧
      (program.run records interrupt signal time state).ending =
        .ok (.error (.ofStoreError fault)) := by
  induction program generalizing time state with
  | done result => cases hcall
  | report skipped next ih => exact ih h hcall
  | ask request next ih =>
    obtain ⟨hnext, hstop⟩ := h
    simp only [calls, Program.run] at hcall ⊢
    cases hlead : wait interrupt signal time (some (records state request).lead) with
    | error halt =>
      rw [hlead] at hcall
      rw [List.mem_singleton.mp hcall] at hfault
      exact absurd hfault StoreCall.not_failsWith_of_none
    | ok start =>
      rw [hlead] at hcall
      dsimp only at hcall ⊢
      cases hlag : wait interrupt signal start (records state request).lag with
      | error halt =>
        rw [hlag] at hcall
        rw [List.mem_singleton.mp hcall] at hfault
        exact absurd hfault StoreCall.not_failsWith_of_none
      | ok finish =>
        rw [hlag] at hcall
        dsimp only at hcall ⊢
        cases hanswer : (records state request).answer with
        | error met =>
          -- the failure ends the program, so this call is the only one that is left
          rw [hanswer, hstop] at hcall
          rw [hstop]
          obtain rfl := List.mem_singleton.mp hcall
          cases hfault
          exact ⟨StoreCall.endsCalls_singleton _, rfl⟩
        | ok reply =>
          rw [hanswer] at hcall
          rcases List.mem_cons.mp hcall with rfl | hlater
          · cases hfault
          · obtain ⟨hends, hending⟩ := ih (.ok reply) (hnext reply) hlater
            exact ⟨hends.cons ⟨reply, rfl⟩, hending⟩

theorem Operation.Forwards.perform {operation : Operation α} (h : operation.Forwards)
    {records : RecordStore σ} {interrupt : Interrupt} {signal : Option Nat} {state : σ}
    {call : StoreCall} (hcall : call ∈ operation.calls records interrupt signal state)
    {fault : StoreError} (hfault : call.FailsWith fault) :
    call.EndsCalls (operation.calls records interrupt signal state) ∧
      (operation.perform records interrupt signal state).result =
        some (.error (.ofStoreError fault)) := by
  cases operation with
  | refused error => cases hcall
  | guarded title program =>
    rw [calls] at hcall ⊢
    by_cases hgiven : interrupt.isGiven = true
    · rw [if_pos hgiven] at hcall
      cases hcall
    · rw [if_neg hgiven] at hcall ⊢
      obtain ⟨hends, hending⟩ := Program.Forwards.run h hcall hfault
      refine ⟨hends, ?_⟩
      rw [Operation.perform, if_neg hgiven]
      dsimp only
      rw [hending]

/-! ## What a service offers -/

namespace Service

theorem forwards_withSnapshot {next : Snapshot domain → Program α}
    (h : ∀ snapshot, (next snapshot).Forwards) : (withSnapshot registry domain next).Forwards := by
  rw [withSnapshot]
  split
  · trivial
  · exact Program.forwards_request (.loadByPrefix _) fun records => h _

/-- Loads of one policy, loads that skip records and writes all pass failures on. -/
theorem PolicyOffer.forwards_operation (registry : Registry) (offer : PolicyOffer) :
    (offer.operation registry).Forwards := by
  cases offer with
  | load domain name =>
    refine Operation.forwards_after fun key => ?_
    refine Program.forwards_request (.loadByName key) fun record => ?_
    cases record <;> trivial
  | loadById domain id =>
    exact Operation.forwards_after fun _ => Program.forwards_request (.loadById id) fun _ => trivial
  | loadAll domain => exact forwards_withSnapshot fun _ => trivial
  | loadChanged domain previous =>
    refine Operation.forwards_after fun _ => ?_
    exact Program.forwards_request (.loadByPrefix _) fun _ => trivial
  | store domain policy =>
    refine Operation.forwards_after fun key => Operation.forwards_after fun text => ?_
    exact Program.forwards_request (.upsert key text) fun _ => trivial
  | remove domain name =>
    refine Operation.forwards_after fun key => ?_
    exact Program.forwards_request (.delete key) fun _ => trivial
  | loadRateLimitConfig =>
    exact forwards_withSnapshot fun _ => forwards_withSnapshot fun _ => trivial
  | loadRouteGroups names =>
    refine Operation.forwards_after fun _ => ?_
    show Program.Forwards (if _ then _ else _)
    split
    · exact Program.forwards_request (.loadByPrefix _) fun _ => trivial
    · exact Program.forwards_request (.loadRecords _) fun _ => trivial

theorem Offer.forwards_operation (registry : Registry) (offer : Offer) :
    (offer.operation registry).Forwards := by
  cases offer with
  | policies offer => exact offer.forwards_operation registry
  | loadByNames names => exact Program.forwards_request (.loadRecords names) fun _ => trivial
  | loadByPattern start => exact Program.forwards_request (.loadByPrefix start) fun _ => trivial
  | loadRecordById id => exact Program.forwards_request (.loadById id) fun _ => trivial
  | upsert name value => exact Program.forwards_request (.upsert name value) fun _ => trivial
  | delete name => exact Program.forwards_request (.delete name) fun _ => trivial
  | reorgVersion => exact Program.forwards_request (.loadByName reorgKey) fun _ => trivial
  | bumpReorgVersion => exact Program.forwards_request (.increment reorgKey) fun _ => trivial

end Service

end PolicyStore
