import PolicyStore.Proofs.Service.Failing
import PolicyStore.Proofs.Service.Offers
import PolicyStore.Proofs.Service.Sparing

/-!
# What offers ask of the record store

Whatever it is answered, an offer makes only requests that its arguments tell, and only once these have
been found good. At most one of them writes, and its name is told by the arguments too. So an offer
changes no other row, and it changes none at all when it fails.
-/

namespace PolicyStore

/-! ## Requests that write -/

/-- The name that a request writes under. -/
def Request.target? : Request → Option String
  | .upsert name _ | .delete name | .increment name => some name
  | _ => none

theorem Request.spares_of_target? {request : Request} {name : String}
    (h : request.target? ≠ some name) : request.Spares name := by
  cases request with
  | upsert other value => exact fun hsame => h (congrArg some hsame)
  | delete other => exact fun hsame => h (congrArg some hsame)
  | increment other => exact fun hsame => h (congrArg some hsame)
  | _ => trivial

theorem Memory.answer_reading {request : Request} (h : request.target? = none)
    (memory : Memory) : (memory.answer request).2 = memory := by
  cases request with
  | upsert name value => cases h
  | delete name => cases h
  | increment name => cases h
  | _ => rfl

variable {σ α β : Type} {registry : Registry} {domain : Domain}

theorem Program.eval_reading {program : Program α} (h : program.Asks (·.target? = none))
    (memory : Memory) : (program.eval memory).memory = memory := by
  induction program with
  | done result => rfl
  | report skipped next ih => exact ih h
  | ask request next ih =>
    have hsame := Memory.answer_reading h.1 memory
    rw [eval, hsame]
    exact ih _ (h.2 _)

/-- An operation leaves the table as it is unless it gives a value that says otherwise. -/
def Operation.Clean (Undone : α → Prop) (operation : Operation α) : Prop :=
  ∀ memory, (∀ a, (operation.eval memory).result = .ok a → Undone a) →
    (operation.eval memory).memory = memory

namespace Operation

variable {Undone : α → Prop}

theorem clean_of_reading {operation : Operation α} (h : operation.Asks (·.target? = none)) :
    operation.Clean Undone := by
  intro memory _
  cases operation with
  | refused error => rfl
  | guarded title program => exact Program.eval_reading h memory

theorem clean_after {check : Except PolicyError β} {next : β → Operation α}
    (h : ∀ b, check = .ok b → (next b).Clean Undone) :
    (Operation.after check next).Clean Undone := by
  cases hcheck : check with
  | error error => exact fun memory _ => rfl
  | ok b => exact h b hcheck

/-- A single request that fails changes nothing. -/
theorem clean_request {title : String} (request : Request) {Undone : request.Reply → Prop}
    (h : ∀ (memory : Memory) reply, (memory.answer request).1 = .ok reply → Undone reply →
      (memory.answer request).2 = memory) :
    (Operation.guarded title (.request request .pure)).Clean Undone := by
  intro memory hundone
  rw [eval, Program.eval_request] at hundone ⊢
  cases hanswer : (memory.answer request).1 with
  | error fault => exact Memory.answer_error hanswer
  | ok reply =>
    rw [hanswer] at hundone
    exact h memory reply hanswer (hundone reply rfl)

end Operation

theorem Operation.asks_only {title : String} (request : Request) {next : request.Reply → Program α}
    (hnext : ∀ reply, (next reply).Asks (· = request)) :
    (Operation.guarded title (.request request next)).Asks (· = request) := by
  refine asks_guarded request ?_ hnext
  rfl

theorem Memory.delete_nothing {memory : Memory} {name : String}
    (h : (memory.delete name).1 = false) : (memory.delete name).2 = memory := by
  rw [delete] at h ⊢
  split
  next hheld =>
    rw [if_pos hheld] at h
    cases h
  next => rfl

/-! ## Calls that are kept -/

/-- A program that asks for one kind of requests makes calls of this kind, also when it is stopped. -/
theorem Program.Asks.run_keeping {Kind : Request → Prop} {program : Program α}
    (h : program.Asks Kind) (records : RecordStore σ) (interrupt : Interrupt)
    (signal : Option Nat) (time : Nat) (state : σ) {calls : List StoreCall}
    (hcalls : ∀ call ∈ calls, Kind call.request) :
    ∀ call ∈ (program.run (RecordStore.keeping records) interrupt signal time
      (state, calls)).state.2, Kind call.request := by
  induction program generalizing time state calls with
  | done result => exact hcalls
  | report skipped next ih => exact ih h time state hcalls
  | ask request next ih =>
    obtain ⟨hrequest, hnext⟩ := h
    have hkept : ∀ answer, ∀ call ∈ calls ++ [⟨request, answer⟩], Kind call.request := by
      intro answer call hcall
      rcases List.mem_append.mp hcall with hbefore | hnow
      · exact hcalls call hbefore
      · rw [List.mem_singleton.mp hnow]
        exact hrequest
    simp only [Program.run, RecordStore.keeping]
    cases Program.wait interrupt signal time (some (records state request).lead) with
    | error halt => exact hcalls
    | ok start =>
      dsimp only
      cases Program.wait interrupt signal start (records state request).lag with
      | error halt => exact hkept _
      | ok finish => exact ih _ (hnext _) finish _ (hkept _)

/-- A service over a record store that keeps its calls, all of which have been of a kind. -/
structure Service.Kept (Kind : Request → Prop) (records : RecordStore σ) (registry : Registry)
    (service : Service (σ × List StoreCall)) : Prop where
  records : service.records = RecordStore.keeping records
  registry : service.registry = registry
  calls : ∀ call ∈ service.state.2, Kind call.request

theorem Service.kept_keeping (Kind : Request → Prop) (service : Service σ) :
    service.keeping.Kept Kind service.records service.registry where
  records := rfl
  registry := rfl
  calls _ hcall := by cases hcall

theorem Service.Kept.perform {Kind : Request → Prop} {records : RecordStore σ}
    {service : Service (σ × List StoreCall)} (h : service.Kept Kind records registry)
    (operation : Registry → Operation α) (hasks : (operation registry).Asks Kind)
    (signal : Option Nat) :
    (service.perform operation signal).2.1.Kept Kind records registry := by
  obtain ⟨hrecords, hregistry, hcalls⟩ := h
  refine ⟨hrecords, hregistry, ?_⟩
  rw [Service.perform, hrecords, hregistry]
  dsimp only
  cases hoperation : operation registry with
  | refused error => exact hcalls
  | guarded title program =>
    rw [hoperation] at hasks
    rw [Operation.perform]
    split
    · exact hcalls
    · exact Program.Asks.run_keeping hasks records _ signal 0 _ hcalls

namespace Service

theorem registered_of_require (h : registry.require domain.namePrefix = .ok ()) :
    registry.isRegistered domain.namePrefix = true := by
  cases hregistered : registry.isRegistered domain.namePrefix with
  | true => rfl
  | false =>
    rw [require_unregistered hregistered] at h
    cases h

theorem registered_of_domainKey {name key : String} (h : domainKey registry domain name = .ok key) :
    registry.isRegistered domain.namePrefix = true := by
  cases hregistered : registry.isRegistered domain.namePrefix with
  | true => rfl
  | false =>
    have hrejects : Rejects (domainKey registry domain name) := rejects_domainKey (.inl hregistered)
    obtain ⟨error, herror, -⟩ := hrejects
    rw [herror] at h
    cases h

theorem asks_snapshot {Kind : Request → Prop}
    (h : registry.isRegistered domain.namePrefix = true → Kind (.loadByPrefix domain.namePrefix))
    {next : Snapshot domain → Program α} (hnext : ∀ snapshot, (next snapshot).Asks Kind) :
    (withSnapshot registry domain next).Asks Kind := by
  cases hregistered : registry.isRegistered domain.namePrefix with
  | true => exact asks_withSnapshot registry (h hregistered) hnext
  | false =>
    rw [withSnapshot, require_unregistered hregistered]
    trivial

/-! ## The requests of an offer -/

/-- The requests that an offer may make. -/
def PolicyOffer.Makes (registry : Registry) (offer : PolicyOffer) (request : Request) : Prop :=
  match offer with
  | .load domain name =>
    registry.isRegistered domain.namePrefix = true ∧ name ≠ "" ∧
      request = .loadByName (domain.key name)
  | .loadById domain id =>
    registry.isRegistered domain.namePrefix = true ∧ request = .loadById id
  | .loadAll domain | .loadChanged domain _ =>
    registry.isRegistered domain.namePrefix = true ∧ request = .loadByPrefix domain.namePrefix
  | .store domain policy =>
    registry.isRegistered domain.namePrefix = true ∧ policy.name ≠ "" ∧
      ∃ text, policy.payload = .ok text ∧ request = .upsert (domain.key policy.name) text
  | .remove domain name =>
    registry.isRegistered domain.namePrefix = true ∧ name ≠ "" ∧
      request = .delete (domain.key name)
  | .loadRateLimitConfig =>
    ∃ domain : Domain, registry.isRegistered domain.namePrefix = true ∧
      request = .loadByPrefix domain.namePrefix
  | .loadRouteGroups names =>
    registry.isRegistered Domain.routeGroup.namePrefix = true ∧
      (request = .loadByPrefix Domain.routeGroup.namePrefix ∨
        request = .loadRecords (names.map Domain.routeGroup.key))

/-- The requests that an offer may make. -/
def Offer.Makes (registry : Registry) (offer : Offer) (request : Request) : Prop :=
  match offer with
  | .policies offer => offer.Makes registry request
  | .loadByNames names => request = .loadRecords names
  | .loadByPattern namePrefix => request = .loadByPrefix namePrefix
  | .loadRecordById id => request = .loadById id
  | .upsert name value => request = .upsert name value
  | .delete name => request = .delete name
  | .reorgVersion => request = .loadByName reorgKey
  | .bumpReorgVersion => request = .increment reorgKey

theorem PolicyOffer.asks_operation (registry : Registry) (offer : PolicyOffer) :
    (offer.operation registry).Asks (offer.Makes registry) := by
  cases offer with
  | load domain name =>
    refine Operation.asks_after fun key hkey => ?_
    have hregistered := registered_of_domainKey hkey
    obtain ⟨hname, rfl⟩ := domainKey_eq_ok hkey
    refine Operation.asks_guarded (.loadByName _) ⟨hregistered, hname, rfl⟩ fun record => ?_
    cases record <;> trivial
  | loadById domain id =>
    refine Operation.asks_after fun _ hrequire => ?_
    have hregistered := registered_of_require hrequire
    exact Operation.asks_guarded (.loadById id) ⟨hregistered, rfl⟩ fun _ => trivial
  | loadAll domain =>
    exact asks_snapshot (fun hregistered => ⟨hregistered, rfl⟩) fun _ => trivial
  | loadChanged domain previous =>
    refine Operation.asks_after fun _ hrequire => ?_
    have hregistered := registered_of_require hrequire
    exact Operation.asks_guarded (.loadByPrefix _) ⟨hregistered, rfl⟩ fun _ => trivial
  | store domain policy =>
    refine Operation.asks_after fun key hkey => Operation.asks_after fun text htext => ?_
    have hregistered := registered_of_domainKey hkey
    obtain ⟨hname, rfl⟩ := domainKey_eq_ok hkey
    refine Operation.asks_guarded (.upsert _ text) ?_ fun _ => trivial
    exact ⟨hregistered, hname, text, htext, rfl⟩
  | remove domain name =>
    refine Operation.asks_after fun key hkey => ?_
    have hregistered := registered_of_domainKey hkey
    obtain ⟨hname, rfl⟩ := domainKey_eq_ok hkey
    exact Operation.asks_guarded (.delete _) ⟨hregistered, hname, rfl⟩ fun _ => trivial
  | loadRateLimitConfig =>
    refine asks_snapshot (fun hregistered => ⟨.strategy, hregistered, rfl⟩) fun _ => ?_
    exact asks_snapshot (fun hregistered => ⟨.allowList, hregistered, rfl⟩) fun _ => trivial
  | loadRouteGroups names =>
    refine Operation.asks_after fun _ hrequire => ?_
    have hregistered : registry.isRegistered Domain.routeGroup.namePrefix = true :=
      registered_of_require hrequire
    change Program.Asks _ (if _ then _ else _)
    split
    · exact Program.asks_request (.loadByPrefix _) ⟨hregistered, .inl rfl⟩ fun _ => trivial
    · exact Program.asks_request (.loadRecords _) ⟨hregistered, .inr rfl⟩ fun _ => trivial

theorem Offer.asks_operation (registry : Registry) (offer : Offer) :
    (offer.operation registry).Asks (offer.Makes registry) := by
  cases offer with
  | policies offer => exact offer.asks_operation registry
  | loadByNames names => exact Operation.asks_only (.loadRecords names) fun _ => trivial
  | loadByPattern start => exact Operation.asks_only (.loadByPrefix start) fun _ => trivial
  | loadRecordById id => exact Operation.asks_only (.loadById id) fun _ => trivial
  | upsert name value => exact Operation.asks_only (.upsert name value) fun _ => trivial
  | delete name => exact Operation.asks_only (.delete name) fun _ => trivial
  | reorgVersion => exact Operation.asks_only (.loadByName reorgKey) fun _ => trivial
  | bumpReorgVersion => exact Operation.asks_only (.increment reorgKey) fun _ => trivial

/-! ## What an offer changes -/

/-- The name that an offer writes under. -/
def Offer.target? : Offer → Option String
  | .policies (.store domain policy) => some (domain.key policy.name)
  | .policies (.remove domain name) => some (domain.key name)
  | .upsert name _ | .delete name => some name
  | .bumpReorgVersion => some reorgKey
  | _ => none

/-- What an offer gives when there was nothing to change. -/
def Offer.Undone : (offer : Offer) → offer.Reply → Prop
  | .policies (.remove _ _), existed => existed = false
  | .delete _, existed => existed = false
  | offer, _ => offer.target? = none

namespace Offer

variable {offer : Offer} {request : Request}

theorem target?_of_makes (h : offer.Makes registry request) : request.target? = offer.target? := by
  cases offer with
  | policies offer =>
    cases offer with
    | load domain name => rw [h.2.2]; rfl
    | loadById domain id => rw [h.2]; rfl
    | loadAll domain => rw [h.2]; rfl
    | loadChanged domain previous => rw [h.2]; rfl
    | store domain policy =>
      obtain ⟨-, -, text, -, rfl⟩ := h
      rfl
    | remove domain name => rw [h.2.2]; rfl
    | loadRateLimitConfig =>
      obtain ⟨domain, -, rfl⟩ := h
      rfl
    | loadRouteGroups names =>
      obtain ⟨-, rfl | rfl⟩ := h
      · rfl
      · rfl
  | _ =>
    cases h
    rfl

theorem asks_target? (registry : Registry) (offer : Offer) :
    (offer.operation registry).Asks (·.target? = offer.target?) :=
  (offer.asks_operation registry).mono fun _ => target?_of_makes

theorem spares_operation (registry : Registry) {offer : Offer} {name : String}
    (h : offer.target? ≠ some name) : (offer.operation registry).Spares name := by
  refine (asks_target? registry offer).mono fun request htarget => ?_
  rw [← htarget] at h
  exact Request.spares_of_target? h

/-- Offers on policies write only under names of their domains. -/
theorem spares_policies (registry : Registry) (policies : PolicyOffer) {name : String}
    (h : ∀ domain : Domain, startsWith domain.namePrefix name = false) :
    (policies.operation registry).Spares name := by
  have htarget : (Offer.policies policies).target? ≠ some name := by
    intro hsame
    cases policies with
    | store domain policy => exact key_ne (h domain) policy.name (Option.some.inj hsame)
    | remove domain removed => exact key_ne (h domain) removed (Option.some.inj hsame)
    | _ => cases hsame
  exact spares_operation registry htarget

theorem clean_reading (registry : Registry) {offer : Offer} (h : offer.target? = none)
    {Undone : offer.Reply → Prop} : (offer.operation registry).Clean Undone := by
  refine Operation.clean_of_reading ?_
  rw [← h]
  exact asks_target? registry offer

/-- An offer that fails, or that finds nothing to change, leaves the table as it is. -/
theorem clean_operation (registry : Registry) (offer : Offer) :
    (offer.operation registry).Clean offer.Undone := by
  have hdelete : ∀ (name : String) (memory : Memory) (existed : Bool),
      (memory.answer (.delete name)).1 = .ok existed → existed = false →
        (memory.answer (.delete name)).2 = memory := by
    rintro name memory existed hanswer rfl
    exact Memory.delete_nothing (Except.ok.inj hanswer)
  cases offer with
  | policies offer =>
    cases offer with
    | store domain policy =>
      refine Operation.clean_after fun key _ => Operation.clean_after fun text _ => ?_
      refine Operation.clean_request (.upsert key text) fun _ _ _ hundone => ?_
      cases hundone
    | remove domain name =>
      refine Operation.clean_after fun key _ => ?_
      exact Operation.clean_request (.delete key) (hdelete key)
    | _ => exact clean_reading registry rfl
  | upsert name value =>
    refine Operation.clean_request (.upsert name value) fun _ _ _ hundone => ?_
    cases hundone
  | delete name => exact Operation.clean_request (.delete name) (hdelete name)
  | bumpReorgVersion =>
    refine Operation.clean_request (.increment reorgKey) fun _ _ _ hundone => ?_
    cases hundone
  | _ => exact clean_reading registry rfl

end Offer

end Service

end PolicyStore
