import PolicyStore.Proofs.RecordStore.Numbering
import PolicyStore.Proofs.Service.Loading
import PolicyStore.Proofs.Service.Reorg
import PolicyStore.Proofs.Service.Storing

/-!
# Histories of policies and the counter alone

Where records are written only as policies and by the counter, no row is corrupt: a row either
counts the reorganizations or holds the payload of the policy that it decodes to. So a load skips
nothing and finds every row.
-/

namespace PolicyStore

/-! ## Rows that policies have written -/

/-- A row is a policy's: its name belongs to the policy's domain and to no other, it decodes to the
policy, and its value is the policy's payload, character by character. -/
structure Policy.Owns {domain : Domain} (policy : Policy domain) (name : String) (row : Row) :
    Prop where
  named : policy.name ≠ ""
  key : name = domain.key policy.name
  alone : ∀ other : Domain, startsWith other.namePrefix name = true → other = domain
  decodes : Policy.ofRecord domain (row.record name) = .ok policy
  payload : policy.payload = .ok row.value

variable {domain : Domain} {policy : Policy domain} {memory after : Memory} {bumps : Nat}

theorem Policy.Storable.owns (h : policy.Storable) {row : Row}
    (hvalue : row.value = (domain.tree policy.content).compact) :
    Policy.Owns { policy with id := row.id } (domain.key policy.name) row where
  named := h.named
  key := rfl
  alone _ hother := domain_eq_of_startsWith hother (startsWith_key domain policy.name)
  decodes := Policy.ofRecord_stored h.named h.keepsRules hvalue
  payload := (Policy.payload_eq_ok_iff _ _).mpr ⟨h.keepsRules, hvalue.symm⟩

namespace Memory

/-- A table without corrupt rows, whose counter has been advanced a number of times. -/
structure Tidy (bumps : Nat) (memory : Memory) : Prop where
  rows : ∀ (name : String) (row : Row), memory.rows[name]? = some row →
    (name = reorgKey ∧ row.value = toString bumps) ∨
      ∃ (domain : Domain) (policy : Policy domain), policy.Owns name row
  uncounted : memory.rows[reorgKey]? = none → bumps = 0

theorem tidy_empty : Tidy 0 empty := by
  refine ⟨fun name row hrow => ?_, fun _ => rfl⟩
  simp [empty] at hrow

theorem Tidy.upserted (h : Tidy bumps memory) (hstorable : policy.Storable) {id : RecordId}
    (hu : Upserted memory (domain.key policy.name) (domain.tree policy.content).compact id after) :
    Tidy bumps after := by
  constructor
  · intro name row hrow
    rcases hu.row_cases hrow with ⟨rfl, -, hvalue⟩ | ⟨-, hold⟩
    · exact .inr ⟨domain, _, hstorable.owns hvalue⟩
    · exact h.rows name row hold
  · intro hnone
    rw [hu.others reorgKey (key_ne_reorgKey domain policy.name).symm] at hnone
    exact h.uncounted hnone

theorem Tidy.erased (h : Tidy bumps memory) (domain : Domain) (name : String) :
    Tidy bumps { memory with rows := memory.rows.erase (domain.key name) } := by
  constructor
  · intro other row hrow
    exact h.rows other row (erase_id hrow)
  · intro hnone
    rw [erase_rows, if_neg (key_ne_reorgKey domain name)] at hnone
    exact h.uncounted hnone

theorem Tidy.counts (h : Tidy bumps memory) (hbound : bumps < 2 ^ 63) :
    memory.Counts (Int64.ofNat bumps) := by
  cases hrow : memory.rows[reorgKey]? with
  | none =>
    rw [h.uncounted hrow]
    exact counts_of_free hrow
  | some row =>
    rcases h.rows reorgKey row hrow with ⟨-, hvalue⟩ | ⟨domain, policy, howns⟩
    · rw [← toString_ofNat hbound] at hvalue
      exact counts_of_row hrow hvalue
    · exact absurd howns.key.symm (key_ne_reorgKey domain policy.name)

/-- Advancing the counter writes how often it has been advanced. -/
theorem Tidy.bumped (h : Tidy bumps memory) (hbound : bumps + 1 < 2 ^ 63) :
    (memory.increment reorgKey).1 = .ok (Int64.ofNat (bumps + 1)) ∧
      Tidy (bumps + 1) (memory.increment reorgKey).2 := by
  have hcounts := h.counts (Nat.lt_of_succ_lt hbound)
  have hlt : (Int64.ofNat bumps).toInt < Int64.maxValue.toInt := by
    have hmax : Int64.maxValue.toInt = 2 ^ 63 - 1 := Int64.toInt_maxValue
    rw [Int64.toInt_ofNat_of_lt (Nat.lt_of_succ_lt hbound)]
    omega
  have hnext : Int64.ofNat bumps + 1 = Int64.ofNat (bumps + 1) := (Int64.ofNat_add bumps 1).symm
  obtain ⟨hok, id, hu⟩ := hcounts.increment hlt
  rw [hnext] at hok hu
  rw [toString_ofNat hbound] at hu
  refine ⟨hok, fun name row hrow => ?_, fun hnone => ?_⟩
  · rcases hu.row_cases hrow with ⟨rfl, -, hvalue⟩ | ⟨hname, hold⟩
    · exact .inl ⟨rfl, hvalue⟩
    · exact (h.rows name row hold).imp_left fun hreorg => absurd hreorg.1 hname
  · obtain ⟨held, hheld, -⟩ := hu.held
    rw [hheld] at hnone
    exact nomatch hnone

theorem Tidy.decodes (h : Tidy bumps memory) (domain : Domain) : memory.Decodes domain := by
  intro name row hrow hstart
  rcases h.rows name row hrow with ⟨rfl, -⟩ | ⟨other, policy, howns⟩
  · rw [startsWith_reorgKey] at hstart
    exact nomatch hstart
  · obtain rfl := howns.alone domain hstart
    exact ⟨policy, howns.decodes⟩

end Memory

/-! ## Calls -/

/-- Whether an action writes by way of policies or the counter. -/
def Action.Typed : Action → Prop
  | .store _ _ | .remove _ _ | .bump => True
  | .upsert _ _ | .delete _ => False

/-- Whether an action stores a policy. -/
def Action.isStore : Action → Bool
  | .store _ _ => true
  | _ => false

/-- Whether an action advances the counter. -/
def Action.isBump : Action → Bool
  | .bump => true
  | _ => false

namespace Service

/-- Whether a call advances the counter with success. -/
def hasBumped (service : Service Memory) (call : Call) : Bool :=
  call.action.isBump &&
    ((service.under call.interrupt).perform (fun _ => bumpReorgVersion) call.signal).1 matches
      some (.ok _)

/-- How often a history advances the counter with success. -/
def bumped (service : Service Memory) : List Call → Nat
  | [] => 0
  | call :: calls =>
    (service.hasBumped call).toNat + (service.afterCall call).bumped calls

theorem hasBumped_le (service : Service Memory) (call : Call) :
    (service.hasBumped call).toNat ≤ call.action.isBump.toNat := by
  rw [hasBumped]
  cases call.action.isBump with
  | false => exact Nat.le_refl 0
  | true => exact Bool.toNat_le _

theorem eval_remove_memory (domain : Domain) (name : String) (memory : Memory) :
    ((remove .builtin domain name).eval memory).memory = memory ∨
      ((remove .builtin domain name).eval memory).memory =
        { memory with rows := memory.rows.erase (domain.key name) } := by
  have registered := builtin_isRegistered domain
  by_cases hname : name = ""
  · subst hname
    rw [remove, Operation.eval_after_error (domainKey_empty registered)]
    exact .inl rfl
  · rw [eval_remove registered hname, Memory.delete]
    split
    · exact .inr rfl
    · exact .inl rfl

theorem tidy_store (h : memory.Tidy bumps) (policy : Policy domain) :
    ((store .builtin policy).eval memory).memory.Tidy bumps := by
  by_cases hstorable : policy.Storable
  · obtain ⟨id, -, hu⟩ := eval_store_storable hstorable memory
    exact h.upserted hstorable hu
  · obtain ⟨error, -, hsame⟩ := eval_store_not_storable hstorable memory
    rwa [hsame]

theorem tidy_remove (h : memory.Tidy bumps) (domain : Domain) (name : String) :
    ((remove .builtin domain name).eval memory).memory.Tidy bumps := by
  rcases eval_remove_memory domain name memory with hsame | hdone
  · rwa [hsame]
  · rw [hdone]
    exact h.erased domain name

theorem creations_remove (domain : Domain) (name : String) (memory : Memory) :
    memory.creations ((remove .builtin domain name).eval memory).memory = 0 := by
  rcases eval_remove_memory domain name memory with hsame | hdone
  · rw [hsame, Memory.creations_self]
  · rw [hdone, Memory.creations_erase]

theorem tidy_bump (h : memory.Tidy bumps) (hbound : bumps + 1 < 2 ^ 63) (interrupt : Interrupt)
    (signal : Option Nat) :
    ((onTable .builtin memory).afterCall ⟨.bump, interrupt, signal⟩).state.Tidy
      (bumps + ((onTable .builtin memory).hasBumped ⟨.bump, interrupt, signal⟩).toNat) := by
  change (((onTable .builtin memory).under interrupt).perform
    (fun _ => bumpReorgVersion) signal).2.1.state.Tidy _
  rw [hasBumped]
  rcases perform_under (fun _ => bumpReorgVersion) .builtin memory interrupt signal with
    ⟨⟨error, hresult⟩, hsame⟩ | ⟨hresult, hdone⟩
  · rw [hresult, hsame]
    exact h
  · obtain ⟨hok, htidy⟩ := h.bumped hbound
    rw [hresult, hdone, eval_bumpReorgVersion, hok]
    exact htidy

/-- A call that goes by way of policies or the counter keeps a table tidy. -/
theorem tidy_afterCall (h : memory.Tidy bumps) {call : Call} (htyped : call.action.Typed)
    (hbound : bumps + call.action.isBump.toNat < 2 ^ 63) :
    ∃ next, (onTable .builtin memory).afterCall call = onTable .builtin next ∧
      next.Tidy (bumps + ((onTable .builtin memory).hasBumped call).toNat) ∧
      memory.creations next ≤ call.action.isStore.toNat + call.action.isBump.toNat := by
  refine ⟨_, rfl, ?_⟩
  have heffect := (answered_act .builtin memory call.interrupt call.signal call.action).effect
  obtain ⟨action, interrupt, signal⟩ := call
  cases action with
  | upsert name value => exact htyped.elim
  | delete name => exact htyped.elim
  | store domain policy =>
    refine ⟨?_, heffect.creations_le_one⟩
    change (((onTable .builtin memory).under interrupt).perform
      (store · policy) signal).2.1.state.Tidy bumps
    rcases perform_under (store · policy) .builtin memory interrupt signal with
      ⟨-, hsame⟩ | ⟨-, hdone⟩
    · rwa [hsame]
    · rw [hdone]
      exact tidy_store h policy
  | remove domain name =>
    change (((onTable .builtin memory).under interrupt).perform
        (remove · domain name) signal).2.1.state.Tidy bumps ∧
      memory.creations (((onTable .builtin memory).under interrupt).perform
        (remove · domain name) signal).2.1.state ≤ 0
    rcases perform_under (remove · domain name) .builtin memory interrupt signal with
      ⟨-, hsame⟩ | ⟨-, hdone⟩
    · rw [hsame]
      exact ⟨h, Nat.le_of_eq (Memory.creations_self memory)⟩
    · rw [hdone]
      exact ⟨tidy_remove h domain name, Nat.le_of_eq (creations_remove domain name memory)⟩
  | bump => exact ⟨tidy_bump h hbound interrupt signal, heffect.creations_le_one⟩

theorem countP_cons_toNat (p : Call → Bool) (call : Call) (calls : List Call) :
    (call :: calls).countP p = calls.countP p + (p call).toNat := by
  rw [List.countP_cons]
  cases p call <;> rfl

theorem bumped_le (service : Service Memory) (calls : List Call) :
    service.bumped calls ≤ calls.countP (·.action.isBump) := by
  induction calls generalizing service with
  | nil => exact Nat.le_refl 0
  | cons call calls ih =>
    have hfirst := hasBumped_le service call
    have hrest := ih (service.afterCall call)
    rw [bumped, countP_cons_toNat]
    omega

/-- So does a history of such calls, which creates rows only by storing and advancing. -/
theorem tidy_after (h : memory.Tidy bumps) {calls : List Call}
    (htyped : ∀ call ∈ calls, call.action.Typed)
    (hbound : bumps + calls.countP (·.action.isBump) < 2 ^ 63) :
    ∃ later, (onTable .builtin memory).after calls = onTable .builtin later ∧
      later.Tidy (bumps + (onTable .builtin memory).bumped calls) ∧
      (onTable .builtin memory).creations calls ≤
        calls.countP (·.action.isStore) + calls.countP (·.action.isBump) := by
  induction calls generalizing memory bumps with
  | nil => exact ⟨memory, rfl, h, Nat.le_refl 0⟩
  | cons call calls ih =>
    obtain ⟨hfirst, hrest⟩ := List.forall_mem_cons.mp htyped
    rw [countP_cons_toNat] at hbound
    obtain ⟨next, hnext, htidy, hcreated⟩ := tidy_afterCall h hfirst (by omega)
    have hle := hasBumped_le (onTable .builtin memory) call
    obtain ⟨later, hlater, htidyLater, hcreatedLater⟩ := ih htidy hrest (by omega)
    refine ⟨later, ?_, ?_, ?_⟩
    · rw [after, List.foldl_cons, hnext]
      exact hlater
    · rw [bumped, hnext, ← Nat.add_assoc]
      exact htidyLater
    · rw [countP_cons_toNat, countP_cons_toNat, creations, hnext]
      change memory.creations next + _ ≤ _
      omega

/-! ## What such histories come to -/

/-- A service without corrupt rows, whose counter has been advanced a number of times. -/
structure Uncorrupted (bumps : Nat) (service : Service Memory) : Prop where
  rows : ∀ (name : String) (row : Row), service.state.rows[name]? = some row →
    (name = reorgKey ∧ row.value = toString bumps) ∨
      ∃ (domain : Domain) (policy : Policy domain), policy.Owns name row
  load : ∀ (domain : Domain) (name : String) (row : Row),
    service.state.rows[domain.key name]? = some row →
      ∃ policy, (service.perform (load · domain name) none).1 = some (.ok policy)
  loadAll : ∀ domain : Domain, ∃ snapshot,
    service.perform (loadAll · domain) none = (some (.ok snapshot), service, []) ∧
      snapshot.Covers service.state
  loadChanged : ∀ (domain : Domain) (previous : Fingerprints), ∃ delta,
    service.perform (loadChanged · domain previous) none = (some (.ok delta), service, []) ∧
      delta.Covers previous service.state
  loadRateLimitConfig : ∃ config,
    service.perform loadRateLimitConfig none = (some (.ok config), service, []) ∧
      config.strategies.Covers service.state ∧ config.allowLists.Covers service.state
  loadRouteGroups : ∀ names : List String, ∃ groups,
    service.perform (loadRouteGroups · names) none = (some (.ok groups), service, []) ∧
      ∀ (name : String) (row : Row), service.state.rows[Domain.routeGroup.key name]? = some row →
        names = [] ∨ name ∈ names → ∃ group,
          Policy.ofRecord .routeGroup (row.record (Domain.routeGroup.key name)) = .ok group ∧
            groups[name]? = some group
  version : ∃ version, (service.perform (fun _ => reorgVersion) none).1 = some (.ok version) ∧
    version.toInt = bumps

theorem uncorrupted_of_tidy (h : memory.Tidy bumps) (distinct : memory.DistinctIds)
    (hbound : bumps < 2 ^ 63) : Uncorrupted bumps (onTable .builtin memory) where
  rows := h.rows
  load domain name row hrow := by
    change memory.rows[domain.key name]? = some row at hrow
    have hstart := startsWith_key domain name
    rcases h.rows _ row hrow with ⟨hreorg, -⟩ | ⟨other, policy, howns⟩
    · exact absurd hreorg (key_ne_reorgKey domain name)
    obtain rfl := howns.alone domain hstart
    have hname : name = policy.name := encodeKey_injective howns.key
    subst hname
    refine ⟨policy, ?_⟩
    rw [perform_onTable, eval_load (builtin_isRegistered domain) howns.named, hrow]
    exact congrArg some howns.decodes
  loadAll domain := loadAll_covers (builtin_isRegistered domain) distinct (h.decodes domain)
  loadChanged domain previous :=
    loadChanged_covers (builtin_isRegistered domain) distinct (h.decodes domain) previous
  loadRateLimitConfig := loadRateLimitConfig_covers (builtin_isRegistered .strategy)
    (builtin_isRegistered .allowList) distinct (h.decodes .strategy) (h.decodes .allowList)
  loadRouteGroups names := by
    obtain ⟨groups, hperform, hfound⟩ := loadRouteGroups_covers (builtin_isRegistered .routeGroup)
      distinct (h.decodes .routeGroup) names
    refine ⟨groups, hperform, fun name row hrow hasked => ?_⟩
    obtain ⟨group, hgroup⟩ := h.decodes .routeGroup _ row hrow (startsWith_key .routeGroup name)
    exact ⟨group, hgroup, hfound name row group hrow hgroup hasked⟩
  version := by
    refine ⟨Int64.ofNat bumps, ?_, Int64.toInt_ofNat_of_lt hbound⟩
    rw [perform_onTable, eval_reorgVersion]
    exact congrArg some (h.counts hbound)

/-- Where records are written only as policies and by the counter, no row is ever corrupt. -/
theorem typed_uncorrupted (calls : List Call) (htyped : ∀ call ∈ calls, call.action.Typed)
    (hstores : calls.countP (·.action.isStore) < 2 ^ 63)
    (hbumps : calls.countP (·.action.isBump) < 2 ^ 63) :
    Uncorrupted ((inMemory .builtin).bumped calls) ((inMemory .builtin).after calls) := by
  rw [inMemory_eq]
  obtain ⟨later, hlater, htidy, hcreated⟩ :=
    tidy_after Memory.tidy_empty htyped (by rwa [Nat.zero_add])
  obtain ⟨same, hsame, hleads⟩ := leads_after .builtin .empty calls
  obtain rfl : same = later := congrArg Service.state (hsame.symm.trans hlater)
  have hnumbered := Memory.counted_numbered.leads hleads Memory.numbered_empty (by omega)
  rw [Nat.zero_add] at htidy
  rw [hlater]
  refine uncorrupted_of_tidy htidy hnumbered.distinct ?_
  exact Nat.lt_of_le_of_lt (bumped_le _ calls) hbumps

/-- A policy that is stored and one that cannot be, a removal, and an advance of the counter that
comes too late for its signal. -/
def typedCalls : List Call :=
  [⟨.store .allowList Policy.escapedList, .unbounded, none⟩,
    ⟨.bump, .unbounded, none⟩,
    ⟨.store .routeGroup ⟨0, "", ⟨[]⟩⟩, .unbounded, none⟩,
    ⟨.remove .strategy "free", ⟨none, some (.ofMillis 5)⟩, none⟩,
    ⟨.bump, ⟨some ⟨true, true⟩, none⟩, none⟩]

theorem typed_uncorrupted_five :
    Uncorrupted ((inMemory .builtin).bumped typedCalls) ((inMemory .builtin).after typedCalls) := by
  refine typed_uncorrupted typedCalls (fun call hcall => ?_) ?_ ?_
  · simp only [typedCalls, List.mem_cons, List.not_mem_nil, or_false] at hcall
    rcases hcall with rfl | rfl | rfl | rfl | rfl <;> trivial
  · exact Nat.lt_of_le_of_lt List.countP_le_length (by decide)
  · exact Nat.lt_of_le_of_lt List.countP_le_length (by decide)

end Service

end PolicyStore
