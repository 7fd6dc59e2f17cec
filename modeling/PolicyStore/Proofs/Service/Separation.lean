import PolicyStore.Proofs.RecordStore.Numbering
import PolicyStore.Proofs.RecordStore.Reading
import PolicyStore.Proofs.Service.Asking
import PolicyStore.Proofs.Service.Finding
import PolicyStore.Proofs.Service.Reorg
import PolicyStore.Proofs.Service.Storing

/-!
# Domains that share a table

The domains and the counter share one table, and only the prefixes of names keep them apart. An
operation of one domain writes under the prefix of this domain alone, and reads under it alone, except
that a load by id looks at all rows. So what a domain's loads give is the same after a call of another
domain, and what they give never comes from outside the prefix.

A load by id depends on ids being distinct, and these are given out as 64-bit numbers: it is told
about histories that have not used them up.
-/

namespace PolicyStore

variable {α : Type} {namePrefix : String} {before after memory : Memory}

/-! ## What programs read -/

/-- A program that reads under a prefix gives the same on tables that are the same there. -/
theorem Program.Asks.eval_eq {program : Program α} (h : program.Asks (·.ReadsUnder namePrefix))
    (hsame : before.SameUnder namePrefix after) :
    (program.eval after).result = (program.eval before).result ∧
      (program.eval after).skipped = (program.eval before).skipped := by
  induction program with
  | done result => exact ⟨rfl, rfl⟩
  | report skipped next ih =>
    obtain ⟨hresult, hskipped⟩ := ih h
    exact ⟨hresult, congrArg (skipped ++ ·) hskipped⟩
  | ask request next ih =>
    obtain ⟨hrequest, hnext⟩ := h
    rw [eval, eval, hsame.answer hrequest, hrequest.memory_eq, hrequest.memory_eq]
    exact ih _ (hnext _)

theorem Operation.Asks.eval_eq {operation : Operation α}
    (h : operation.Asks (·.ReadsUnder namePrefix)) (hsame : before.SameUnder namePrefix after) :
    (operation.eval after).result = (operation.eval before).result ∧
      (operation.eval after).skipped = (operation.eval before).skipped := by
  cases operation with
  | refused error => exact ⟨rfl, rfl⟩
  | guarded title program => exact Program.Asks.eval_eq h hsame

namespace Service

variable {registry : Registry} {domain : Domain}

/-! ## Loads -/

theorem reads_load (registry : Registry) (domain : Domain) (name : String) :
    (load registry domain name).Asks (·.ReadsUnder domain.namePrefix) := by
  refine (PolicyOffer.asks_operation registry (.load domain name)).mono ?_
  rintro request ⟨-, -, rfl⟩
  exact startsWith_key domain name

theorem reads_loadAll (registry : Registry) (domain : Domain) :
    (loadAll registry domain).Asks (·.ReadsUnder domain.namePrefix) := by
  refine (PolicyOffer.asks_operation registry (.loadAll domain)).mono ?_
  rintro request ⟨-, rfl⟩
  exact startsWith_self _

theorem reads_loadChanged (registry : Registry) (domain : Domain) (previous : Fingerprints) :
    (loadChanged registry domain previous).Asks (·.ReadsUnder domain.namePrefix) := by
  refine (PolicyOffer.asks_operation registry (.loadChanged domain previous)).mono ?_
  rintro request ⟨-, rfl⟩
  exact startsWith_self _

theorem reads_loadRouteGroups (registry : Registry) (names : List String) :
    (loadRouteGroups registry names).Asks (·.ReadsUnder Domain.routeGroup.namePrefix) := by
  refine (PolicyOffer.asks_operation registry (.loadRouteGroups names)).mono ?_
  rintro request ⟨-, rfl | rfl⟩
  · exact startsWith_self _
  · intro key hkey
    obtain ⟨name, -, rfl⟩ := List.mem_map.mp hkey
    exact startsWith_key .routeGroup name

/-! ## Performing on two tables -/

/-- An operation gives the same before and after, and leaves out the same records, whatever may
interrupt it. -/
def SameFor (operation : Registry → Operation α) (before after : Service Memory) : Prop :=
  ∀ (interrupt : Interrupt) (signal : Option Nat),
    ((after.under interrupt).perform operation signal).1 =
        ((before.under interrupt).perform operation signal).1 ∧
      ((after.under interrupt).perform operation signal).2.2 =
        ((before.under interrupt).perform operation signal).2.2

theorem sameFor_of_eval {operation : Registry → Operation α}
    (h : ((operation registry).eval after).result = ((operation registry).eval before).result ∧
      ((operation registry).eval after).skipped = ((operation registry).eval before).skipped) :
    SameFor operation (onTable registry before) (onTable registry after) := by
  obtain ⟨hresult, hskipped⟩ := h
  intro interrupt signal
  simp only [perform, under, onTable]
  cases hoperation : operation registry with
  | refused error => exact ⟨rfl, rfl⟩
  | guarded title program =>
    rw [hoperation] at hresult hskipped
    simp only [Operation.perform]
    split
    · exact ⟨rfl, rfl⟩
    · rw [Program.run_instant, Program.run_instant]
      exact ⟨congrArg some hresult, hskipped⟩

theorem perform_eq_ok_iff {operation : Registry → Operation α} {interrupt : Interrupt}
    {signal : Option Nat} {a : α} :
    (((onTable registry memory).under interrupt).perform operation signal).1 = some (.ok a) ↔
      interrupt.isGiven = false ∧ ((operation registry).eval memory).result = .ok a := by
  simp only [perform, under, onTable]
  cases operation registry with
  | refused error =>
    constructor
    · intro h
      cases h
    · rintro ⟨-, h⟩
      cases h
  | guarded title program =>
    simp only [Operation.perform]
    split
    next hgiven =>
      constructor
      · intro h
        cases h
      · rintro ⟨hnot, -⟩
        rw [hgiven] at hnot
        cases hnot
    next hgiven =>
      rw [Program.run_instant, Option.some_inj]
      exact (and_iff_right (eq_false_of_ne_true hgiven)).symm

/-- An operation that writes only elsewhere leaves the rows under a prefix as they are. -/
theorem sameUnder_perform (operation : Registry → Operation α)
    (h : ∀ name, startsWith namePrefix name = true → (operation registry).Spares name)
    (memory : Memory) (interrupt : Interrupt) (signal : Option Nat) :
    memory.SameUnder namePrefix
      (((onTable registry memory).under interrupt).perform operation signal).2.1.state :=
  fun name hstart => spares_perform operation (h name hstart) memory interrupt signal

end Service

/-! ## Calls of other domains -/

/-- A call that stores or removes a policy of another domain, or advances the counter. -/
def Action.ForeignTo (domain : Domain) : Action → Prop
  | .store other _ | .remove other _ => other ≠ domain
  | .bump => True
  | .upsert _ _ | .delete _ => False

/-- A call that stores or removes a policy. -/
def Action.OfPolicy : Action → Prop
  | .store _ _ | .remove _ _ => True
  | .bump | .upsert _ _ | .delete _ => False

theorem startsWith_eq_false {domain other : Domain} (h : other ≠ domain) {name : String}
    (hstart : startsWith domain.namePrefix name = true) :
    startsWith other.namePrefix name = false :=
  eq_false_of_ne_true fun hother => h (domain_eq_of_startsWith hother hstart)

namespace Service

variable {registry : Registry} {domain : Domain}

theorem sameUnder_act {action : Action} (h : action.ForeignTo domain) (registry : Registry)
    (memory : Memory) (interrupt : Interrupt) (signal : Option Nat) :
    memory.SameUnder domain.namePrefix
      (((onTable registry memory).under interrupt).act signal action).state := by
  cases action with
  | upsert name value => exact h.elim
  | delete name => exact h.elim
  | store other policy =>
    refine sameUnder_perform (store · policy) (fun name hstart => ?_) memory interrupt signal
    exact spares_store (startsWith_eq_false h hstart) registry policy
  | remove other removed =>
    refine sameUnder_perform (remove · other removed) (fun name hstart => ?_) memory interrupt signal
    exact spares_remove (startsWith_eq_false h hstart) registry removed
  | bump =>
    refine sameUnder_perform (fun _ => bumpReorgVersion) (fun name hstart => spares_bump ?_)
      memory interrupt signal
    rintro rfl
    rw [startsWith_reorgKey] at hstart
    exact nomatch hstart

/-- A call that is about a policy does not touch the counter. -/
theorem reorgKey_act {action : Action} (h : action.OfPolicy) (registry : Registry)
    (memory : Memory) (interrupt : Interrupt) (signal : Option Nat) :
    (((onTable registry memory).under interrupt).act signal action).state.rows[reorgKey]? =
      memory.rows[reorgKey]? := by
  cases action with
  | upsert name value => exact h.elim
  | delete name => exact h.elim
  | store other policy =>
    have hspares := spares_store (startsWith_reorgKey other) registry policy
    exact spares_perform (store · policy) hspares memory interrupt signal
  | remove other removed =>
    have hspares := spares_remove (startsWith_reorgKey other) registry removed
    exact spares_perform (remove · other removed) hspares memory interrupt signal
  | bump => exact h.elim

/-! ## What loads of a domain give afterwards -/

/-- Every load of a domain gives the same before and after, except possibly a load by id. -/
structure Untouched (domain : Domain) (before after : Service Memory) : Prop where
  load : ∀ name, SameFor (load · domain name) before after
  loadAll : SameFor (loadAll · domain) before after
  loadChanged : ∀ previous, SameFor (loadChanged · domain previous) before after
  loadRouteGroups : domain = .routeGroup →
    ∀ names, SameFor (loadRouteGroups · names) before after

theorem untouched_of_sameUnder (h : before.SameUnder domain.namePrefix after) :
    Untouched domain (onTable registry before) (onTable registry after) where
  load name := sameFor_of_eval ((reads_load registry domain name).eval_eq h)
  loadAll := sameFor_of_eval ((reads_loadAll registry domain).eval_eq h)
  loadChanged previous := sameFor_of_eval ((reads_loadChanged registry domain previous).eval_eq h)
  loadRouteGroups hdomain names := by
    subst hdomain
    exact sameFor_of_eval ((reads_loadRouteGroups registry names).eval_eq h)

theorem sameFor_reorgVersion (h : after.rows[reorgKey]? = before.rows[reorgKey]?) :
    SameFor (fun _ => reorgVersion) (onTable registry before) (onTable registry after) := by
  refine sameFor_of_eval ?_
  have hread : after.loadByName reorgKey = before.loadByName reorgKey := by
    rw [Memory.loadByName, Memory.loadByName, h]
  rw [eval_reorgVersion, eval_reorgVersion, hread]
  exact ⟨rfl, rfl⟩

theorem hasPolicy_iff_of_sameUnder (h : before.SameUnder domain.namePrefix after)
    (policy : Policy domain) : after.HasPolicy policy ↔ before.HasPolicy policy := by
  have hrow := h _ (startsWith_key domain policy.name)
  constructor
  · rintro ⟨hnamed, row, hheld, hpolicy⟩
    exact ⟨hnamed, row, hrow ▸ hheld, hpolicy⟩
  · rintro ⟨hnamed, row, hheld, hpolicy⟩
    exact ⟨hnamed, row, hrow.trans hheld, hpolicy⟩

/-- As long as ids are distinct, a load by id gives a policy after a call of another domain if it gave
it before. -/
theorem loadById_eq_ok_iff (registered : registry.isRegistered domain.namePrefix = true)
    (h : before.SameUnder domain.namePrefix after) (hbefore : before.DistinctIds)
    (hafter : after.DistinctIds) (id : RecordId) (policy : Policy domain) (interrupt : Interrupt)
    (signal : Option Nat) :
    (((onTable registry after).under interrupt).perform (loadById · domain id) signal).1 =
        some (.ok policy) ↔
      (((onTable registry before).under interrupt).perform (loadById · domain id) signal).1 =
        some (.ok policy) := by
  rw [perform_eq_ok_iff, perform_eq_ok_iff, eval_loadById_eq_ok_iff registered hafter,
    eval_loadById_eq_ok_iff registered hbefore, hasPolicy_iff_of_sameUnder h]

/-! ## What loads give at all -/

/-- Whatever may interrupt it, a load gives only policies that the table has. -/
structure GivesHeld (service : Service Memory) : Prop where
  load : ∀ (domain : Domain) name policy interrupt signal,
    ((service.under interrupt).perform (load · domain name) signal).1 = some (.ok policy) →
      policy.name = name ∧ service.state.HasPolicy policy
  loadById : ∀ (domain : Domain) id policy interrupt signal,
    ((service.under interrupt).perform (loadById · domain id) signal).1 = some (.ok policy) →
      policy.id = id ∧ service.state.HasPolicy policy
  loadAll : ∀ (domain : Domain) snapshot interrupt signal,
    ((service.under interrupt).perform (loadAll · domain) signal).1 = some (.ok snapshot) →
      snapshot.HeldBy service.state
  loadChanged : ∀ (domain : Domain) previous delta interrupt signal,
    ((service.under interrupt).perform (loadChanged · domain previous) signal).1 =
      some (.ok delta) → ∀ id policy, delta.changed[id]? = some policy →
        policy.id = id ∧ service.state.HasPolicy policy
  loadRouteGroups : ∀ names groups interrupt signal,
    ((service.under interrupt).perform (loadRouteGroups · names) signal).1 = some (.ok groups) →
      ∀ (name : String) group, groups[name]? = some group →
        group.name = name ∧ service.state.HasPolicy group
  loadRateLimitConfig : ∀ config interrupt signal,
    ((service.under interrupt).perform loadRateLimitConfig signal).1 = some (.ok config) →
      config.strategies.HeldBy service.state ∧ config.allowLists.HeldBy service.state

theorem givesHeld_onTable (memory : Memory) : GivesHeld (onTable .builtin memory) where
  load domain name policy interrupt signal h := by
    obtain ⟨-, hresult⟩ := perform_eq_ok_iff.mp h
    exact (eval_load_eq_ok_iff (builtin_isRegistered domain)).mp hresult
  loadById domain id policy interrupt signal h := by
    obtain ⟨-, hresult⟩ := perform_eq_ok_iff.mp h
    exact eval_loadById_eq_ok (builtin_isRegistered domain) hresult
  loadAll domain snapshot interrupt signal h := by
    obtain ⟨-, hresult⟩ := perform_eq_ok_iff.mp h
    rw [eval_loadAll (builtin_isRegistered domain)] at hresult
    obtain rfl := Except.ok.inj hresult
    exact Snapshot.heldBy_loaded memory domain
  loadChanged domain previous delta interrupt signal h id policy hpolicy := by
    obtain ⟨-, hresult⟩ := perform_eq_ok_iff.mp h
    rw [eval_loadChanged (builtin_isRegistered domain)] at hresult
    obtain rfl := Except.ok.inj hresult
    obtain ⟨record, hrecord, rfl, hdecodes⟩ := Delta.exists_of_decode hpolicy
    exact Memory.hasPolicy_of_record (Memory.mem_records_of_loadByPrefix record hrecord) hdecodes
  loadRouteGroups names groups interrupt signal h name group hgroup := by
    obtain ⟨-, hresult⟩ := perform_eq_ok_iff.mp h
    obtain ⟨records, hrecords, heval⟩ :=
      eval_loadRouteGroups (builtin_isRegistered .routeGroup) names memory
    rw [heval] at hresult
    obtain rfl := Except.ok.inj hresult
    exact hasPolicy_of_groupsOf hrecords hgroup
  loadRateLimitConfig config interrupt signal h := by
    obtain ⟨-, hresult⟩ := perform_eq_ok_iff.mp h
    rw [eval_loadRateLimitConfig (builtin_isRegistered .strategy)
      (builtin_isRegistered .allowList)] at hresult
    obtain rfl := Except.ok.inj hresult
    exact ⟨Snapshot.heldBy_loaded memory .strategy, Snapshot.heldBy_loaded memory .allowList⟩

/-! ## Histories -/

theorem distinct_after (registry : Registry) {calls : List Call}
    (hcreated : (inMemory registry).creations calls < 2 ^ 64) :
    ((inMemory registry).after calls).state.DistinctIds := by
  rw [inMemory_eq] at hcreated ⊢
  obtain ⟨memory, hmemory, hleads⟩ := leads_after registry .empty calls
  have hbound : 0 + (onTable registry .empty).creations calls < 2 ^ 64 := by rwa [Nat.zero_add]
  rw [hmemory]
  exact (Memory.counted_numbered.leads hleads Memory.numbered_empty hbound).distinct

/-- After any history a call that stores or removes a policy or advances the counter changes nothing
that a load of another domain gives, a call about a policy does not change the counter either, and
no load ever gives a policy but from a row under the prefix of its domain, whose name goes on after the
prefix. -/
theorem domains_apart (calls : List Call) :
    (∀ (call : Call) (domain : Domain), call.action.ForeignTo domain →
      Untouched domain ((inMemory .builtin).after calls)
          (((inMemory .builtin).after calls).afterCall call) ∧
        ((inMemory .builtin).creations (calls ++ [call]) < 2 ^ 64 →
          ∀ (id : RecordId) (policy : Policy domain) (interrupt : Interrupt) (signal : Option Nat),
            (((((inMemory .builtin).after calls).afterCall call).under interrupt).perform
                (loadById · domain id) signal).1 = some (.ok policy) ↔
              ((((inMemory .builtin).after calls).under interrupt).perform
                (loadById · domain id) signal).1 = some (.ok policy))) ∧
      (∀ call : Call, call.action.OfPolicy →
        SameFor (fun _ => reorgVersion) ((inMemory .builtin).after calls)
          (((inMemory .builtin).after calls).afterCall call)) ∧
      GivesHeld ((inMemory .builtin).after calls) := by
  obtain ⟨memory, hmemory, -⟩ := leads_after .builtin .empty calls
  rw [← inMemory_eq] at hmemory
  have hafter : ∀ call, (onTable .builtin memory).afterCall call =
      onTable .builtin (((onTable .builtin memory).under call.interrupt).act call.signal
        call.action).state := fun _ => rfl
  refine ⟨fun call domain hforeign => ?_, fun call hpolicy => ?_, ?_⟩
  · have hsame := sameUnder_act hforeign .builtin memory call.interrupt call.signal
    refine ⟨?_, fun hcreated id policy interrupt signal => ?_⟩
    · rw [hmemory, hafter]
      exact untouched_of_sameUnder hsame
    · have hpast : (inMemory .builtin).creations calls < 2 ^ 64 :=
        Nat.lt_of_le_of_lt (creations_mono _ (List.prefix_append calls [call])) hcreated
      have hbefore := distinct_after .builtin hpast
      have hlater := distinct_after .builtin hcreated
      rw [after_append, hmemory] at hlater
      rw [hmemory] at hbefore ⊢
      exact loadById_eq_ok_iff (builtin_isRegistered domain) hsame hbefore hlater id policy
        interrupt signal
  · rw [hmemory, hafter]
    exact sameFor_reorgVersion (reorgKey_act hpolicy .builtin memory call.interrupt call.signal)
  · rw [hmemory]
    exact givesHeld_onTable memory

/-- Stores, under a deadline, a strategy whose name is the record name of an allow-list. -/
def storeLookalike : Call where
  action := .store .strategy ⟨0, "acl.allowlist.ops", (⟨.fixedWindow, ∅⟩ : Strategy)⟩
  interrupt := ⟨none, some (.ofMillis 1000)⟩

/-- Beside a corrupt allow-list, the strategy changes nothing that a load of allow-lists gives. -/
theorem domains_apart_lookalike :
    Untouched .allowList ((inMemory .builtin).after [writeCorrupt])
        (((inMemory .builtin).after [writeCorrupt]).afterCall storeLookalike) ∧
      (∀ policy : Policy .allowList,
        (((((inMemory .builtin).after [writeCorrupt]).afterCall storeLookalike).under
            .unbounded).perform (loadById · .allowList 1) none).1 = some (.ok policy) ↔
          ((((inMemory .builtin).after [writeCorrupt]).under .unbounded).perform
            (loadById · .allowList 1) none).1 = some (.ok policy)) ∧
      SameFor (fun _ => reorgVersion) ((inMemory .builtin).after [writeCorrupt])
        (((inMemory .builtin).after [writeCorrupt]).afterCall storeLookalike) := by
  obtain ⟨hforeign, hpolicy, -⟩ := domains_apart [writeCorrupt]
  have hother : storeLookalike.action.ForeignTo .allowList := by
    change Domain.strategy ≠ Domain.allowList
    decide
  have hcreated : (inMemory .builtin).creations ([writeCorrupt] ++ [storeLookalike]) < 2 ^ 64 :=
    Nat.lt_of_le_of_lt (creations_le_length _ _ _) (by decide)
  obtain ⟨huntouched, hfound⟩ := hforeign storeLookalike .allowList hother
  exact ⟨huntouched, fun policy => hfound hcreated 1 policy .unbounded none,
    hpolicy storeLookalike trivial⟩

end Service

end PolicyStore
