import PolicyStore.Proofs.Service.Failing
import PolicyStore.Proofs.Service.Finding
import PolicyStore.Proofs.Service.Storing

/-!
# Loads of a whole domain beside loads of one policy

A load of one policy fails when its record does not decode. A load of a domain leaves such a record out
and mentions it, and so it fails only when the record store does. Apart from that, both find the same
policies: whatever is loaded under an id or a name is what a load of this id or name gives.
-/

namespace PolicyStore.Service

variable {σ α : Type} {registry : Registry} {domain : Domain}

/-! ## Loads that only the record store fails -/

theorem lenient_withSnapshot (registered : registry.isRegistered domain.namePrefix = true)
    {next : Snapshot domain → Program α} (h : ∀ snapshot, (next snapshot).Lenient) :
    (withSnapshot registry domain next).Lenient := by
  rw [withSnapshot, require_eq_ok registered]
  exact Program.lenient_request (.loadByPrefix _) fun records => h _

theorem lenient_loadAll (registered : registry.isRegistered domain.namePrefix = true) :
    (loadAll registry domain).Lenient :=
  lenient_withSnapshot registered fun snapshot => ⟨snapshot, rfl⟩

theorem lenient_loadChanged (registered : registry.isRegistered domain.namePrefix = true)
    (previous : Fingerprints) : (loadChanged registry domain previous).Lenient := by
  refine Operation.lenient_after (require_eq_ok registered) ?_
  exact Program.lenient_request (.loadByPrefix _) fun records => ⟨_, rfl⟩

theorem lenient_loadRateLimitConfig
    (hstrategy : registry.isRegistered Domain.strategy.namePrefix = true)
    (hallowList : registry.isRegistered Domain.allowList.namePrefix = true) :
    (loadRateLimitConfig registry).Lenient := by
  refine lenient_withSnapshot hstrategy fun strategies => ?_
  exact lenient_withSnapshot hallowList fun allowLists => ⟨⟨strategies, allowLists⟩, rfl⟩

theorem lenient_loadRouteGroups
    (registered : registry.isRegistered Domain.routeGroup.namePrefix = true) (names : List String) :
    (loadRouteGroups registry names).Lenient := by
  refine Operation.lenient_after (require_eq_ok registered) ?_
  change Program.Lenient (if _ then _ else _)
  split
  · exact Program.lenient_request (.loadByPrefix _) fun records => ⟨_, rfl⟩
  · exact Program.lenient_request (.loadRecords _) fun records => ⟨_, rfl⟩

/-- A load of registered domains that is not interrupted fails just when the record store does. -/
structure OnlyStoreFails (service : Service σ) (signal : Option Nat) : Prop where
  loadAll : ∀ domain : Domain, service.registry.isRegistered domain.namePrefix = true →
    ¬service.Interrupted (loadAll · domain) signal →
      FailsAsAsked service (loadAll · domain) signal
  loadChanged : ∀ (domain : Domain) (previous : Fingerprints),
    service.registry.isRegistered domain.namePrefix = true →
      ¬service.Interrupted (loadChanged · domain previous) signal →
        FailsAsAsked service (loadChanged · domain previous) signal
  loadRateLimitConfig : service.registry.isRegistered Domain.strategy.namePrefix = true →
    service.registry.isRegistered Domain.allowList.namePrefix = true →
      ¬service.Interrupted loadRateLimitConfig signal →
        FailsAsAsked service loadRateLimitConfig signal
  loadRouteGroups : ∀ names : List String,
    service.registry.isRegistered Domain.routeGroup.namePrefix = true →
      ¬service.Interrupted (loadRouteGroups · names) signal →
        FailsAsAsked service (loadRouteGroups · names) signal

theorem onlyStoreFails (service : Service σ) (signal : Option Nat) :
    OnlyStoreFails service signal where
  loadAll _ registered := failsAsAsked (lenient_loadAll registered)
  loadChanged _ previous registered := failsAsAsked (lenient_loadChanged registered previous)
  loadRateLimitConfig hstrategy hallowList :=
    failsAsAsked (lenient_loadRateLimitConfig hstrategy hallowList)
  loadRouteGroups names registered := failsAsAsked (lenient_loadRouteGroups registered names)

/-! ## Policies that both find -/

/-- A snapshot has under an id what a load by this id gives, and by a name what a load of this name
gives. -/
structure Matches (service : Service Memory) (snapshot : Snapshot domain) : Prop where
  items : ∀ (id : RecordId) (policy : Policy domain), snapshot.items[id]? = some policy ↔
    (service.perform (loadById · domain id) none).1 = some (.ok policy)
  byName : ∀ (name : String) (policy : Policy domain), snapshot.byName? name = some policy ↔
    (service.perform (load · domain name) none).1 = some (.ok policy)

theorem matches_snapshot (registered : registry.isRegistered domain.namePrefix = true)
    {memory : Memory} (distinct : memory.DistinctIds) :
    Matches (onTable registry memory) (memory.snapshot domain) where
  items id policy := by
    rw [perform_onTable, Option.some_inj, eval_loadById_eq_ok_iff registered distinct]
    exact Memory.snapshot_items_iff distinct
  byName name policy := by
    rw [perform_onTable, Option.some_inj, eval_load_eq_ok_iff registered]
    exact Memory.snapshot_byName?_iff distinct

/-- Records of which no two have one id come to policies under their ids or are skipped. Loads of whole
domains fail only with the record store, and after a history they find just what loads of one
policy find. -/
theorem bulk_loads_agree (domain : Domain) :
    (∀ records : List Record, (records.Pairwise fun a b => a.id ≠ b.id) →
      Snapshot.Sorts records (Snapshot.decode domain records).1
        (Snapshot.decode domain records).2) ∧
    (∀ {σ : Type} (service : Service σ) (signal : Option Nat), OnlyStoreFails service signal) ∧
    ∀ (registry : Registry) (calls : List Call),
      registry.isRegistered domain.namePrefix = true →
        (inMemory registry).creations calls < 2 ^ 63 →
          ∃ snapshot : Snapshot domain,
            (((inMemory registry).after calls).perform (loadAll · domain) none).1 =
              some (.ok snapshot) ∧
            Matches ((inMemory registry).after calls) snapshot := by
  refine ⟨fun records distinct => Snapshot.decode_sorts distinct,
    fun service signal => onlyStoreFails service signal,
    fun registry calls registered hcreated => ?_⟩
  obtain ⟨memory, hmemory, hsound⟩ := after_inMemory registry hcreated
  rw [hmemory]
  refine ⟨memory.snapshot domain, ?_, matches_snapshot registered hsound.distinct⟩
  rw [perform_onTable, eval_loadAll registered]

/-- A record that decodes among one of another domain, one without a name and one that is not JSON. -/
def mixedRecords : List Record :=
  [⟨3, "acl.allowlist.a", "\x7b\x7d", 1, 1⟩, ⟨1, "routegroup.a", "\x7b\x7d", 2, 2⟩,
    ⟨2, "acl.allowlist.", "\x7b\x7d", 3, 3⟩, ⟨7, "acl.allowlist.b", "?", 4, 4⟩]

/-- A service whose record store is closed. -/
def closedService : Service Unit :=
  ⟨fun _ _ => ⟨0, (), some 0, .error (.queryFailed "load_by_prefix" .poolClosed)⟩, (), .builtin,
    .unbounded⟩

theorem bulk_loads_agree_mixed :
    Snapshot.Sorts mixedRecords (Snapshot.decode .allowList mixedRecords).1
        (Snapshot.decode .allowList mixedRecords).2 ∧
      FailsAsAsked closedService (loadAll · .allowList) none ∧
      ∃ snapshot : Snapshot .allowList,
        (((inMemory .builtin).after [writeCorrupt]).perform (loadAll · .allowList) none).1 =
          some (.ok snapshot) ∧
        Matches ((inMemory .builtin).after [writeCorrupt]) snapshot := by
  obtain ⟨hsorts, hfails, hmatches⟩ := bulk_loads_agree .allowList
  have registered := builtin_isRegistered .allowList
  have huninterrupted : ¬closedService.Interrupted (loadAll · .allowList) none :=
    not_interrupted_unbounded rfl _ _
  have hcreated : (inMemory .builtin).creations [writeCorrupt] < 2 ^ 63 :=
    Nat.lt_of_le_of_lt (creations_le_length _ _ _) (by decide)
  exact ⟨hsorts mixedRecords (by decide),
    (hfails closedService none).loadAll .allowList registered huninterrupted,
    hmatches .builtin [writeCorrupt] registered hcreated⟩

end PolicyStore.Service
