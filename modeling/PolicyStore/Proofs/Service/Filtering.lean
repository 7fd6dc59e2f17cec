import PolicyStore.Proofs.Service.Separation

/-!
# Route groups of some names

With names to look for, a load of route groups looks each of them up; without any it scans the prefix.
Both put the groups that decode together by record id and then by name. They give the same groups all
the same: under a name either load gives what a load of this one name gives, the first for the names
that are asked for, the second for all.
-/

namespace PolicyStore

variable {memory : Memory} {registry : Registry}

namespace Memory

/-- The records under the prefix decode to the groups that the table has. -/
theorem hasPolicy_iff_loadByPrefix {group : Policy .routeGroup} :
    (∃ record ∈ memory.loadByPrefix Domain.routeGroup.namePrefix,
      Policy.ofRecord .routeGroup record = .ok group) ↔ memory.HasPolicy group := by
  constructor
  · rintro ⟨record, hmem, hdecodes⟩
    exact (hasPolicy_of_record (mem_records_of_loadByPrefix record hmem) hdecodes).2
  · intro h
    obtain ⟨record, hmem, -, hdecodes⟩ := h.exists_record
    exact ⟨record, hmem, hdecodes⟩

/-- The records that are looked up for names decode to the groups of these names. -/
theorem hasPolicy_iff_loadRecords {names : List String} {group : Policy .routeGroup} :
    (∃ record ∈ memory.loadRecords (names.map Domain.routeGroup.key),
      Policy.ofRecord .routeGroup record = .ok group) ↔
        group.name ∈ names ∧ memory.HasPolicy group := by
  constructor
  · rintro ⟨record, hmem, hdecodes⟩
    obtain ⟨key, hkey, hloaded⟩ := mem_loadRecords_iff.mp hmem
    obtain ⟨name, hname, rfl⟩ := List.mem_map.mp hkey
    obtain ⟨row, hrow, rfl⟩ := loadByName_eq_some_iff.mp hloaded
    obtain rfl := encodeKey_injective (Policy.ofRecord_row hdecodes).2.2
    exact ⟨hname, (hasPolicy_of_row hrow hdecodes).2⟩
  · rintro ⟨hname, h⟩
    obtain ⟨row, hrow, hdecodes⟩ := h.row
    refine ⟨_, mem_loadRecords_iff.mpr ⟨_, List.mem_map_of_mem hname, ?_⟩, hdecodes⟩
    exact loadByName_eq_some_iff.mpr ⟨row, hrow, rfl⟩

end Memory

namespace Service

/-- The groups of records of a table are those that the records decode to, each under its name. -/
theorem groupsOf_eq_some_iff (distinct : memory.DistinctIds) {records : List Record}
    (hrecords : ∀ record ∈ records, record ∈ memory.records) {name : String}
    {group : Policy .routeGroup} :
    (groupsOf (Snapshot.decode .routeGroup records).1)[name]? = some group ↔
      group.name = name ∧ ∃ record ∈ records, Policy.ofRecord .routeGroup record = .ok group := by
  refine ⟨exists_of_groupsOf, ?_⟩
  rintro ⟨rfl, record, hmem, hdecodes⟩
  exact groupsOf_decode distinct hrecords hmem hdecodes

variable (registered : registry.isRegistered Domain.routeGroup.namePrefix = true)

include registered

/-- Without names, a load gives the groups that the table has. -/
theorem eval_loadRouteGroups_all (distinct : memory.DistinctIds) :
    ∃ groups, ((loadRouteGroups registry []).eval memory).result = .ok groups ∧
      ∀ (name : String) (group : Policy .routeGroup),
        groups[name]? = some group ↔ group.name = name ∧ memory.HasPolicy group := by
  refine ⟨groupsOf (memory.snapshot .routeGroup), ?_, fun name group => ?_⟩
  · rw [loadRouteGroups, Operation.eval_after_ok (require_eq_ok registered)]
    rfl
  · rw [groupsOf_eq_some_iff distinct Memory.mem_records_of_loadByPrefix,
      Memory.hasPolicy_iff_loadByPrefix]

/-- With names, a load gives those of the groups that have one of the names. -/
theorem eval_loadRouteGroups_named (distinct : memory.DistinctIds) {names : List String}
    (hnames : names ≠ []) :
    ∃ groups, ((loadRouteGroups registry names).eval memory).result = .ok groups ∧
      ∀ (name : String) (group : Policy .routeGroup), groups[name]? = some group ↔
        name ∈ names ∧ group.name = name ∧ memory.HasPolicy group := by
  have hrecords : ∀ record ∈ memory.loadRecords (names.map Domain.routeGroup.key),
      record ∈ memory.records := by
    intro record hmem
    obtain ⟨key, -, hloaded⟩ := Memory.mem_loadRecords_iff.mp hmem
    obtain ⟨row, hrow, rfl⟩ := Memory.loadByName_eq_some_iff.mp hloaded
    exact Memory.record_mem_records hrow
  refine ⟨groupsOf (Snapshot.decode .routeGroup
    (memory.loadRecords (names.map Domain.routeGroup.key))).1, ?_, fun name group => ?_⟩
  · rw [loadRouteGroups, Operation.eval_after_ok (require_eq_ok registered), if_neg (by simpa)]
    rfl
  · rw [groupsOf_eq_some_iff distinct hrecords, Memory.hasPolicy_iff_loadRecords]
    constructor
    · rintro ⟨rfl, hmem, h⟩
      exact ⟨hmem, rfl, h⟩
    · rintro ⟨hmem, rfl, h⟩
      exact ⟨rfl, hmem, h⟩

omit registered

/-- The groups that a load finds for some names, beside all groups: they are these groups restricted to
the names. In both a group stands under its own name, and is what a load of this name gives. -/
structure Restricts (service : Service Memory) (names : List String)
    (groups all : RouteGroups) : Prop where
  restricted : groups = all.filter fun name _ => decide (name ∈ names)
  named : ∀ (name : String) (group : Policy .routeGroup), all[name]? = some group →
    group.name = name
  loaded : ∀ (name : String) (group : Policy .routeGroup), groups[name]? = some group ↔
    name ∈ names ∧ (service.perform (load · .routeGroup name) none).1 = some (.ok group)
  loadedAll : ∀ (name : String) (group : Policy .routeGroup), all[name]? = some group ↔
    (service.perform (load · .routeGroup name) none).1 = some (.ok group)
  failed : ∀ (name : String) (error : PolicyError),
    (service.perform (load · .routeGroup name) none).1 = some (.error error) →
      name ∉ all ∧ name ∉ groups

theorem filter_of_forall_iff {groups all : RouteGroups} {names : List String}
    (h : ∀ (name : String) (group : Policy .routeGroup),
      groups[name]? = some group ↔ name ∈ names ∧ all[name]? = some group) :
    groups = all.filter fun name _ => decide (name ∈ names) := by
  refine Std.ExtTreeMap.ext_getElem? fun name => Option.ext fun group => ?_
  rw [Std.ExtTreeMap.getElem?_filter', Option.filter_eq_some_iff, decide_eq_true_eq, h]
  exact and_comm

theorem not_mem_of_forall_ne {groups : RouteGroups} {name : String}
    (h : ∀ group, groups[name]? ≠ some group) : name ∉ groups := by
  rw [Std.ExtTreeMap.mem_iff_isSome_getElem?, Option.isSome_iff_exists]
  rintro ⟨group, hgroup⟩
  exact h group hgroup

theorem restricts_onTable (distinct : memory.DistinctIds) {names : List String}
    (hnames : names ≠ []) :
    ∃ groups all : RouteGroups,
      ((onTable .builtin memory).perform (loadRouteGroups · names) none).1 = some (.ok groups) ∧
      ((onTable .builtin memory).perform (loadRouteGroups · []) none).1 = some (.ok all) ∧
      Restricts (onTable .builtin memory) names groups all := by
  have registered := builtin_isRegistered .routeGroup
  obtain ⟨groups, hgroups, hgroupsIff⟩ := eval_loadRouteGroups_named registered distinct hnames
  obtain ⟨all, hall, hallIff⟩ := eval_loadRouteGroups_all registered distinct
  have hload : ∀ (name : String) (group : Policy .routeGroup),
      ((onTable .builtin memory).perform (load · .routeGroup name) none).1 = some (.ok group) ↔
        group.name = name ∧ memory.HasPolicy group := by
    intro name group
    rw [perform_onTable, Option.some_inj]
    exact eval_load_eq_ok_iff registered
  refine ⟨groups, all, by rw [perform_onTable, hgroups], by rw [perform_onTable, hall], ?_⟩
  have hloadedAll := fun name group => (hallIff name group).trans (hload name group).symm
  have hloaded := fun name group =>
    (hgroupsIff name group).trans (and_congr_right' (hload name group).symm)
  refine ⟨filter_of_forall_iff fun name group => ?_, fun name group h => ?_, hloaded, hloadedAll,
    fun name error herror => ⟨?_, ?_⟩⟩
  · rw [hgroupsIff, hallIff]
  · exact ((hallIff name group).mp h).1
  · refine not_mem_of_forall_ne fun group hgroup => ?_
    rw [hloadedAll, herror] at hgroup
    cases hgroup
  · refine not_mem_of_forall_ne fun group hgroup => ?_
    rw [hloaded, herror] at hgroup
    cases hgroup.2

/-- After any history a load of the route groups of some names gives what a load of all route groups
gives, restricted to these names. -/
theorem loadRouteGroups_restricts (calls : List Call)
    (hcreated : (inMemory .builtin).creations calls < 2 ^ 64) {names : List String}
    (hnames : names ≠ []) :
    ∃ groups all : RouteGroups,
      (((inMemory .builtin).after calls).perform (loadRouteGroups · names) none).1 =
        some (.ok groups) ∧
      (((inMemory .builtin).after calls).perform (loadRouteGroups · []) none).1 =
        some (.ok all) ∧
      Restricts ((inMemory .builtin).after calls) names groups all := by
  obtain ⟨memory, hmemory, -⟩ := leads_after .builtin .empty calls
  rw [← inMemory_eq] at hmemory
  have distinct := distinct_after .builtin hcreated
  rw [hmemory] at distinct ⊢
  exact restricts_onTable distinct hnames

/-- Stores a group, and writes beside it a row without a name, one that is not JSON, and one whose
payload is not a group. -/
def storeBesideCorrupt : List Call :=
  [⟨.store .routeGroup ⟨0, "vip", (⟨["http://vip:8545"]⟩ : RouteGroup)⟩, .unbounded, none⟩,
    ⟨.upsert "noderoute.group." "?", .unbounded, none⟩,
    ⟨.upsert "noderoute.group.torn" "?", .unbounded, none⟩,
    ⟨.upsert "noderoute.group.broken" "\x7b\"nodes\":\"http://x\"\x7d", .unbounded, none⟩]

theorem loadRouteGroups_restricts_corrupt :
    ∃ groups all : RouteGroups,
      (((inMemory .builtin).after storeBesideCorrupt).perform
        (loadRouteGroups · ["vip", "", "vip", "missing", "torn", "broken"]) none).1 =
          some (.ok groups) ∧
      (((inMemory .builtin).after storeBesideCorrupt).perform (loadRouteGroups · []) none).1 =
        some (.ok all) ∧
      Restricts ((inMemory .builtin).after storeBesideCorrupt)
        ["vip", "", "vip", "missing", "torn", "broken"] groups all :=
  loadRouteGroups_restricts storeBesideCorrupt
    (Nat.lt_of_le_of_lt (creations_le_length _ _ _) (by decide)) (by simp)

end Service

end PolicyStore
