import PolicyStore.Proofs.Service.Loading

/-!
# How policies are found

A table has a policy when the row of the policy's name decodes to it. Every load gives policies that
the table has: by name, by record id, with all of its domain, among those that changed. As long as no
two rows have one id, a policy that the table has is also found in each of these ways.
-/

namespace PolicyStore

variable {memory : Memory} {registry : Registry} {domain : Domain} {policy : Policy domain}

/-- A policy has a name, and the row of this name decodes to the policy. -/
structure Memory.HasPolicy (memory : Memory) (policy : Policy domain) : Prop where
  named : policy.name ≠ ""
  row : ∃ row, memory.rows[domain.key policy.name]? = some row ∧
    Policy.ofRecord domain (row.record (domain.key policy.name)) = .ok policy

namespace Memory

theorem hasPolicy_of_row {name : String} {row : Row} (hrow : memory.rows[name]? = some row)
    (h : Policy.ofRecord domain (row.record name) = .ok policy) :
    policy.id = row.id ∧ memory.HasPolicy policy := by
  obtain ⟨hid, hnamed, rfl⟩ := Policy.ofRecord_row h
  exact ⟨hid, hnamed, row, hrow, h⟩

theorem hasPolicy_of_record {record : Record} (hmem : record ∈ memory.records)
    (h : Policy.ofRecord domain record = .ok policy) :
    policy.id = record.id ∧ memory.HasPolicy policy := by
  obtain ⟨row, hrow, heq⟩ := mem_records_iff.mp hmem
  rw [heq] at h ⊢
  exact hasPolicy_of_row hrow h

/-- A policy that a table has is that of a record of its domain. -/
theorem HasPolicy.exists_record (h : memory.HasPolicy policy) :
    ∃ record ∈ memory.loadByPrefix domain.namePrefix, record.id = policy.id ∧
      Policy.ofRecord domain record = .ok policy := by
  obtain ⟨row, hrow, hpolicy⟩ := h.row
  refine ⟨_, record_mem_loadByPrefix hrow (startsWith_key domain policy.name), ?_, hpolicy⟩
  exact (Policy.ofRecord_row hpolicy).1.symm

/-- A table has one policy to a name. -/
theorem HasPolicy.eq_of_name {other : Policy domain} (h : memory.HasPolicy policy)
    (hother : memory.HasPolicy other) (hname : policy.name = other.name) : policy = other := by
  obtain ⟨row, hrow, hpolicy⟩ := h.row
  obtain ⟨now, hnow, hotherPolicy⟩ := hother.row
  rw [hname] at hrow hpolicy
  rw [hnow] at hrow
  obtain rfl := Option.some.inj hrow
  exact Except.ok.inj (hpolicy.symm.trans hotherPolicy)

theorem HasPolicy.keepsRules (h : memory.HasPolicy policy) : domain.KeepsRules policy.content := by
  obtain ⟨row, hrow, hpolicy⟩ := h.row
  obtain ⟨-, -, hpayload⟩ := Policy.ofRecord_eq_ok hpolicy
  exact (Policy.ofPayload_eq_ok hpayload).2.2.2

end Memory

/-! ## Snapshots of a table -/

/-- All policies of a domain in a table. -/
abbrev Memory.snapshot (memory : Memory) (domain : Domain) : Snapshot domain :=
  (Snapshot.decode domain (memory.loadByPrefix domain.namePrefix)).1

theorem Memory.hasPolicy_of_decode {records : List Record}
    (hrecords : ∀ record ∈ records, record ∈ memory.records) {id : RecordId}
    (h : (Snapshot.decode domain records).1.items[id]? = some policy) :
    policy.id = id ∧ memory.HasPolicy policy := by
  obtain ⟨record, hmem, rfl, hpolicy⟩ := Snapshot.exists_of_decode h
  exact hasPolicy_of_record (hrecords record hmem) hpolicy

theorem Memory.mem_records_of_loadByPrefix {namePrefix : String} :
    ∀ record ∈ memory.loadByPrefix namePrefix, record ∈ memory.records :=
  fun _ hrecord => (mem_loadByPrefix_iff.mp hrecord).1

/-- Every policy in a snapshot is one that the table has, under its id. -/
def Snapshot.HeldBy (snapshot : Snapshot domain) (memory : Memory) : Prop :=
  ∀ id policy, snapshot.items[id]? = some policy → policy.id = id ∧ memory.HasPolicy policy

theorem Snapshot.heldBy_loaded (memory : Memory) (domain : Domain) :
    (memory.snapshot domain).HeldBy memory :=
  fun _ _ => Memory.hasPolicy_of_decode Memory.mem_records_of_loadByPrefix

/-- Under an id a load holds the policy that the table has with this id. -/
theorem Memory.snapshot_items_iff (distinct : memory.DistinctIds) {id : RecordId} :
    (memory.snapshot domain).items[id]? = some policy ↔ policy.id = id ∧ memory.HasPolicy policy := by
  constructor
  · exact hasPolicy_of_decode mem_records_of_loadByPrefix
  · rintro ⟨rfl, h⟩
    obtain ⟨record, hmem, hid, hpolicy⟩ := h.exists_record
    exact (Snapshot.decode_items (distinct.loadByPrefix _) _ _).mpr ⟨record, hmem, hid, hpolicy⟩

/-- A load of a domain holds the policies that the table has. -/
theorem Memory.mem_snapshot_values_iff (distinct : memory.DistinctIds) :
    policy ∈ (memory.snapshot domain).items.values ↔ memory.HasPolicy policy := by
  rw [mem_values_iff]
  constructor
  · rintro ⟨id, hitem⟩
    exact ((snapshot_items_iff distinct).mp hitem).2
  · intro h
    exact ⟨policy.id, (snapshot_items_iff distinct).mpr ⟨rfl, h⟩⟩

/-- By a name a load finds the policy that the table has under it. -/
theorem Memory.snapshot_byName?_iff (distinct : memory.DistinctIds) {name : String} :
    (memory.snapshot domain).byName? name = some policy ↔
      policy.name = name ∧ memory.HasPolicy policy := by
  rw [Snapshot.byName?]
  constructor
  · intro h
    have hname := List.find?_some h
    exact ⟨by simpa using hname,
      (mem_snapshot_values_iff distinct).mp (List.mem_of_find?_eq_some h)⟩
  · rintro ⟨rfl, h⟩
    cases hfind : (memory.snapshot domain).items.values.find? fun other =>
        other.name == policy.name with
    | none =>
      have hnone := List.find?_eq_none.mp hfind policy ((mem_snapshot_values_iff distinct).mpr h)
      simp at hnone
    | some other =>
      have hname : other.name = policy.name := by simpa using List.find?_some hfind
      have hother := (mem_snapshot_values_iff distinct).mp (List.mem_of_find?_eq_some hfind)
      rw [hother.eq_of_name h hname]

namespace Service

/-- The groups of records come from the records, and are found by their own names. -/
theorem exists_of_groupsOf {records : List Record} {name : String} {group : Policy .routeGroup}
    (h : (groupsOf (Snapshot.decode .routeGroup records).1)[name]? = some group) :
    group.name = name ∧ ∃ record ∈ records, Policy.ofRecord .routeGroup record = .ok group := by
  have hput : ((Snapshot.decode .routeGroup records).1.items.values.foldl
      (put Policy.name some) ∅)[name]? = some group := h
  rcases exists_of_foldl_put hput with ⟨other, hother, hname, hgroup⟩ | hnone
  · obtain rfl := Option.some.inj hgroup
    obtain ⟨id, hitem⟩ := mem_values_iff.mp hother
    obtain ⟨record, hmem, -, hdecodes⟩ := Snapshot.exists_of_decode hitem
    exact ⟨hname, record, hmem, hdecodes⟩
  · simp at hnone

/-- The groups of records that a table has are groups that it has, under their names. -/
theorem hasPolicy_of_groupsOf {records : List Record}
    (hrecords : ∀ record ∈ records, record ∈ memory.records) {name : String}
    {group : Policy .routeGroup}
    (h : (groupsOf (Snapshot.decode .routeGroup records).1)[name]? = some group) :
    group.name = name ∧ memory.HasPolicy group := by
  obtain ⟨hname, record, hmem, hdecodes⟩ := exists_of_groupsOf h
  exact ⟨hname, (Memory.hasPolicy_of_record (hrecords record hmem) hdecodes).2⟩

/-! ## Loads of one policy -/

variable (registered : registry.isRegistered domain.namePrefix = true)

include registered

theorem eval_load_eq_ok_iff {name : String} :
    ((load registry domain name).eval memory).result = .ok policy ↔
      policy.name = name ∧ memory.HasPolicy policy := by
  by_cases hname : name = ""
  · subst hname
    rw [load, Operation.eval_after_error (domainKey_empty registered)]
    constructor
    · intro h
      cases h
    · rintro ⟨hempty, h⟩
      exact absurd hempty h.named
  rw [eval_load registered hname]
  constructor
  · intro h
    cases hrow : memory.rows[domain.key name]? with
    | none =>
      rw [hrow] at h
      cases h
    | some row =>
      rw [hrow] at h
      have hkey := (Policy.ofRecord_row h).2.2
      exact ⟨(encodeKey_injective hkey).symm, (Memory.hasPolicy_of_row hrow h).2⟩
  · rintro ⟨rfl, -, row, hrow, hpolicy⟩
    rw [hrow]
    exact hpolicy

theorem eval_loadById_eq_ok {id : RecordId}
    (h : ((loadById registry domain id).eval memory).result = .ok policy) :
    policy.id = id ∧ memory.HasPolicy policy := by
  rw [eval_loadById registered, Memory.loadById] at h
  cases hfind : memory.records.find? fun record => record.id == id with
  | none =>
    rw [hfind] at h
    cases h
  | some record =>
    rw [hfind] at h
    have hid : record.id = id := by simpa using List.find?_some hfind
    rw [← hid]
    exact Memory.hasPolicy_of_record (List.mem_of_find?_eq_some hfind) h

theorem eval_loadById_eq_ok_iff (distinct : memory.DistinctIds) {id : RecordId} :
    ((loadById registry domain id).eval memory).result = .ok policy ↔
      policy.id = id ∧ memory.HasPolicy policy := by
  refine ⟨eval_loadById_eq_ok registered, ?_⟩
  rintro ⟨rfl, -, row, hrow, hpolicy⟩
  rw [eval_loadById registered, (Policy.ofRecord_row hpolicy).1, distinct.loadById hrow]
  exact hpolicy

omit registered

theorem eval_loadRateLimitConfig
    (hstrategy : registry.isRegistered Domain.strategy.namePrefix = true)
    (hallowList : registry.isRegistered Domain.allowList.namePrefix = true) (memory : Memory) :
    ((loadRateLimitConfig registry).eval memory).result =
      .ok ⟨memory.snapshot .strategy, memory.snapshot .allowList⟩ := by
  simp only [loadRateLimitConfig, withSnapshot, require_eq_ok hstrategy, require_eq_ok hallowList]
  rfl

theorem eval_loadRouteGroups (h : registry.isRegistered Domain.routeGroup.namePrefix = true)
    (names : List String) (memory : Memory) :
    ∃ records, (∀ record ∈ records, record ∈ memory.records) ∧
      ((loadRouteGroups registry names).eval memory).result =
        .ok (groupsOf (Snapshot.decode .routeGroup records).1) := by
  rw [loadRouteGroups, Operation.eval_after_ok (require_eq_ok h), Operation.eval]
  split
  · exact ⟨_, Memory.mem_records_of_loadByPrefix, rfl⟩
  · refine ⟨memory.loadRecords (names.map Domain.routeGroup.key), fun record hrecord => ?_, rfl⟩
    obtain ⟨name, -, hname⟩ := Memory.mem_loadRecords_iff.mp hrecord
    obtain ⟨row, hrow, rfl⟩ := Memory.loadByName_eq_some_iff.mp hname
    exact Memory.record_mem_records hrow

end Service

end PolicyStore
