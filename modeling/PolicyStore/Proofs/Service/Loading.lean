import PolicyStore.Proofs.Policy.Polling
import PolicyStore.Proofs.RecordStore.Scanning
import PolicyStore.Proofs.Service.Direct

/-!
# Loading from a table without corrupt rows

Where every row of a domain decodes, a load of the domain skips nothing and gives what each of its
rows decodes to.
-/

namespace PolicyStore

variable {memory : Memory} {registry : Registry} {domain : Domain}

/-- Every row of a domain decodes. -/
def Memory.Decodes (memory : Memory) (domain : Domain) : Prop :=
  ∀ (name : String) (row : Row), memory.rows[name]? = some row →
    startsWith domain.namePrefix name = true →
      ∃ policy, Policy.ofRecord domain (row.record name) = .ok policy

/-- A snapshot has what each row of its domain decodes to. -/
def Snapshot.Covers (snapshot : Snapshot domain) (memory : Memory) : Prop :=
  ∀ (name : String) (row : Row), memory.rows[name]? = some row →
    startsWith domain.namePrefix name = true →
      ∃ policy, Policy.ofRecord domain (row.record name) = .ok policy ∧
        snapshot.items[row.id]? = some policy

/-- A delta has the fingerprint of each row of its domain, and what the row decodes to unless the
fingerprint was there before. -/
def Delta.Covers (delta : Delta domain) (previous : Fingerprints) (memory : Memory) : Prop :=
  ∀ (name : String) (row : Row), memory.rows[name]? = some row →
    startsWith domain.namePrefix name = true →
      delta.fingerprints[row.id]? = some (.of row.value) ∧
        (previous[row.id]? = some (.of row.value) ∨
          ∃ policy, Policy.ofRecord domain (row.record name) = .ok policy ∧
            delta.changed[row.id]? = some policy)

/-- A row that decodes has the id of its policy and is named for it. -/
theorem Policy.ofRecord_row {policy : Policy domain} {name : String} {row : Row}
    (h : ofRecord domain (row.record name) = .ok policy) :
    policy.id = row.id ∧ policy.name ≠ "" ∧ name = domain.key policy.name := by
  obtain ⟨hid, ⟨hnamed, hname⟩, -⟩ := ofRecord_eq_ok h
  rw [Row.record_id] at hid
  rw [Row.record_name] at hname
  exact ⟨hid, hnamed, hname⟩

theorem Memory.Decodes.loadByPrefix (h : memory.Decodes domain) {record : Record}
    (hrecord : record ∈ memory.loadByPrefix domain.namePrefix) :
    ∃ policy, Policy.ofRecord domain record = .ok policy := by
  obtain ⟨hmem, hstart⟩ := mem_loadByPrefix_iff.mp hrecord
  obtain ⟨row, hrow, heq⟩ := mem_records_iff.mp hmem
  obtain ⟨policy, hpolicy⟩ := h record.name row hrow hstart
  exact ⟨policy, by rw [heq, hpolicy]⟩

theorem Snapshot.decode_covers (distinct : memory.DistinctIds) (h : memory.Decodes domain) :
    (decode domain (memory.loadByPrefix domain.namePrefix)).1.Covers memory := by
  intro name row hrow hstart
  obtain ⟨policy, hpolicy⟩ := h name row hrow hstart
  refine ⟨policy, hpolicy, (decode_items (distinct.loadByPrefix _) _ _).mpr ?_⟩
  exact ⟨row.record name, Memory.record_mem_loadByPrefix hrow hstart, rfl, hpolicy⟩

theorem Delta.decode_covers (distinct : memory.DistinctIds) (h : memory.Decodes domain)
    (previous : Fingerprints) :
    (decode domain (memory.loadByPrefix domain.namePrefix) previous).1.Covers previous memory := by
  intro name row hrow hstart
  have hrecord := Memory.record_mem_loadByPrefix hrow hstart
  obtain ⟨policy, hpolicy⟩ := h name row hrow hstart
  constructor
  · refine (decode_fingerprints (distinct.loadByPrefix _) _ _).mpr ?_
    exact ⟨row.record name, hrecord, rfl, .inr ⟨policy, hpolicy⟩, rfl⟩
  · by_cases hseen : previous[row.id]? = some (.of row.value)
    · exact .inl hseen
    · refine .inr ⟨policy, hpolicy, (decode_changed (distinct.loadByPrefix _) _ _).mpr ?_⟩
      exact ⟨row.record name, hrecord, rfl, hseen, hpolicy⟩

/-! ## Groups by name -/

namespace Service

/-- The groups of records are found by their names, however often a record is given. -/
theorem groupsOf_decode {records : List Record} (distinct : memory.DistinctIds)
    (hrecords : ∀ record ∈ records, record ∈ memory.records) {record : Record}
    (hmem : record ∈ records) {group : Policy .routeGroup}
    (hgroup : Policy.ofRecord .routeGroup record = .ok group) :
    (groupsOf (Snapshot.decode .routeGroup records).1)[group.name]? = some group := by
  have hitems : (Snapshot.decode .routeGroup records).1.items =
      records.foldl (put Record.id (Snapshot.policy? .routeGroup)) ∅ := by
    rw [Snapshot.decode_eq]
  -- one id stands for one record, and one name for one id
  have hitem : (Snapshot.decode .routeGroup records).1.items[record.id]? = some group := by
    rw [hitems]
    refine foldl_put_of_same (fun other hother hid => ?_) (.inl ⟨record, hmem, rfl⟩)
    rw [distinct.eq_of_id (hrecords other hother) (hrecords record hmem) hid]
    exact Snapshot.policy?_eq_some_iff.mpr hgroup
  have hsame : ∀ other ∈ (Snapshot.decode .routeGroup records).1.items.values,
      other.name = group.name → some other = some group := by
    intro other hother hname
    obtain ⟨id, hlookup⟩ := mem_values_iff.mp hother
    obtain ⟨source, hsource, -, hpolicy⟩ := Snapshot.exists_of_decode hlookup
    have hsourceName := (Policy.ofRecord_eq_ok hpolicy).2.1.2
    have hrecordName := (Policy.ofRecord_eq_ok hgroup).2.1.2
    obtain ⟨row, hrow, hsourceEq⟩ := Memory.mem_records_iff.mp (hrecords source hsource)
    obtain ⟨now, hnow, hrecordEq⟩ := Memory.mem_records_iff.mp (hrecords record hmem)
    rw [hsourceName, hname, ← hrecordName, hnow] at hrow
    obtain rfl := Option.some.inj hrow
    have hsourceIs : source = record := by
      rw [hsourceEq, hrecordEq, hsourceName, hname, hrecordName]
    rw [hsourceIs, hgroup] at hpolicy
    exact congrArg some (Except.ok.inj hpolicy).symm
  exact foldl_put_of_same hsame (.inl ⟨group, mem_values_iff.mpr ⟨record.id, hitem⟩, rfl⟩)

/-! ## Loads -/

theorem eval_withSnapshot {α : Type} (h : registry.isRegistered domain.namePrefix = true)
    (hdecodes : memory.Decodes domain) (next : Snapshot domain → Program α) :
    (withSnapshot registry domain next).eval memory =
      (next (Snapshot.decode domain (memory.loadByPrefix domain.namePrefix)).1).eval memory := by
  rw [withSnapshot, require_eq_ok h]
  dsimp only
  rw [Program.eval_request]
  simp only [Memory.answer, Program.eval,
    Snapshot.decode_skipped fun _ hrecord => hdecodes.loadByPrefix hrecord]
  rfl

theorem loadAll_covers (h : registry.isRegistered domain.namePrefix = true)
    (distinct : memory.DistinctIds) (hdecodes : memory.Decodes domain) :
    ∃ snapshot, (onTable registry memory).perform (loadAll · domain) none =
        (some (.ok snapshot), onTable registry memory, []) ∧ snapshot.Covers memory := by
  refine ⟨_, ?_, Snapshot.decode_covers distinct hdecodes⟩
  rw [perform_onTable, loadAll, Operation.eval, eval_withSnapshot h hdecodes]
  rfl

theorem loadChanged_covers (h : registry.isRegistered domain.namePrefix = true)
    (distinct : memory.DistinctIds) (hdecodes : memory.Decodes domain) (previous : Fingerprints) :
    ∃ delta, (onTable registry memory).perform (loadChanged · domain previous) none =
        (some (.ok delta), onTable registry memory, []) ∧ delta.Covers previous memory := by
  have hskipped : (Delta.decode domain (memory.loadByPrefix domain.namePrefix) previous).2 = [] :=
    Delta.decode_skipped fun record hrecord => hdecodes.loadByPrefix hrecord
  refine ⟨_, ?_, Delta.decode_covers distinct hdecodes previous⟩
  rw [perform_onTable, loadChanged, Operation.eval_after_ok (require_eq_ok h), Operation.eval,
    Program.eval_request]
  simp only [Memory.answer, Program.eval, hskipped]
  rfl

theorem loadRateLimitConfig_covers
    (hstrategy : registry.isRegistered Domain.strategy.namePrefix = true)
    (hallowList : registry.isRegistered Domain.allowList.namePrefix = true)
    (distinct : memory.DistinctIds) (hstrategies : memory.Decodes .strategy)
    (hallowLists : memory.Decodes .allowList) :
    ∃ config, (onTable registry memory).perform loadRateLimitConfig none =
        (some (.ok config), onTable registry memory, []) ∧
      config.strategies.Covers memory ∧ config.allowLists.Covers memory := by
  refine ⟨⟨_, _⟩, ?_, Snapshot.decode_covers distinct hstrategies,
    Snapshot.decode_covers distinct hallowLists⟩
  rw [perform_onTable, loadRateLimitConfig, Operation.eval, eval_withSnapshot hstrategy hstrategies,
    eval_withSnapshot hallowList hallowLists]
  rfl

theorem eval_groupsProgram {records : List Record} (hdecodes : memory.Decodes .routeGroup)
    (hrecords : ∀ record ∈ records, record ∈ memory.loadByPrefix Domain.routeGroup.namePrefix) :
    (groupsProgram records).eval memory =
      ⟨.ok (groupsOf (Snapshot.decode .routeGroup records).1), memory, []⟩ := by
  rw [groupsProgram]
  simp only [Program.eval,
    Snapshot.decode_skipped fun record hrecord => hdecodes.loadByPrefix (hrecords record hrecord)]
  rfl

/-- A load of route groups finds those that are asked for, which are all of them when no name is
given. -/
theorem loadRouteGroups_covers
    (h : registry.isRegistered Domain.routeGroup.namePrefix = true)
    (distinct : memory.DistinctIds) (hdecodes : memory.Decodes .routeGroup) (names : List String) :
    ∃ groups, (onTable registry memory).perform (loadRouteGroups · names) none =
        (some (.ok groups), onTable registry memory, []) ∧
      ∀ (name : String) (row : Row) (group : Policy .routeGroup),
        memory.rows[Domain.routeGroup.key name]? = some row →
          Policy.ofRecord .routeGroup (row.record (Domain.routeGroup.key name)) = .ok group →
            names = [] ∨ name ∈ names → groups[name]? = some group := by
  have hloaded : ∀ (name : String) (row : Row),
      memory.rows[Domain.routeGroup.key name]? = some row →
        row.record (Domain.routeGroup.key name) ∈
          memory.loadByPrefix Domain.routeGroup.namePrefix :=
    fun name row hrow => Memory.record_mem_loadByPrefix hrow (startsWith_key .routeGroup name)
  have hfound : ∀ records : List Record,
      (∀ record ∈ records, record ∈ memory.loadByPrefix Domain.routeGroup.namePrefix) →
      ∀ (name : String) (row : Row) (group : Policy .routeGroup),
        row.record (Domain.routeGroup.key name) ∈ records →
          Policy.ofRecord .routeGroup (row.record (Domain.routeGroup.key name)) = .ok group →
            (groupsOf (Snapshot.decode .routeGroup records).1)[name]? = some group := by
    intro records hrecords name row group hmem hgroup
    rw [encodeKey_injective (Policy.ofRecord_row hgroup).2.2]
    have hheld : ∀ record ∈ records, record ∈ memory.records := fun record hrecord =>
      (Memory.mem_loadByPrefix_iff.mp (hrecords record hrecord)).1
    exact groupsOf_decode distinct hheld hmem hgroup
  rw [perform_onTable, loadRouteGroups, Operation.eval_after_ok (require_eq_ok h), Operation.eval]
  by_cases hnames : names = []
  · subst hnames
    refine ⟨_, ?_, fun name row group hrow hgroup _ =>
      hfound _ (fun _ => id) name row group (hloaded name row hrow) hgroup⟩
    rw [if_pos List.isEmpty_nil, Program.eval_request]
    simp only [Memory.answer, eval_groupsProgram hdecodes fun _ => id]
  · have hrecords : ∀ record ∈ memory.loadRecords (names.map Domain.routeGroup.key),
        record ∈ memory.loadByPrefix Domain.routeGroup.namePrefix := by
      intro record hrecord
      obtain ⟨key, hkey, hload⟩ := Memory.mem_loadRecords_iff.mp hrecord
      obtain ⟨name, -, rfl⟩ := List.mem_map.mp hkey
      obtain ⟨row, hrow, rfl⟩ := Memory.loadByName_eq_some_iff.mp hload
      exact hloaded name row hrow
    refine ⟨_, ?_, fun name row group hrow hgroup hasked =>
      hfound _ hrecords name row group ?_ hgroup⟩
    · rw [if_neg (by simpa using hnames), Program.eval_request]
      simp only [Memory.answer, eval_groupsProgram hdecodes hrecords]
    · refine Memory.mem_loadRecords_iff.mpr ⟨Domain.routeGroup.key name, ?_, ?_⟩
      · exact List.mem_map_of_mem (hasked.resolve_left hnames)
      · exact Memory.loadByName_eq_some_iff.mpr ⟨row, hrow, rfl⟩

end Service

end PolicyStore
