import PolicyStore.Proofs.Namespace.Keys
import PolicyStore.RecordStore.Memory

/-!
# Which records a table gives

The table is looked at row by row here: which records are listed, which a scan by prefix finds, and
which one an id leads to. A scan reads a stretch of the names in their order, and the names that
start with the prefix are just such a stretch.
-/

namespace PolicyStore

/-! ## Prefixes in the order of names -/

/-- A text that starts with another one does not come before it. -/
theorem not_lt_of_prefix {p s : List Char} (h : p <+: s) : ¬s < p := by
  induction p generalizing s with
  | nil => exact List.not_lt_nil s
  | cons c p ih =>
    obtain ⟨rest, rfl⟩ := h
    rw [List.cons_append, List.cons_lt_cons_iff]
    rintro (hlt | ⟨-, hlt⟩)
    · exact Std.Irrefl.irrefl c hlt
    · exact ih (List.prefix_append p rest) hlt

/-- Once a text from the prefix on does not start with it, no later text does. -/
theorem not_prefix_of_lt {p s t : List Char} (hfrom : ¬s < p) (hs : ¬p <+: s) (hlt : s < t) :
    ¬p <+: t := by
  induction p generalizing s t with
  | nil => exact absurd List.nil_prefix hs
  | cons c p ih =>
    rintro ⟨rest, rfl⟩
    rw [List.cons_append] at hlt
    cases s with
    | nil => exact hfrom (List.nil_lt_cons c p)
    | cons d s =>
      rw [List.cons_lt_cons_iff] at hfrom hlt
      rcases hlt with hlt | ⟨rfl, hlt⟩
      · exact hfrom (.inl hlt)
      · refine ih (fun h => hfrom (.inr ⟨rfl, h⟩)) (fun h => hs ?_) hlt (List.prefix_append p rest)
        exact (List.prefix_cons_inj d).mpr h

@[simp] theorem Row.record_id (name : String) (row : Row) : (row.record name).id = row.id := rfl

@[simp] theorem Row.record_name (name : String) (row : Row) : (row.record name).name = name := rfl

@[simp] theorem Row.record_value (name : String) (row : Row) :
    (row.record name).value = row.value := rfl

namespace Memory

variable {memory : Memory}

/-! ## Listing -/

theorem loadByName_eq_some_iff {name : String} {record : Record} :
    memory.loadByName name = some record ↔
      ∃ row, memory.rows[name]? = some row ∧ row.record name = record := by
  rw [loadByName, Option.map_eq_some_iff]

theorem mem_records_iff {record : Record} :
    record ∈ memory.records ↔
      ∃ row, memory.rows[record.name]? = some row ∧ record = row.record record.name := by
  rw [records, List.mem_map]
  constructor
  · rintro ⟨⟨name, row⟩, hmem, rfl⟩
    exact ⟨row, Std.ExtTreeMap.mem_toList_iff_getElem?_eq_some.mp hmem, rfl⟩
  · rintro ⟨row, hrow, hrecord⟩
    exact ⟨(record.name, row), Std.ExtTreeMap.mem_toList_iff_getElem?_eq_some.mpr hrow,
      hrecord.symm⟩

theorem record_mem_records {name : String} {row : Row} (h : memory.rows[name]? = some row) :
    row.record name ∈ memory.records :=
  mem_records_iff.mpr ⟨row, h, rfl⟩

theorem records_ordered : memory.records.Pairwise fun a b => a.name < b.name := by
  rw [records, List.pairwise_map]
  have ordered : memory.rows.toList.Pairwise fun a b => compare a.1 b.1 = .lt :=
    Std.ExtTreeMap.ordered_keys_toList
  exact ordered.imp fun {a b} h => (compareOfLessAndEq_eq_lt (x := a.1) (y := b.1)).mp h

/-! ## Scanning -/

section Scan

variable {namePrefix : String} {record : Record} {records : List Record}

theorem startsWith_of_not_lt (h : record.name < namePrefix) :
    startsWith namePrefix record.name = false := by
  rw [Bool.eq_false_iff, ne_eq, startsWith_iff]
  exact fun hstart => not_lt_of_prefix hstart h

theorem startsWith_later {later : Record} (hfrom : ¬record.name < namePrefix)
    (h : startsWith namePrefix record.name = false) (hlt : record.name < later.name) :
    startsWith namePrefix later.name = false := by
  rw [Bool.eq_false_iff, ne_eq, startsWith_iff] at h ⊢
  exact not_prefix_of_lt hfrom h hlt

/-- From the prefix on, the names that start with it come first. -/
theorem filter_eq_takeWhile (ordered : records.Pairwise fun a b => a.name < b.name)
    (hfrom : ∀ record ∈ records, ¬record.name < namePrefix) :
    records.filter (fun record => startsWith namePrefix record.name) =
      records.takeWhile fun record => startsWith namePrefix record.name := by
  induction records with
  | nil => rfl
  | cons record records ih =>
    obtain ⟨hfirst, ordered⟩ := List.pairwise_cons.mp ordered
    obtain ⟨hrecord, hfrom⟩ := List.forall_mem_cons.mp hfrom
    cases h : startsWith namePrefix record.name with
    | true => simp [h, ih ordered hfrom]
    | false =>
      have hnone : records.filter (fun record => startsWith namePrefix record.name) = [] :=
        List.filter_eq_nil_iff.mpr fun later hlater => by
          simp [startsWith_later hrecord h (hfirst later hlater)]
      simp [h, hnone]

/-- In the order of names the names that start with a prefix follow one another, from the first one
that does not come before it. -/
theorem filter_eq_scan (ordered : records.Pairwise fun a b => a.name < b.name) :
    records.filter (fun record => startsWith namePrefix record.name) =
      (records.dropWhile fun record => record.name < namePrefix).takeWhile
        fun record => startsWith namePrefix record.name := by
  induction records with
  | nil => rfl
  | cons record records ih =>
    obtain ⟨hfirst, hrest⟩ := List.pairwise_cons.mp ordered
    by_cases hbefore : record.name < namePrefix
    · rw [List.filter_cons_of_neg (by simp [startsWith_of_not_lt hbefore]), ih hrest,
        List.dropWhile_cons, if_pos (decide_eq_true hbefore)]
    · have hfrom : ∀ later ∈ record :: records, ¬later.name < namePrefix := by
        refine List.forall_mem_cons.mpr ⟨hbefore, fun later hlater hlt => hbefore ?_⟩
        exact List.lt_trans (hfirst later hlater) hlt
      rw [List.dropWhile_cons, if_neg fun h => hbefore (of_decide_eq_true h)]
      exact filter_eq_takeWhile ordered hfrom

end Scan

/-- A scan is a plain filter. -/
theorem loadByPrefix_eq (memory : Memory) (namePrefix : String) :
    memory.loadByPrefix namePrefix =
      sortedById (memory.records.filter fun record => startsWith namePrefix record.name) := by
  rw [filter_eq_scan records_ordered]
  rfl

theorem loadByPrefix_perm (namePrefix : String) :
    (memory.loadByPrefix namePrefix).Perm
      (memory.records.filter fun record => startsWith namePrefix record.name) := by
  rw [loadByPrefix_eq]
  exact List.mergeSort_perm _ _

theorem mem_loadByPrefix_iff {namePrefix : String} {record : Record} :
    record ∈ memory.loadByPrefix namePrefix ↔
      record ∈ memory.records ∧ startsWith namePrefix record.name = true := by
  rw [(loadByPrefix_perm namePrefix).mem_iff, List.mem_filter]

theorem record_mem_loadByPrefix {namePrefix name : String} {row : Row}
    (hrow : memory.rows[name]? = some row) (hstart : startsWith namePrefix name = true) :
    row.record name ∈ memory.loadByPrefix namePrefix :=
  mem_loadByPrefix_iff.mpr ⟨record_mem_records hrow, hstart⟩

theorem mem_loadRecords_iff {names : List String} {record : Record} :
    record ∈ memory.loadRecords names ↔ ∃ name ∈ names, memory.loadByName name = some record := by
  have hperm : (memory.loadRecords names).Perm (names.filterMap memory.loadByName) :=
    List.mergeSort_perm _ _
  rw [hperm.mem_iff, List.mem_filterMap]

/-! ## Ids -/

/-- No two rows have one id. -/
def DistinctIds (memory : Memory) : Prop :=
  ∀ (a b : String) (row other : Row), memory.rows[a]? = some row →
    memory.rows[b]? = some other → row.id = other.id → a = b

/-- Records of one id are one record. -/
theorem DistinctIds.eq_of_id (h : memory.DistinctIds) {a b : Record} (ha : a ∈ memory.records)
    (hb : b ∈ memory.records) (hid : a.id = b.id) : a = b := by
  obtain ⟨row, hrow, ha⟩ := mem_records_iff.mp ha
  obtain ⟨other, hother, hb⟩ := mem_records_iff.mp hb
  have hids : row.id = other.id := by
    rw [ha, hb] at hid
    exact hid
  have hname := h a.name b.name row other hrow hother hids
  rw [hname, hother] at hrow
  obtain rfl := Option.some.inj hrow
  rw [ha, hb, hname]

theorem DistinctIds.records (h : memory.DistinctIds) :
    memory.records.Pairwise fun a b => a.id ≠ b.id := by
  refine records_ordered.imp_of_mem fun {a b} ha hb hlt hid => ?_
  have heq := h.eq_of_id ha hb hid
  rw [heq] at hlt
  exact String.lt_irrefl _ hlt

theorem DistinctIds.loadByPrefix (h : memory.DistinctIds) (namePrefix : String) :
    (memory.loadByPrefix namePrefix).Pairwise fun a b => a.id ≠ b.id := by
  refine ((loadByPrefix_perm namePrefix).pairwise_iff fun hne => hne.symm).mpr ?_
  exact h.records.filter _

theorem DistinctIds.loadById (h : memory.DistinctIds) {name : String} {row : Row}
    (hrow : memory.rows[name]? = some row) :
    memory.loadById row.id = .ok (row.record name) := by
  have hmem := record_mem_records hrow
  rw [Memory.loadById]
  split
  next record hfound =>
    have hid : record.id = row.id := by simpa using List.find?_some hfound
    rw [h.eq_of_id (List.mem_of_find?_eq_some hfound) hmem hid]
  next hnone => exact absurd (beq_self_eq_true row.id) (List.find?_eq_none.mp hnone _ hmem)

/-- An id leads to the record that has it. -/
theorem DistinctIds.loadById_eq_ok_iff (h : memory.DistinctIds) {id : RecordId} {record : Record} :
    memory.loadById id = .ok record ↔
      memory.loadByName record.name = some record ∧ record.id = id := by
  constructor
  · intro hload
    rw [Memory.loadById] at hload
    split at hload
    next found hfound =>
      obtain rfl := Except.ok.inj hload
      obtain ⟨row, hrow, heq⟩ := mem_records_iff.mp (List.mem_of_find?_eq_some hfound)
      have hid : found.id = id := by simpa using List.find?_some hfound
      exact ⟨loadByName_eq_some_iff.mpr ⟨row, hrow, heq.symm⟩, hid⟩
    next => simp at hload
  · rintro ⟨hload, rfl⟩
    obtain ⟨row, hrow, heq⟩ := loadByName_eq_some_iff.mp hload
    have hid : record.id = row.id := by rw [← heq, Row.record_id]
    rw [hid, h.loadById hrow, heq]

theorem loadById_none {id : RecordId}
    (h : ∀ (name : String) (row : Row), memory.rows[name]? = some row → row.id ≠ id) :
    memory.loadById id = .error (.recordNotFound (.byId id)) := by
  rw [Memory.loadById, List.find?_eq_none.mpr]
  intro record hrecord
  obtain ⟨row, hrow, heq⟩ := mem_records_iff.mp hrecord
  have hid := h record.name row hrow
  rw [heq]
  simpa using hid

end Memory

end PolicyStore
