import PolicyStore.Proofs.RecordStore.History

/-!
# Records asked for by name

The stored function of a database gives the rows whose names are in a list, each of them once and in
the order of ids. A table in memory goes through the list instead: it gives a row as often as the
list has its name. So the two agree just on the lists in which no name of a row is repeated.
-/

namespace PolicyStore.Memory

variable {memory : Memory} {names other : List String} {record : Record}

/-! ## In the order of ids -/

theorem sortedById_perm (records : List Record) : (sortedById records).Perm records :=
  List.mergeSort_perm _ _

theorem sortedById_ordered (records : List Record) :
    (sortedById records).Pairwise fun a b => a.id ≤ b.id := by
  have htrans : ∀ a b c : Record, decide (a.id ≤ b.id) = true → decide (b.id ≤ c.id) = true →
      decide (a.id ≤ c.id) = true := by
    intro a b c hab hbc
    rw [decide_eq_true_iff] at hab hbc ⊢
    exact Int64.le_trans hab hbc
  have htotal : ∀ a b : Record, (decide (a.id ≤ b.id) || decide (b.id ≤ a.id)) = true := by
    intro a b
    rw [Bool.or_eq_true, decide_eq_true_iff, decide_eq_true_iff]
    exact Int64.le_total a.id b.id
  have hsorted := List.pairwise_mergeSort htrans htotal records
  exact hsorted.imp of_decide_eq_true

/-- Records of a table are in one order of ids only. -/
theorem DistinctIds.eq_of_perm (h : memory.DistinctIds) {first second : List Record}
    (hfirst : first.Pairwise fun a b => a.id ≤ b.id)
    (hsecond : second.Pairwise fun a b => a.id ≤ b.id)
    (hmem : ∀ record ∈ first, record ∈ memory.records) (hperm : first.Perm second) :
    first = second := by
  refine List.Perm.eq_of_pairwise (fun a b ha hb hab hba => ?_) hfirst hsecond hperm
  exact h.eq_of_id (hmem a ha) (hmem b (hperm.mem_iff.mpr hb)) (Int64.le_antisymm hab hba)

/-- Records of a table of which none is repeated are in a strict order of ids. -/
theorem DistinctIds.strict_of_nodup (h : memory.DistinctIds) {records : List Record}
    (hordered : records.Pairwise fun a b => a.id ≤ b.id)
    (hmem : ∀ record ∈ records, record ∈ memory.records) (hnodup : records.Nodup) :
    records.Pairwise fun a b => a.id < b.id := by
  refine (hnodup.and hordered).imp_of_mem fun {a b} ha hb hab => ?_
  obtain ⟨hne, hle⟩ := hab
  refine Int64.lt_iff_le_and_ne.mpr ⟨hle, fun hid => hne ?_⟩
  exact h.eq_of_id (hmem a ha) (hmem b hb) hid

/-! ## How often a row is given -/

theorem loadByName_name {name : String} (h : memory.loadByName name = some record) :
    record.name = name := by
  obtain ⟨row, -, rfl⟩ := loadByName_eq_some_iff.mp h
  rfl

theorem loadByName_self_iff : memory.loadByName record.name = some record ↔ record ∈ memory.records := by
  rw [mem_records_iff, loadByName_eq_some_iff]
  exact exists_congr fun row => and_congr_right fun _ => eq_comm

theorem records_of_mem_loadRecords (h : record ∈ memory.loadRecords names) :
    record ∈ memory.records ∧ record.name ∈ names := by
  obtain ⟨name, hname, hload⟩ := mem_loadRecords_iff.mp h
  have hsame := loadByName_name hload
  subst hsame
  exact ⟨loadByName_self_iff.mp hload, hname⟩

/-- A row is given as often as its name is asked for. -/
theorem count_loadRecords (h : record ∈ memory.records) (names : List String) :
    (memory.loadRecords names).count record = names.count record.name := by
  have hload := loadByName_self_iff.mpr h
  rw [loadRecords, (sortedById_perm _).count_eq, List.count_filterMap, List.count_eq_countP]
  refine List.countP_congr fun name _ => ?_
  rw [beq_iff_eq, beq_iff_eq]
  constructor
  · intro hname
    exact (loadByName_name hname).symm
  · rintro rfl
    exact hload

theorem count_loadRecords_other (h : record ∉ memory.records) (names : List String) :
    (memory.loadRecords names).count record = 0 :=
  List.count_eq_zero.mpr fun hmem => h (records_of_mem_loadRecords hmem).1

/-- The order in which names are asked for does not matter. -/
theorem DistinctIds.loadRecords_perm (h : memory.DistinctIds) (hperm : names.Perm other) :
    memory.loadRecords names = memory.loadRecords other := by
  refine h.eq_of_perm (sortedById_ordered _) (sortedById_ordered _)
    (fun record hrecord => (records_of_mem_loadRecords hrecord).1) ?_
  exact (sortedById_perm _).trans ((hperm.filterMap _).trans (sortedById_perm _).symm)

/-! ## Each row once -/

/-- What the stored function of a database gives: the rows whose names are in a list, in the order of
ids. -/
def fetchByNames (memory : Memory) (names : List String) : List Record :=
  sortedById (memory.records.filter fun record => names.contains record.name)

/-- The records given are those of the table whose names are in a list, each once, and their ids
ascend. -/
structure Selects (memory : Memory) (names : List String) (given : List Record) : Prop where
  once : ∀ record, given.count record =
    if record ∈ memory.records ∧ record.name ∈ names then 1 else 0
  ascending : given.Pairwise fun a b => a.id < b.id

theorem mem_fetchByNames_iff :
    record ∈ memory.fetchByNames names ↔ record ∈ memory.records ∧ record.name ∈ names := by
  rw [fetchByNames, (sortedById_perm _).mem_iff, List.mem_filter, List.contains_iff_mem]

theorem DistinctIds.nodup_fetchByNames (h : memory.DistinctIds) (names : List String) :
    (memory.fetchByNames names).Nodup := by
  have hrecords : memory.records.Nodup :=
    h.records.imp fun hne hsame => hne (congrArg Record.id hsame)
  exact (sortedById_perm _).nodup_iff.mpr (hrecords.filter _)

theorem DistinctIds.selects_fetchByNames (h : memory.DistinctIds) (names : List String) :
    memory.Selects names (memory.fetchByNames names) := by
  have hnodup := h.nodup_fetchByNames names
  constructor
  · intro record
    rw [hnodup.count]
    exact if_congr mem_fetchByNames_iff rfl rfl
  · refine h.strict_of_nodup (sortedById_ordered _) (fun record hrecord => ?_) hnodup
    exact (mem_fetchByNames_iff.mp hrecord).1

/-- Only one list of records is what a list of names selects. -/
theorem Selects.eq {first second : List Record} (hfirst : memory.Selects names first)
    (hsecond : memory.Selects names second) : first = second := by
  have hperm : first.Perm second :=
    List.perm_iff_count.mpr fun record => (hfirst.once record).trans (hsecond.once record).symm
  refine List.Perm.eq_of_pairwise (fun a b _ _ hab hba => ?_) hfirst.ascending hsecond.ascending
    hperm
  exact absurd hba (Int64.lt_asymm hab)

/-- No name of a record is in a list more than once. -/
def AsksOnce (memory : Memory) (names : List String) : Prop :=
  ∀ record ∈ memory.records, names.count record.name ≤ 1

theorem count_loadRecords_once (h : memory.AsksOnce names) (record : Record) :
    (memory.loadRecords names).count record =
      if record ∈ memory.records ∧ record.name ∈ names then 1 else 0 := by
  by_cases hrecord : record ∈ memory.records
  · have hle := h record hrecord
    rw [count_loadRecords hrecord names]
    by_cases hname : record.name ∈ names
    · have hpos := List.count_pos_iff.mpr hname
      rw [if_pos ⟨hrecord, hname⟩]
      omega
    · rw [if_neg fun hboth => hname hboth.2, List.count_eq_zero.mpr hname]
  · rw [if_neg fun hboth => hrecord hboth.1, count_loadRecords_other hrecord names]

theorem DistinctIds.selects_loadRecords (h : memory.DistinctIds) (honce : memory.AsksOnce names) :
    memory.Selects names (memory.loadRecords names) := by
  have hcount := count_loadRecords_once honce
  refine ⟨hcount, h.strict_of_nodup (sortedById_ordered _) (fun record hrecord => ?_) ?_⟩
  · exact (records_of_mem_loadRecords hrecord).1
  · refine List.nodup_iff_count.mpr fun record => ?_
    rw [hcount record]
    split <;> omega

/-- Going through the list gives what the database gives just when no row is asked for twice. -/
theorem DistinctIds.loadRecords_eq_fetch_iff (h : memory.DistinctIds) (names : List String) :
    memory.loadRecords names = memory.fetchByNames names ↔ memory.AsksOnce names := by
  have hfetched := h.selects_fetchByNames names
  constructor
  · intro hsame record hrecord
    rw [← count_loadRecords hrecord names, hsame, hfetched.once record]
    split <;> omega
  · intro honce
    exact (h.selects_loadRecords honce).eq hfetched

/-- After any history a table gives the rows that are asked for in the order of ids, in whatever order
their names come, each as often as its name does. So they are what a list of names selects, as they
always are when a database gives them, just when no row is asked for twice. -/
theorem rows_by_names (requests : List Request) (hcreated : empty.created requests < 2 ^ 63)
    (names : List String) :
    (∀ record, ((empty.after requests).loadRecords names).count record =
      if record ∈ (empty.after requests).records then names.count record.name else 0) ∧
    (((empty.after requests).loadRecords names).Pairwise fun a b => a.id ≤ b.id) ∧
    (∀ other, names.Perm other →
      (empty.after requests).loadRecords names = (empty.after requests).loadRecords other) ∧
    (empty.after requests).Selects names ((empty.after requests).fetchByNames names) ∧
    ((empty.after requests).loadRecords names = (empty.after requests).fetchByNames names ↔
      (empty.after requests).AsksOnce names) := by
  have hdistinct := (sound_after hcreated).distinct
  refine ⟨fun record => ?_, sortedById_ordered _, fun other hperm => hdistinct.loadRecords_perm hperm,
    hdistinct.selects_fetchByNames names, hdistinct.loadRecords_eq_fetch_iff names⟩
  split
  next hrecord => exact count_loadRecords hrecord names
  next hrecord => exact count_loadRecords_other hrecord names

/-- The record that a write of `1` under `a` leaves in an empty table. -/
def firstRecord : Record := ⟨1, "a", "1", 1, 1⟩

theorem firstRecord_loaded :
    (empty.after [.upsert "a" "1"]).loadByName "a" = some firstRecord := by
  change ((empty.create "a" "1").2.rows["a"]?).map (Row.record "a") = _
  rw [create_rows, if_pos rfl]
  rfl

/-- A row that is asked for twice is given twice. -/
theorem row_given_twice :
    (empty.after [.upsert "a" "1"]).loadRecords ["a", "a"] = [firstRecord, firstRecord] ∧
      ¬(empty.after [.upsert "a" "1"]).Selects ["a", "a"]
        ((empty.after [.upsert "a" "1"]).loadRecords ["a", "a"]) := by
  have hgiven : (empty.after [.upsert "a" "1"]).loadRecords ["a", "a"] =
      [firstRecord, firstRecord] := by
    rw [loadRecords, List.filterMap_cons_some firstRecord_loaded,
      List.filterMap_cons_some firstRecord_loaded, List.filterMap_nil]
    exact List.mergeSort_of_pairwise (by simp)
  refine ⟨hgiven, fun hselects => ?_⟩
  have honce := hselects.once firstRecord
  rw [hgiven] at honce
  revert honce
  split <;> decide

theorem rows_by_names_repeated :
    ((empty.after [.upsert "a" "1"]).loadRecords ["a", "missing", "a"]).count firstRecord = 2 ∧
      (empty.after [.upsert "a" "1"]).loadRecords ["a", "missing", "a"] =
        (empty.after [.upsert "a" "1"]).loadRecords ["missing", "a", "a"] ∧
      (empty.after [.upsert "a" "1"]).Selects ["a", "missing", "a"]
        ((empty.after [.upsert "a" "1"]).fetchByNames ["a", "missing", "a"]) := by
  have hcreated : empty.created [.upsert "a" "1"] < 2 ^ 63 :=
    Nat.lt_of_le_of_lt (created_le_length _ _) (by decide)
  obtain ⟨hcount, -, hperm, hfetched, -⟩ :=
    rows_by_names [.upsert "a" "1"] hcreated ["a", "missing", "a"]
  have hheld : firstRecord ∈ (empty.after [.upsert "a" "1"]).records :=
    loadByName_self_iff.mp firstRecord_loaded
  refine ⟨?_, hperm _ (by decide), hfetched⟩
  rw [hcount, if_pos hheld]
  decide

end PolicyStore.Memory
