import PolicyStore.Proofs.RecordStore.Selecting
import PolicyStore.Proofs.Text.Order

/-!
# Records asked for by prefix

A scan looks at one stretch of the table: it begins at the first name that does not come before the
prefix, and ends before the first name that does not start with it. All names that start with the
prefix stand there, whether names are compared as characters or as bytes. So a scan gives what a
filter of the whole table would give, in the order of ids.
-/

namespace PolicyStore.Memory

variable {memory : Memory}

/-- The bytes of a record's name. -/
def nameBytes (record : Record) : List UInt8 := Text.utf8 record.name.toList

/-- What a scan looks at when names are compared byte by byte. -/
def byteStretch (memory : Memory) (namePrefix : String) : List Record :=
  (memory.records.dropWhile fun record => nameBytes record < Text.utf8 namePrefix.toList).takeWhile
    fun record => (Text.utf8 namePrefix.toList).isPrefixOf (nameBytes record)

theorem nameBytes_lt_iff (record : Record) (namePrefix : String) :
    nameBytes record < Text.utf8 namePrefix.toList ↔ record.name < namePrefix := by
  unfold nameBytes
  rw [Text.utf8_lt_iff, String.lt_iff]

theorem isPrefixOf_nameBytes (record : Record) (namePrefix : String) :
    (Text.utf8 namePrefix.toList).isPrefixOf (nameBytes record) =
      startsWith namePrefix record.name := by
  rw [Bool.eq_iff_iff, List.isPrefixOf_iff_prefix, startsWith_iff]
  exact Text.utf8_prefix_iff

/-- The table lists its names in the order of their bytes. -/
theorem records_ordered_bytes (memory : Memory) :
    memory.records.Pairwise fun a b => nameBytes a < nameBytes b := by
  refine records_ordered.imp fun {a b} hlt => ?_
  exact (nameBytes_lt_iff a b.name).mpr hlt

/-- A scan does not depend on whether names are compared as characters or as bytes. -/
theorem loadByPrefix_eq_byteStretch (memory : Memory) (namePrefix : String) :
    memory.loadByPrefix namePrefix = sortedById (memory.byteStretch namePrefix) := by
  have hbefore : (fun record : Record =>
      decide (nameBytes record < Text.utf8 namePrefix.toList)) =
        fun record => decide (record.name < namePrefix) := by
    funext record
    exact decide_eq_decide.mpr (nameBytes_lt_iff record namePrefix)
  have hstart : (fun record => (Text.utf8 namePrefix.toList).isPrefixOf (nameBytes record)) =
      fun record => startsWith namePrefix record.name := by
    funext record
    exact isPrefixOf_nameBytes record namePrefix
  unfold byteStretch
  rw [hbefore, hstart]
  rfl

/-- The records given are those of the table whose names start with a prefix, each once, and their
ids ascend. -/
structure Scans (memory : Memory) (namePrefix : String) (given : List Record) : Prop where
  once : ∀ record, given.count record =
    if memory.loadByName record.name = some record ∧ namePrefix.toList <+: record.name.toList then 1
    else 0
  ascending : given.Pairwise fun a b => a.id < b.id

theorem DistinctIds.nodup_loadByPrefix (h : memory.DistinctIds) (namePrefix : String) :
    (memory.loadByPrefix namePrefix).Nodup :=
  (h.loadByPrefix namePrefix).imp fun hne hsame => hne (congrArg Record.id hsame)

theorem DistinctIds.scans_loadByPrefix (h : memory.DistinctIds) (namePrefix : String) :
    memory.Scans namePrefix (memory.loadByPrefix namePrefix) := by
  have hnodup := h.nodup_loadByPrefix namePrefix
  constructor
  · intro record
    have hmem : record ∈ memory.loadByPrefix namePrefix ↔
        memory.loadByName record.name = some record ∧
          namePrefix.toList <+: record.name.toList := by
      rw [mem_loadByPrefix_iff, loadByName_self_iff, startsWith_iff]
    rw [hnodup.count]
    exact if_congr hmem rfl rfl
  · refine h.strict_of_nodup (sortedById_ordered _) (fun record hrecord => ?_) hnodup
    exact (mem_loadByPrefix_iff.mp hrecord).1

/-- After any history a scan gives the rows whose names start with the prefix, each once and in
strictly ascending order of ids. That is a filter of the table put in the order of ids; the table
lists its names in the order of their bytes, and the scan looks at no more than one stretch of it. -/
theorem rows_by_prefix (requests : List Request) (hcreated : empty.created requests < 2 ^ 63)
    (namePrefix : String) :
    (empty.after requests).Scans namePrefix ((empty.after requests).loadByPrefix namePrefix) ∧
    (empty.after requests).loadByPrefix namePrefix =
      sortedById ((empty.after requests).records.filter
        fun record => startsWith namePrefix record.name) ∧
    ((empty.after requests).records.Pairwise fun a b => nameBytes a < nameBytes b) ∧
    (empty.after requests).loadByPrefix namePrefix =
      sortedById ((empty.after requests).byteStretch namePrefix) := by
  have hdistinct := (sound_after hcreated).distinct
  refine ⟨hdistinct.scans_loadByPrefix namePrefix, loadByPrefix_eq _ namePrefix, ?_, ?_⟩
  · exact records_ordered_bytes _
  · exact loadByPrefix_eq_byteStretch _ namePrefix

/-- Writes under names that are shorter than a prefix, equal to it, longer, and beyond it. -/
def nearPrefix : List Request :=
  [.upsert "b.ß" "1", .upsert "b" "2", .upsert "b." "3", .upsert "b/" "4"]

theorem rows_by_prefix_near :
    ((empty.after nearPrefix).loadByPrefix "b.").count ⟨1, "b.ß", "1", 1, 1⟩ = 1 ∧
      ((empty.after nearPrefix).loadByPrefix "b.").count ⟨3, "b.", "3", 3, 3⟩ = 1 ∧
      ((empty.after nearPrefix).loadByPrefix "b.").count ⟨2, "b", "2", 2, 2⟩ = 0 ∧
      ((empty.after nearPrefix).loadByPrefix "b.").Pairwise fun a b => a.id < b.id := by
  have hcreated : empty.created nearPrefix < 2 ^ 63 :=
    Nat.lt_of_le_of_lt (created_le_length _ _) (by decide)
  obtain ⟨hscans, -⟩ := rows_by_prefix nearPrefix hcreated "b."
  refine ⟨?_, ?_, ?_, hscans.ascending⟩
  · rw [hscans.once, if_pos ⟨rfl, by decide⟩]
  · rw [hscans.once, if_pos ⟨rfl, by decide⟩]
  · rw [hscans.once, if_neg fun h => absurd h.2 (by decide)]

end PolicyStore.Memory
