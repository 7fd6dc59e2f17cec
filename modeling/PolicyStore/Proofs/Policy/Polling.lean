import PolicyStore.Policy.Delta
import PolicyStore.Proofs.Policy.Snapshots

/-!
# What polling finds

A delta is taken against fingerprints that a reader kept. When every fingerprint that is found again
belongs to a record that still decodes to what the reader has, applying the delta to what the reader
has gives what a load of all records would give.
-/

namespace PolicyStore.Delta

variable {domain : Domain} {records : List Record} {previous : Fingerprints}

/-! ## What a delta holds -/

/-- Whether the value of a record has the fingerprint that it had before. -/
def Seen (previous : Fingerprints) (record : Record) : Prop :=
  previous[record.id]? = some (.of record.value)

/-- The policy of a record that decodes, unless its value was seen before. -/
def changed? (domain : Domain) (previous : Fingerprints) (record : Record) :
    Option (Policy domain) :=
  if previous[record.id]? = some (.of record.value) then none
  else Snapshot.policy? domain record

/-- The fingerprint of a record that decodes or was seen before. -/
def kept? (domain : Domain) (previous : Fingerprints) (record : Record) : Option Fingerprint :=
  if previous[record.id]? = some (.of record.value) then some (.of record.value)
  else Snapshot.fingerprint? domain record

theorem addChanged_poll (changed : Std.ExtTreeMap RecordId (Policy domain)) (record : Record) :
    addChanged changed (poll domain previous record) =
      put Record.id (changed? domain previous) changed record := by
  rw [put, changed?, Snapshot.policy?, poll]
  split
  · rfl
  · cases Policy.ofRecord domain record <;> rfl

theorem addFingerprint_poll (fingerprints : Fingerprints) (record : Record) :
    addFingerprint fingerprints (poll domain previous record) =
      put Record.id (kept? domain previous) fingerprints record := by
  rw [put, kept?, Snapshot.fingerprint?, Snapshot.policy?, poll]
  split
  · rfl
  · cases Policy.ofRecord domain record <;> rfl

theorem decode_changed_eq (domain : Domain) (records : List Record) (previous : Fingerprints) :
    (decode domain records previous).1.changed =
      records.foldl (put Record.id (changed? domain previous)) ∅ := by
  simp only [decode, List.foldl_map, addChanged_poll]

theorem decode_fingerprints_eq (domain : Domain) (records : List Record)
    (previous : Fingerprints) :
    (decode domain records previous).1.fingerprints =
      records.foldl (put Record.id (kept? domain previous)) ∅ := by
  simp only [decode, List.foldl_map, addFingerprint_poll]

/-- What changed comes from one of the records, also where several have one id. -/
theorem exists_of_decode {id : RecordId} {policy : Policy domain}
    (h : (decode domain records previous).1.changed[id]? = some policy) :
    ∃ record ∈ records, record.id = id ∧ Policy.ofRecord domain record = .ok policy := by
  rw [decode_changed_eq] at h
  obtain ⟨record, hmem, hid, hpolicy⟩ := (exists_of_foldl_put h).resolve_right (by simp)
  rw [changed?] at hpolicy
  split at hpolicy
  · exact nomatch hpolicy
  · exact ⟨record, hmem, hid, Snapshot.policy?_eq_some_iff.mp hpolicy⟩

theorem decode_changed (distinct : records.Pairwise fun a b => a.id ≠ b.id) (id : RecordId)
    (policy : Policy domain) :
    (decode domain records previous).1.changed[id]? = some policy ↔
      ∃ record ∈ records, record.id = id ∧ ¬Seen previous record ∧
        Policy.ofRecord domain record = .ok policy := by
  rw [decode_changed_eq, foldl_put_empty distinct]
  simp [changed?, Seen, Snapshot.policy?_eq_some_iff]

theorem decode_fingerprints (distinct : records.Pairwise fun a b => a.id ≠ b.id) (id : RecordId)
    (fingerprint : Fingerprint) :
    (decode domain records previous).1.fingerprints[id]? = some fingerprint ↔
      ∃ record ∈ records, record.id = id ∧
        (Seen previous record ∨ ∃ policy, Policy.ofRecord domain record = .ok policy) ∧
        Fingerprint.of record.value = fingerprint := by
  rw [decode_fingerprints_eq, foldl_put_empty distinct]
  refine exists_congr fun record => and_congr_right fun _ => and_congr_right fun _ => ?_
  by_cases hseen : previous[record.id]? = some (.of record.value)
  · simp [kept?, Seen, hseen]
  · simp [kept?, Seen, hseen, Snapshot.fingerprint?_eq_some_iff]

theorem decode_skipped
    (h : ∀ record ∈ records, ∃ policy, Policy.ofRecord domain record = .ok policy) :
    (decode domain records previous).2 = [] := by
  rw [decode, List.filterMap_eq_nil_iff]
  intro polled hpolled
  obtain ⟨record, hrecord, rfl⟩ := List.mem_map.mp hpolled
  obtain ⟨policy, hpolicy⟩ := h record hrecord
  rw [poll, hpolicy]
  dsimp only
  split <;> rfl

theorem mem_decode_removed (id : RecordId) :
    id ∈ (decode domain records previous).1.removed ↔
      id ∈ previous ∧ id ∉ (decode domain records previous).1.fingerprints := by
  simp only [decode, List.mem_filter, Std.ExtTreeMap.mem_keys, Bool.not_eq_true',
    Std.ExtTreeMap.mem_iff_contains, Bool.not_eq_true]

/-! ## Applying a delta -/

/-- What a reader has after a poll: removed policies are dropped, changed ones take their place. -/
def patch (delta : Delta domain) (items : Std.ExtTreeMap RecordId (Policy domain)) :
    Std.ExtTreeMap RecordId (Policy domain) :=
  (delta.removed.foldl (fun items id => items.erase id) items).insertMany delta.changed.toList

theorem patch_getElem? (delta : Delta domain) (items : Std.ExtTreeMap RecordId (Policy domain))
    (id : RecordId) :
    (delta.patch items)[id]? =
      delta.changed[id]?.or (if id ∈ delta.removed then none else items[id]?) := by
  rw [patch, insertMany_toList_getElem?, foldl_erase_getElem?]

/-! ## Polling with what was kept -/

/-- What a reader kept agrees with the records of now: it has policies and fingerprints under the
same ids, and a record that it has seen before still decodes to what it has. -/
structure Agrees (kept : Snapshot domain) (records : List Record) : Prop where
  ids : ∀ id, id ∈ kept.items ↔ id ∈ kept.fingerprints
  seen : ∀ record ∈ records, Seen kept.fingerprints record →
    ∃ policy, kept.items[record.id]? = some policy ∧ Policy.ofRecord domain record = .ok policy

section Agrees

variable {kept : Snapshot domain} (agrees : Agrees kept records)
  (distinct : records.Pairwise fun a b => a.id ≠ b.id)

include agrees distinct

/-- The fingerprints to poll with next are those of a full load. -/
theorem decode_fingerprints_eq_load :
    (decode domain records kept.fingerprints).1.fingerprints =
      (Snapshot.decode domain records).1.fingerprints := by
  refine Std.ExtTreeMap.ext_getElem? fun id => Option.ext fun fingerprint => ?_
  rw [decode_fingerprints distinct, Snapshot.decode_fingerprints distinct]
  refine exists_congr fun record => and_congr_right fun hmem => and_congr_right fun _ =>
    and_congr_left fun _ => ⟨fun h => ?_, .inr⟩
  rcases h with hseen | hdecodes
  · obtain ⟨policy, -, hpolicy⟩ := agrees.seen record hmem hseen
    exact ⟨policy, hpolicy⟩
  · exact hdecodes

/-- A record that decodes is kept already or changed. -/
theorem kept_or_changed {record : Record} (hmem : record ∈ records) {policy : Policy domain}
    (hpolicy : Policy.ofRecord domain record = .ok policy) :
    kept.items[record.id]? = some policy ∨
      (decode domain records kept.fingerprints).1.changed[record.id]? = some policy := by
  by_cases hseen : Seen kept.fingerprints record
  · obtain ⟨had, hkept, hdecodes⟩ := agrees.seen record hmem hseen
    rw [hpolicy] at hdecodes
    obtain rfl := Except.ok.inj hdecodes
    exact .inl hkept
  · exact .inr ((decode_changed distinct _ _).mpr ⟨record, hmem, rfl, hseen, hpolicy⟩)

/-- Of the policies that are neither removed nor changed the reader has the current ones. -/
theorem kept_current {id : RecordId} {policy : Policy domain}
    (hkept : kept.items[id]? = some policy)
    (hremoved : id ∉ (decode domain records kept.fingerprints).1.removed)
    (hchanged : (decode domain records kept.fingerprints).1.changed[id]? = none) :
    (Snapshot.decode domain records).1.items[id]? = some policy := by
  have hid : id ∈ kept.fingerprints := by
    rw [← agrees.ids, Std.ExtTreeMap.mem_iff_isSome_getElem?, hkept]
    rfl
  have hfound : id ∈ (decode domain records kept.fingerprints).1.fingerprints := by
    rw [mem_decode_removed] at hremoved
    exact Classical.not_not.mp fun hlost => hremoved ⟨hid, hlost⟩
  rw [decode_fingerprints_eq_load agrees distinct, Std.ExtTreeMap.mem_iff_isSome_getElem?,
    Option.isSome_iff_exists] at hfound
  obtain ⟨fingerprint, hfingerprint⟩ := hfound
  obtain ⟨record, hmem, rfl, ⟨now, hnow⟩, -⟩ :=
    (Snapshot.decode_fingerprints distinct _ _).mp hfingerprint
  rcases kept_or_changed agrees distinct hmem hnow with h | h
  · rw [hkept] at h
    obtain rfl := Option.some.inj h
    exact (Snapshot.decode_items distinct _ _).mpr ⟨record, hmem, rfl, hnow⟩
  · rw [hchanged] at h
    exact absurd h (by simp)

/-- A removed id is not loaded. -/
theorem removed_not_loaded {id : RecordId}
    (hremoved : id ∈ (decode domain records kept.fingerprints).1.removed) :
    (Snapshot.decode domain records).1.items[id]? = none := by
  have hlost := ((mem_decode_removed id).mp hremoved).2
  rw [decode_fingerprints_eq_load agrees distinct] at hlost
  refine Option.eq_none_iff_forall_ne_some.mpr fun policy hpolicy => hlost ?_
  obtain ⟨record, hmem, hid, hdecodes⟩ := (Snapshot.decode_items distinct id policy).mp hpolicy
  have hfingerprint := (Snapshot.decode_fingerprints distinct id _).mpr
    ⟨record, hmem, hid, ⟨policy, hdecodes⟩, rfl⟩
  rw [Std.ExtTreeMap.mem_iff_isSome_getElem?, hfingerprint]
  rfl

/-- Applying the delta to what was kept gives what a full load gives. -/
theorem patch_eq_load :
    (decode domain records kept.fingerprints).1.patch kept.items =
      (Snapshot.decode domain records).1.items := by
  refine Std.ExtTreeMap.ext_getElem? fun id => ?_
  rw [patch_getElem?]
  cases hchanged : (decode domain records kept.fingerprints).1.changed[id]? with
  | some policy =>
    obtain ⟨record, hmem, hid, -, hpolicy⟩ := (decode_changed distinct id policy).mp hchanged
    exact ((Snapshot.decode_items distinct id policy).mpr ⟨record, hmem, hid, hpolicy⟩).symm
  | none =>
    by_cases hremoved : id ∈ (decode domain records kept.fingerprints).1.removed
    · simp [hremoved, removed_not_loaded agrees distinct hremoved]
    · simp only [hremoved, if_false, Option.none_or]
      -- what stays is current when there is something, and otherwise nothing is loaded either
      cases hkept : kept.items[id]? with
      | some policy => exact (kept_current agrees distinct hkept hremoved hchanged).symm
      | none =>
        refine (Option.eq_none_iff_forall_ne_some.mpr fun policy hpolicy => ?_).symm
        obtain ⟨record, hmem, rfl, hdecodes⟩ :=
          (Snapshot.decode_items distinct id policy).mp hpolicy
        rcases kept_or_changed agrees distinct hmem hdecodes with h | h
        · exact absurd (hkept.symm.trans h) (by simp)
        · exact absurd (hchanged.symm.trans h) (by simp)

/-- A poll finds no change just when a full load would show the fingerprints that were kept. -/
theorem isUnchanged_iff :
    (decode domain records kept.fingerprints).1.isUnchanged = true ↔
      kept.fingerprints = (Snapshot.decode domain records).1.fingerprints := by
  rw [isUnchanged, Bool.and_eq_true, Std.ExtTreeMap.isEmpty_iff, List.isEmpty_iff]
  constructor
  · rintro ⟨hchanged, hremoved⟩
    refine Std.ExtTreeMap.ext_getElem? fun id => ?_
    cases hload : (Snapshot.decode domain records).1.fingerprints[id]? with
    | some fingerprint =>
      obtain ⟨record, hmem, rfl, ⟨policy, hpolicy⟩, rfl⟩ :=
        (Snapshot.decode_fingerprints distinct id fingerprint).mp hload
      by_cases hseen : Seen kept.fingerprints record
      · exact hseen
      · have hnew := (decode_changed distinct _ _).mpr ⟨record, hmem, rfl, hseen, hpolicy⟩
        rw [hchanged] at hnew
        exact absurd hnew (by simp)
    | none =>
      refine Std.ExtTreeMap.getElem?_eq_none fun hid => ?_
      have hlost : id ∈ (decode domain records kept.fingerprints).1.removed := by
        rw [mem_decode_removed, decode_fingerprints_eq_load agrees distinct]
        exact ⟨hid, by simpa using hload⟩
      rw [hremoved] at hlost
      exact absurd hlost (by simp)
  · intro hsame
    constructor
    · refine Std.ExtTreeMap.ext_getElem? fun id => ?_
      rw [Std.ExtTreeMap.getElem?_empty]
      refine Option.eq_none_iff_forall_ne_some.mpr fun policy hpolicy => ?_
      obtain ⟨record, hmem, hid, hnot, hdecodes⟩ := (decode_changed distinct id policy).mp hpolicy
      refine hnot ?_
      rw [Seen, hsame]
      exact (Snapshot.decode_fingerprints distinct _ _).mpr
        ⟨record, hmem, rfl, ⟨policy, hdecodes⟩, rfl⟩
    · refine List.eq_nil_iff_forall_not_mem.mpr fun id hremoved => ?_
      rw [mem_decode_removed, decode_fingerprints_eq_load agrees distinct, ← hsame] at hremoved
      exact hremoved.2 hremoved.1

end Agrees

end PolicyStore.Delta
