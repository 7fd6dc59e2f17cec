import PolicyStore.Proofs.Policy.Polling

/-!
# Comparing fingerprints

Two sets of fingerprints give every id one lot, or none to an id of neither. The lot depends on the
fingerprint that the id had and the one that it has, and comparing the sets in the other direction
mirrors it. A delta is taken from records and not from fingerprints, and decodes as it goes; it finds
the same lots between the fingerprints that it was given and those that it gives.
-/

namespace PolicyStore

namespace FingerprintDiff

/-- What became of an id. -/
inductive Lot
  | added
  | changed
  | removed
  | unchanged
  deriving DecidableEq

namespace Lot

/-- The lot of an id with the fingerprint that it had and the one that it has. -/
def of? : Option Fingerprint → Option Fingerprint → Option Lot
  | none, none => none
  | none, some _ => some .added
  | some _, none => some .removed
  | some before, some now => if before = now then some .unchanged else some .changed

/-- The lot when what was there before is taken for what is there now. -/
def mirror : Lot → Lot
  | .added => .removed
  | .removed => .added
  | lot => lot

variable {before now : Option Fingerprint}

theorem of?_eq_added_iff : of? before now = some .added ↔ before = none ∧ now.isSome = true := by
  fun_cases of? before now <;> simp

theorem of?_eq_changed_iff :
    of? before now = some .changed ↔
      ∃ digest, now = some digest ∧ before.any (· != digest) = true := by
  fun_cases of? before now <;> simp_all

theorem of?_eq_removed_iff :
    of? before now = some .removed ↔ before.isSome = true ∧ now = none := by
  fun_cases of? before now <;> simp

theorem of?_eq_unchanged_iff :
    of? before now = some .unchanged ↔ ∃ digest, now = some digest ∧ before = some digest := by
  fun_cases of? before now <;> simp_all

theorem isSome_of? : (of? before now).isSome = (before.isSome || now.isSome) := by
  fun_cases of? before now <;> rfl

theorem of?_swap : of? now before = (of? before now).map mirror := by
  fun_cases of? before now with
  | case1 => rfl
  | case2 => rfl
  | case3 => rfl
  | case4 => simp [of?, mirror]
  | case5 first second hne => simp [of?, mirror, Ne.symm hne]

/-- An id is new or changed when it has a fingerprint that it did not have. -/
theorem of?_fresh_iff :
    of? before now = some .added ∨ of? before now = some .changed ↔
      ∃ digest, now = some digest ∧ before ≠ some digest := by
  fun_cases of? before now <;> simp_all

/-- Nothing became of an id when it has the fingerprint that it had, or none as before. -/
theorem of?_clean_iff :
    (∀ lot, of? before now = some lot → lot = .unchanged) ↔ before = now := by
  fun_cases of? before now <;> simp_all

end Lot

/-- The ids of a lot. -/
def ids (diff : FingerprintDiff) : Lot → List RecordId
  | .added => diff.added
  | .changed => diff.changed
  | .removed => diff.removed
  | .unchanged => diff.unchanged

theorem eq_of_ids {diff other : FingerprintDiff} (h : ∀ lot, diff.ids lot = other.ids lot) :
    diff = other := by
  obtain ⟨added, changed, removed, unchanged⟩ := diff
  obtain rfl : added = other.added := h .added
  obtain rfl : changed = other.changed := h .changed
  obtain rfl : removed = other.removed := h .removed
  obtain rfl : unchanged = other.unchanged := h .unchanged
  rfl

/-- The comparison the other way. -/
def mirror (diff : FingerprintDiff) : FingerprintDiff :=
  ⟨diff.removed, diff.changed, diff.added, diff.unchanged⟩

theorem ids_mirror (diff : FingerprintDiff) (lot : Lot) :
    diff.mirror.ids lot = diff.ids lot.mirror := by
  cases lot <;> rfl

variable {previous current : Fingerprints} {id : RecordId}

/-! ## The lists ascend -/

theorem entries_ascending (map : Fingerprints) (p : RecordId × Fingerprint → Bool) :
    ((map.toList.filter p).map (·.1)).Pairwise (· < ·) := by
  refine (keys_ascending map).sublist ?_
  rw [← Std.ExtTreeMap.map_fst_toList_eq_keys]
  exact List.filter_sublist.map _

theorem ids_ascending (previous current : Fingerprints) (lot : Lot) :
    ((between previous current).ids lot).Pairwise (· < ·) := by
  -- Two of the lists are picked from the ids of a map, and two from its entries.
  cases lot with
  | added => exact (keys_ascending current).filter _
  | changed => exact entries_ascending current _
  | removed => exact (keys_ascending previous).filter _
  | unchanged => exact entries_ascending current _

/-! ## Where an id stands -/

theorem absent_iff {map : Fingerprints} : (!map.contains id) = true ↔ map[id]? = none := by
  rw [Bool.not_eq_true', Std.ExtTreeMap.contains_eq_isSome_getElem?, Option.isSome_eq_false_iff,
    Option.isNone_iff_eq_none]

theorem mem_entries_iff {map : Fingerprints} {p : RecordId × Fingerprint → Bool} :
    id ∈ (map.toList.filter p).map (·.1) ↔
      ∃ digest, map[id]? = some digest ∧ p (id, digest) = true := by
  simp [List.mem_map, List.mem_filter, Std.ExtTreeMap.mem_toList_iff_getElem?_eq_some]

theorem mem_ids_iff {lot : Lot} :
    id ∈ (between previous current).ids lot ↔ Lot.of? previous[id]? current[id]? = some lot := by
  cases lot with
  | added =>
    change id ∈ current.keys.filter _ ↔ _
    rw [List.mem_filter, Std.ExtTreeMap.mem_keys, Std.ExtTreeMap.mem_iff_isSome_getElem?,
      absent_iff, Lot.of?_eq_added_iff, and_comm]
  | changed =>
    change id ∈ (current.toList.filter _).map _ ↔ _
    rw [mem_entries_iff, Lot.of?_eq_changed_iff]
  | removed =>
    change id ∈ previous.keys.filter _ ↔ _
    rw [List.mem_filter, Std.ExtTreeMap.mem_keys, Std.ExtTreeMap.mem_iff_isSome_getElem?,
      absent_iff, Lot.of?_eq_removed_iff]
  | unchanged =>
    change id ∈ (current.toList.filter _).map _ ↔ _
    rw [mem_entries_iff, Lot.of?_eq_unchanged_iff]
    simp

theorem between_swap (previous current : Fingerprints) :
    between current previous = (between previous current).mirror := by
  refine eq_of_ids fun lot => ?_
  rw [ids_mirror]
  refine eq_of_strict Int64.lt_asymm (ids_ascending _ _ _) (ids_ascending _ _ _) fun id => ?_
  rw [mem_ids_iff, mem_ids_iff, Lot.of?_swap]
  cases Lot.of? previous[id]? current[id]? with
  | none => simp
  | some other => cases lot <;> cases other <;> simp [Lot.mirror]

theorem isDirty_eq_false_iff {diff : FingerprintDiff} :
    diff.isDirty = false ↔ ∀ lot id, id ∈ diff.ids lot → lot = .unchanged := by
  rw [isDirty, Bool.not_eq_false', Bool.and_eq_true, Bool.and_eq_true, List.isEmpty_iff,
    List.isEmpty_iff, List.isEmpty_iff]
  constructor
  · rintro ⟨⟨hadded, hchanged⟩, hremoved⟩ lot id hid
    cases lot with
    | added => simp [ids, hadded] at hid
    | changed => simp [ids, hchanged] at hid
    | removed => simp [ids, hremoved] at hid
    | unchanged => rfl
  · intro h
    have hempty : ∀ lot, lot ≠ .unchanged → diff.ids lot = [] := fun lot hlot =>
      List.eq_nil_iff_forall_not_mem.mpr fun id hid => hlot (h lot id hid)
    exact ⟨⟨hempty .added (by decide), hempty .changed (by decide)⟩, hempty .removed (by decide)⟩

theorem isDirty_between_eq_false_iff :
    (between previous current).isDirty = false ↔ previous = current := by
  rw [isDirty_eq_false_iff, Std.ExtTreeMap.ext_getElem?_iff]
  simp only [← Lot.of?_clean_iff, mem_ids_iff]
  exact forall_comm

/-! ## One pass -/

/-- Puts an id with what it has now at the end of its list. -/
def place (previous : Fingerprints) (diff : FingerprintDiff) (entry : RecordId × Fingerprint) :
    FingerprintDiff :=
  match previous[entry.1]? with
  | none => { diff with added := diff.added ++ [entry.1] }
  | some before =>
    if before = entry.2 then { diff with unchanged := diff.unchanged ++ [entry.1] }
    else { diff with changed := diff.changed ++ [entry.1] }

/-- The comparison that goes through what is there now once, and then looks for what is gone. -/
def sweep (previous current : Fingerprints) : FingerprintDiff :=
  { current.toList.foldl (place previous) ⟨[], [], [], []⟩ with
    removed := previous.keys.filter fun id => !current.contains id }

/-- The ids of the entries of a lot. -/
def sorted (previous : Fingerprints) (entries : List (RecordId × Fingerprint)) (lot : Lot) :
    List RecordId :=
  (entries.filter fun (id, digest) => Lot.of? previous[id]? (some digest) = some lot).map (·.1)

theorem ids_place (diff : FingerprintDiff) (entry : RecordId × Fingerprint) (lot : Lot) :
    (place previous diff entry).ids lot = diff.ids lot ++ sorted previous [entry] lot := by
  obtain ⟨id, digest⟩ := entry
  rw [place, sorted, List.filter_singleton]
  dsimp only
  cases previous[id]? with
  | none => cases lot <;> simp [ids, Lot.of?]
  | some before =>
    by_cases hsame : before = digest
    · cases lot <;> simp [ids, Lot.of?, hsame]
    · cases lot <;> simp [ids, Lot.of?, hsame]

theorem ids_foldl_place (entries : List (RecordId × Fingerprint)) (diff : FingerprintDiff)
    (lot : Lot) :
    (entries.foldl (place previous) diff).ids lot = diff.ids lot ++ sorted previous entries lot := by
  induction entries generalizing diff with
  | nil => simp [sorted]
  | cons entry entries ih =>
    rw [List.foldl_cons, ih, ids_place, List.append_assoc]
    rw [sorted, sorted, sorted, ← List.map_append, ← List.filter_append, List.singleton_append]

/-- An id that is there now stands on the list that the pass puts it on. -/
theorem ids_eq_sorted {lot : Lot} (hlot : lot ≠ .removed) :
    (between previous current).ids lot = sorted previous current.toList lot := by
  refine eq_of_strict Int64.lt_asymm (ids_ascending _ _ _) (entries_ascending _ _) fun id => ?_
  rw [mem_ids_iff, sorted, mem_entries_iff]
  cases hnow : current[id]? with
  | some digest => simp
  | none => cases previous[id]? <;> simp [Lot.of?, hlot.symm]

theorem between_eq_sweep (previous current : Fingerprints) :
    between previous current = sweep previous current := by
  refine eq_of_ids fun lot => ?_
  by_cases hlot : lot = .removed
  · rw [hlot]
    rfl
  · have hpass : (sweep previous current).ids lot =
        (current.toList.foldl (place previous) ⟨[], [], [], []⟩).ids lot := by
      cases lot with
      | removed => exact absurd rfl hlot
      | added | changed | unchanged => rfl
    rw [hpass, ids_foldl_place, ids_eq_sorted hlot]
    cases lot <;> rfl

/-! ## What a comparison comes to -/

/-- Every id of two sets of fingerprints stands on one list, which its lot is, and the lists ascend.
They are found in one pass as well. -/
structure Sorts (previous current : Fingerprints) (diff : FingerprintDiff) : Prop where
  ascending : ∀ lot, (diff.ids lot).Pairwise (· < ·)
  disjoint : ∀ lot other id, id ∈ diff.ids lot → id ∈ diff.ids other → lot = other
  covers : ∀ id, (∃ lot, id ∈ diff.ids lot) ↔ id ∈ previous ∨ id ∈ current
  lots : ∀ lot id, id ∈ diff.ids lot ↔ Lot.of? previous[id]? current[id]? = some lot
  swept : diff = sweep previous current

theorem sorts_between (previous current : Fingerprints) :
    Sorts previous current (between previous current) where
  ascending := ids_ascending previous current
  disjoint lot other id hlot hother := by
    rw [mem_ids_iff] at hlot hother
    exact Option.some.inj (hlot.symm.trans hother)
  covers id := by
    simp only [mem_ids_iff, ← Option.isSome_iff_exists, Lot.isSome_of?, Bool.or_eq_true,
      Std.ExtTreeMap.mem_iff_isSome_getElem?]
  lots _ _ := mem_ids_iff
  swept := between_eq_sweep previous current

end FingerprintDiff

namespace Delta

open FingerprintDiff

variable {domain : Domain} {records : List Record} {previous : Fingerprints} {id : RecordId}

/-- What a delta says is what a comparison says: its policies are those of the new and the changed
ids, and it has the same ids removed. -/
structure Reports (delta : Delta domain) (diff : FingerprintDiff) : Prop where
  changed : delta.changed.keys.Perm (diff.added ++ diff.changed)
  removed : delta.removed = diff.removed
  unchanged : delta.isUnchanged = !diff.isDirty

/-- A delta has a policy for an id just when it has a fingerprint that was not there before. -/
theorem mem_decode_changed (distinct : records.Pairwise fun a b => a.id ≠ b.id) :
    id ∈ (decode domain records previous).1.changed ↔
      ∃ digest, (decode domain records previous).1.fingerprints[id]? = some digest ∧
        previous[id]? ≠ some digest := by
  rw [Std.ExtTreeMap.mem_iff_isSome_getElem?, Option.isSome_iff_exists]
  constructor
  · rintro ⟨policy, hpolicy⟩
    obtain ⟨record, hmem, rfl, hnew, hdecodes⟩ := (decode_changed distinct id policy).mp hpolicy
    refine ⟨.of record.value, ?_, hnew⟩
    exact (decode_fingerprints distinct _ _).mpr ⟨record, hmem, rfl, .inr ⟨policy, hdecodes⟩, rfl⟩
  · rintro ⟨digest, hdigest, hnew⟩
    obtain ⟨record, hmem, rfl, hkept, rfl⟩ := (decode_fingerprints distinct id digest).mp hdigest
    -- A record that was seen before would have the fingerprint that is new.
    obtain ⟨policy, hdecodes⟩ := hkept.resolve_left hnew
    exact ⟨policy, (decode_changed distinct _ policy).mpr ⟨record, hmem, rfl, hnew, hdecodes⟩⟩

theorem decode_changed_keys (domain : Domain)
    (distinct : records.Pairwise fun a b => a.id ≠ b.id) (previous : Fingerprints) :
    (decode domain records previous).1.changed.keys.Perm
      ((between previous (decode domain records previous).1.fingerprints).added ++
        (between previous (decode domain records previous).1.fingerprints).changed) := by
  have hsorts := sorts_between previous (decode domain records previous).1.fingerprints
  refine (List.perm_ext_iff_of_nodup Std.ExtTreeMap.nodup_keys ?_).mpr fun id => ?_
  · refine List.nodup_append.mpr ⟨nodup_of_strict Int64.lt_asymm (hsorts.ascending .added),
      nodup_of_strict Int64.lt_asymm (hsorts.ascending .changed), ?_⟩
    intro id hadded other hchanged hsame
    subst hsame
    exact absurd (hsorts.disjoint .added .changed id hadded hchanged) (by decide)
  · rw [Std.ExtTreeMap.mem_keys, mem_decode_changed distinct, List.mem_append, ← Lot.of?_fresh_iff]
    exact or_congr (hsorts.lots .added id).symm (hsorts.lots .changed id).symm

theorem reports_decode (domain : Domain) (distinct : records.Pairwise fun a b => a.id ≠ b.id)
    (previous : Fingerprints) :
    (decode domain records previous).1.Reports
      (between previous (decode domain records previous).1.fingerprints) where
  changed := decode_changed_keys domain distinct previous
  removed := rfl
  unchanged := by
    have hkeys := (decode_changed_keys domain distinct previous).isEmpty_eq
    rw [Std.ExtTreeMap.isEmpty_keys] at hkeys
    rw [isUnchanged, hkeys, isDirty, Bool.not_not]
    cases (between previous (decode domain records previous).1.fingerprints).added <;> rfl

/-- A delta and a comparison of fingerprints find the same, whatever the fingerprints are that the
delta is taken against. A comparison of any two sets of fingerprints sorts their ids, is mirrored
when it is made the other way, and shows nothing just when they are equal. -/
theorem differences_agree :
    (∀ (domain : Domain) (records : List Record), (records.Pairwise fun a b => a.id ≠ b.id) →
      ∀ previous : Fingerprints,
        (decode domain records previous).1.Reports
          (between previous (decode domain records previous).1.fingerprints)) ∧
    ∀ previous current : Fingerprints,
      Sorts previous current (between previous current) ∧
        between current previous = (between previous current).mirror ∧
        ((between previous current).isDirty = false ↔ previous = current) := by
  refine ⟨fun domain records distinct previous => reports_decode domain distinct previous, ?_⟩
  intro previous current
  exact ⟨sorts_between previous current, between_swap previous current,
    isDirty_between_eq_false_iff⟩

/-- A record that decodes and one that does not. -/
def polledRecords : List Record :=
  [⟨1, "acl.allowlist.a", "\x7b\x7d", 1, 1⟩, ⟨2, "acl.allowlist.b", "", 2, 2⟩]

/-- The fingerprints of an earlier load, one of which belongs to a record that is gone. -/
def polledBefore : Fingerprints :=
  ((∅ : Fingerprints).insert 2 (.of "\x7b\x7d")).insert 3 (.of "")

theorem differences_agree_lost :
    (decode .allowList polledRecords polledBefore).1.Reports
        (between polledBefore (decode .allowList polledRecords polledBefore).1.fingerprints) ∧
      3 ∈ (between polledBefore
        (decode .allowList polledRecords polledBefore).1.fingerprints).ids .removed := by
  have distinct : polledRecords.Pairwise fun a b => a.id ≠ b.id := by decide
  obtain ⟨hreports, hcompared⟩ := differences_agree
  obtain ⟨hsorts, -, -⟩ :=
    hcompared polledBefore (decode .allowList polledRecords polledBefore).1.fingerprints
  refine ⟨hreports .allowList polledRecords distinct polledBefore, ?_⟩
  refine (hsorts.lots .removed 3).mpr (Lot.of?_eq_removed_iff.mpr ⟨?_, ?_⟩)
  · rw [polledBefore, Std.ExtTreeMap.getElem?_insert_self]
    rfl
  · refine Option.eq_none_iff_forall_ne_some.mpr fun digest hdigest => ?_
    obtain ⟨record, hmem, hid, -⟩ := (decode_fingerprints distinct 3 digest).mp hdigest
    revert record
    decide

end Delta

end PolicyStore
