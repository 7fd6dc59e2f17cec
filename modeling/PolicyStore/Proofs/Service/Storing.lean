import PolicyStore.Proofs.Policy.RoundTrip
import PolicyStore.Proofs.Policy.Snapshots
import PolicyStore.Proofs.Service.History

/-!
# Storing, loading and removing one policy

A policy that can be stored is found afterwards under its name, under its id and in a load of its
domain, and nothing else changes; once removed it is found no more. A policy that cannot be stored
leaves the table as it was.
-/

namespace PolicyStore

variable {domain : Domain}

/-! ## Policies and their rows -/

/-- What a policy has to be in order to be stored. -/
structure Policy.Storable (policy : Policy domain) : Prop where
  named : policy.name ≠ ""
  keepsRules : domain.KeepsRules policy.content
  keyFits : (domain.key policy.name).utf8ByteSize ≤ 128
  payloadFits : ∀ text, policy.payload = .ok text → text.utf8ByteSize ≤ 16250

theorem utf8ByteSize_key_pos (domain : Domain) (name : String) :
    0 < (domain.key name).utf8ByteSize := by
  have hprefix : 0 < domain.namePrefix.utf8ByteSize := by cases domain <;> decide
  rw [Domain.key, encodeKey, String.utf8ByteSize_append]
  omega

/-- A record with the name and the value of a policy decodes to it, stamped with the record's id. -/
theorem Policy.ofRecord_written {policy : Policy domain} (hname : policy.name ≠ "")
    (hkeeps : domain.KeepsRules policy.content) {record : Record}
    (hkey : record.name = domain.key policy.name)
    (hvalue : record.value = (domain.tree policy.content).compact) :
    ofRecord domain record = .ok { policy with id := record.id } := by
  have hdecoded : decodeKey domain.namePrefix (domain.key policy.name) = .ok policy.name :=
    decodeKey_encodeKey hname domain.namePrefix
  simp only [ofRecord, hkey, hdecoded, hvalue, bind, Except.bind]
  exact ofPayload_compact hkeeps record.id policy.name

/-- So does the record that a policy is stored as. -/
theorem Policy.ofRecord_stored {policy : Policy domain} (hname : policy.name ≠ "")
    (hkeeps : domain.KeepsRules policy.content) {row : Row}
    (hvalue : row.value = (domain.tree policy.content).compact) :
    ofRecord domain (row.record (domain.key policy.name)) = .ok { policy with id := row.id } :=
  ofRecord_written hname hkeeps (Row.record_name _ row) ((Row.record_value _ row).trans hvalue)

namespace Service

theorem eval_store_storable {policy : Policy domain} (h : policy.Storable) (memory : Memory) :
    ∃ id, ((store .builtin policy).eval memory).result = .ok id ∧
      memory.Upserted (domain.key policy.name) (domain.tree policy.content).compact id
        ((store .builtin policy).eval memory).memory := by
  have hpayload : policy.payload = .ok (domain.tree policy.content).compact :=
    (Policy.payload_eq_ok_iff policy _).mpr ⟨h.keepsRules, rfl⟩
  have hfits := (overflow?_eq_none_iff (domain.key policy.name) _).mpr
    ⟨utf8ByteSize_key_pos domain policy.name, h.keyFits, h.payloadFits _ hpayload⟩
  obtain ⟨id, hid, hupserted⟩ := Memory.upsert_fits hfits memory
  rw [eval_store (builtin_isRegistered domain) h.named hpayload]
  refine ⟨id, ?_, hupserted⟩
  dsimp only
  rw [hid]
  rfl

theorem eval_store_not_storable {policy : Policy domain} (h : ¬policy.Storable) (memory : Memory) :
    ∃ error, ((store .builtin policy).eval memory).result = .error error ∧
      ((store .builtin policy).eval memory).memory = memory := by
  by_cases hname : policy.name = ""
  · have hkey := domainKey_empty (builtin_isRegistered domain)
    rw [← hname] at hkey
    rw [store, Operation.eval_after_error hkey]
    exact ⟨_, rfl, rfl⟩
  cases hpayload : policy.payload with
  | error error =>
    rw [store, Operation.eval_after_ok (domainKey_ok (builtin_isRegistered domain) hname),
      Operation.eval_after_error hpayload]
    exact ⟨error, rfl, rfl⟩
  | ok text =>
    cases hover : overflow? (domain.key policy.name) text with
    | some overflow =>
      rw [eval_store (builtin_isRegistered domain) hname hpayload, Memory.upsert_overflow hover]
      exact ⟨_, rfl, rfl⟩
    | none =>
      obtain ⟨-, hkey, htext⟩ := (overflow?_eq_none_iff _ _).mp hover
      obtain ⟨hkeeps, -⟩ := (Policy.payload_eq_ok_iff policy text).mp hpayload
      refine absurd ⟨hname, hkeeps, hkey, fun other hother => ?_⟩ h
      rw [hpayload] at hother
      obtain rfl := Except.ok.inj hother
      exact htext

/-! ## After a store -/

/-- What a store that gave `id` comes to: the policy is found under its name, under the id and in a
load of its domain, the id is the one that the row had, and the other rows are as before. -/
structure Stored (policy : Policy domain) (id : RecordId) (before after : Service Memory) :
    Prop where
  load : (after.perform (load · domain policy.name) none).1 = some (.ok { policy with id := id })
  loadById : (after.perform (loadById · domain id) none).1 = some (.ok { policy with id := id })
  loadAll : ∃ snapshot, (after.perform (loadAll · domain) none).1 = some (.ok snapshot) ∧
    snapshot.items[id]? = some { policy with id := id }
  old : ∀ row, before.state.rows[domain.key policy.name]? = some row → row.id = id
  others : ∀ other, other ≠ domain.key policy.name →
    after.state.rows[other]? = before.state.rows[other]?

/-- What a removal comes to: it finds the policy, which is found no more afterwards, neither under
its name nor under its id, and the other rows are as before. -/
structure Removed (policy : Policy domain) (id : RecordId) (before : Service Memory) : Prop where
  result : (before.perform (remove · domain policy.name) none).1 = some (.ok true)
  load : ((before.perform (remove · domain policy.name) none).2.1.perform
    (load · domain policy.name) none).1 =
      some (.error (.notFound (.byName (domain.key policy.name))))
  loadById : ((before.perform (remove · domain policy.name) none).2.1.perform
    (loadById · domain id) none).1 = some (.error (.notFound (.byId id)))
  others : ∀ other, other ≠ domain.key policy.name →
    (before.perform (remove · domain policy.name) none).2.1.state.rows[other]? =
      before.state.rows[other]?

theorem stored_of_upserted {policy : Policy domain} (h : policy.Storable) {id : RecordId}
    {before after : Memory} (distinct : after.DistinctIds)
    (hu : before.Upserted (domain.key policy.name) (domain.tree policy.content).compact id after) :
    Stored policy id (onTable .builtin before) (onTable .builtin after) := by
  obtain ⟨row, hrow, rfl, hvalue⟩ := hu.held
  have registered := builtin_isRegistered domain
  have hdecodes := Policy.ofRecord_stored h.named h.keepsRules hvalue
  have hlisted : row.record (domain.key policy.name) ∈ after.loadByPrefix domain.namePrefix :=
    Memory.mem_loadByPrefix_iff.mpr
      ⟨Memory.record_mem_records hrow, startsWith_encodeKey domain.namePrefix policy.name⟩
  constructor
  · rw [perform_onTable, eval_load registered h.named, hrow]
    exact congrArg some hdecodes
  · rw [perform_onTable, eval_loadById registered, distinct.loadById hrow]
    exact congrArg some hdecodes
  · refine ⟨_, by rw [perform_onTable, eval_loadAll registered], ?_⟩
    exact (Snapshot.decode_items (distinct.loadByPrefix _) _ _).mpr ⟨_, hlisted, rfl, hdecodes⟩
  · exact hu.old
  · exact hu.others

theorem removed_of_held {policy : Policy domain} (hname : policy.name ≠ "") {memory : Memory}
    (distinct : memory.DistinctIds) {row : Row}
    (hrow : memory.rows[domain.key policy.name]? = some row) :
    Removed policy row.id (onTable .builtin memory) := by
  have registered := builtin_isRegistered domain
  have hremove : (onTable .builtin memory).perform (remove · domain policy.name) none =
      (some (.ok true),
        onTable .builtin { memory with rows := memory.rows.erase (domain.key policy.name) },
        []) := by
    rw [perform_onTable, eval_remove registered hname, Memory.delete_held hrow]
  constructor
  · rw [hremove]
  · rw [hremove, perform_onTable, eval_load registered hname, Memory.erase_rows, if_pos rfl]
  · rw [hremove, perform_onTable, eval_loadById registered, Memory.loadById_none]
    · rfl
    · intro other now hnow hid
      rw [Memory.erase_rows] at hnow
      split at hnow
      next => simp at hnow
      next hne => exact hne (distinct _ _ row now hrow hnow hid.symm)
  · intro other hne
    rw [hremove]
    exact (Memory.erase_rows memory _ other).trans (if_neg hne.symm)

/-! ## Stores in a history -/

/-- What came of storing a policy. -/
abbrev storing (service : Service Memory) (policy : Policy domain) :
    Option (Except PolicyError RecordId) × Service Memory × List Skipped :=
  service.perform (store · policy) none

/-- An id is fresh after a history when no row ever had it. -/
def FreshAfter (calls : List Call) (id : RecordId) : Prop :=
  ∀ past, past <+: calls → ∀ (name : String) (row : Row),
    ((inMemory .builtin).after past).state.rows[name]? = some row → row.id ≠ id

/-- The id after the last one is fresh. -/
theorem freshAfter_next {calls : List Call}
    (hcreated : (inMemory .builtin).creations calls < 2 ^ 63) {memory : Memory}
    (hmemory : (inMemory .builtin).after calls = onTable .builtin memory) :
    FreshAfter calls (memory.lastId + 1) := by
  intro past hpast name row hrow
  have hle := creations_mono (inMemory .builtin) hpast
  have hpastCreated := Nat.lt_of_le_of_lt hle hcreated
  obtain ⟨earlier, hearlier, hsoundEarlier⟩ := after_inMemory .builtin hpastCreated
  obtain ⟨now, hnow, hsound⟩ := after_inMemory .builtin hcreated
  rw [hmemory] at hnow
  obtain rfl : memory = now := congrArg Service.state hnow
  rw [hearlier] at hrow
  obtain ⟨hfirst, hlast⟩ := hsoundEarlier.given name row hrow
  exact hsound.next_ne hfirst (by omega)

/-- A store succeeds just when the policy can be stored. Then the policy is there under the id of
its row, or under a fresh id when there was no row, and it can be removed again. A store that fails
changes nothing. -/
theorem store_then_remove (calls : List Call)
    (hcreated : (inMemory .builtin).creations calls < 2 ^ 63) (policy : Policy domain) :
    ((∃ id, (storing ((inMemory .builtin).after calls) policy).1 = some (.ok id)) ↔
      policy.Storable) ∧
    (∀ id, (storing ((inMemory .builtin).after calls) policy).1 = some (.ok id) →
      Stored policy id ((inMemory .builtin).after calls)
        (storing ((inMemory .builtin).after calls) policy).2.1 ∧
      (((inMemory .builtin).after calls).state.rows[domain.key policy.name]? = none →
        FreshAfter calls id) ∧
      Removed policy id (storing ((inMemory .builtin).after calls) policy).2.1) ∧
    (∀ error, (storing ((inMemory .builtin).after calls) policy).1 = some (.error error) →
      (storing ((inMemory .builtin).after calls) policy).2.1.state =
        ((inMemory .builtin).after calls).state) ∧
    (storing ((inMemory .builtin).after calls) policy).1.isSome = true := by
  obtain ⟨memory, hmemory, hsound⟩ := after_inMemory .builtin hcreated
  have hfresh := freshAfter_next hcreated hmemory
  rw [hmemory, storing, perform_onTable]
  by_cases hstorable : policy.Storable
  · obtain ⟨given, hresult, hupserted⟩ := eval_store_storable hstorable memory
    have distinct := hupserted.distinct hsound
    rw [hresult]
    refine ⟨⟨fun _ => hstorable, fun _ => ⟨given, rfl⟩⟩, fun id hid => ?_, fun error h => ?_, rfl⟩
    · obtain rfl : given = id := by simpa using hid
      obtain ⟨row, hrow, hrowId, -⟩ := hupserted.held
      refine ⟨stored_of_upserted hstorable distinct hupserted, fun hnone => ?_, ?_⟩
      · rw [hupserted.new hnone]
        exact hfresh
      · rw [← hrowId]
        exact removed_of_held hstorable.named distinct hrow
    · simp at h
  · obtain ⟨error, hresult, hsame⟩ := eval_store_not_storable hstorable memory
    rw [hresult, hsame]
    refine ⟨iff_of_false (by simp) hstorable, fun id h => ?_, fun _ _ => rfl, rfl⟩
    simp at h

/-- Writes a record of an allow-list that is not JSON. -/
def writeCorrupt : Call where
  action := .upsert "acl.allowlist.ops" "?"

/-- A policy is stored over a row that does not decode. -/
theorem store_then_remove_corrupt :
    ∃ id, (storing ((inMemory .builtin).after [writeCorrupt])
        Policy.escapedList).1 = some (.ok id) ∧
      Removed Policy.escapedList id
        (storing ((inMemory .builtin).after [writeCorrupt])
          Policy.escapedList).2.1 := by
  have hcreated : (inMemory .builtin).creations [writeCorrupt] < 2 ^ 63 :=
    Nat.lt_of_le_of_lt (creations_le_length _ _ _) (by decide)
  have hstorable : Policy.escapedList.Storable := by
    constructor
    · decide
    · have hentry : Text.isBlankText "a\"b\\\n" = false := by decide
      simpa [Policy.escapedList, Domain.KeepsRules, Domain.KeepsRulesBy, AllowList.KeepsRules,
        AllowList.sections] using hentry
    · decide
    · intro text htext
      obtain ⟨-, rfl⟩ := (Policy.payload_eq_ok_iff _ _).mp htext
      decide
  obtain ⟨hiff, hstored, -⟩ := store_then_remove _ hcreated Policy.escapedList
  obtain ⟨id, hid⟩ := hiff.mpr hstorable
  exact ⟨id, hid, (hstored id hid).2.2⟩

end Service

end PolicyStore
