import Mathlib.Data.List.Forall2
import PolicyStore.Policy.Snapshot
import PolicyStore.Proofs.Maps
import PolicyStore.Proofs.Namespace.Keys
import PolicyStore.Proofs.Policy.Rules

/-!
# What a snapshot holds

A snapshot is put together record by record. When no two records have one id, it holds under an id
what the record of that id decodes to, and the fingerprint of its value, and nothing else.
-/

namespace PolicyStore

/-- What a record decodes to is a matter of its id, name and value. -/
theorem Policy.ofRecord_congr {domain : Domain} {a b : Record} (hid : a.id = b.id)
    (hname : a.name = b.name) (hvalue : a.value = b.value) :
    ofRecord domain a = ofRecord domain b := by
  rw [ofRecord, ofRecord, hid, hname, hvalue]

/-- A record that decodes has the id of its policy and is named for it. -/
theorem Policy.ofRecord_eq_ok {domain : Domain} {record : Record} {policy : Policy domain}
    (h : ofRecord domain record = .ok policy) :
    policy.id = record.id ∧ (policy.name ≠ "" ∧ record.name = domain.key policy.name) ∧
      ofPayload domain record.id policy.name record.value = .ok policy := by
  rw [ofRecord] at h
  cases hname : decodeKey domain.namePrefix record.name with
  | error error =>
    rw [hname] at h
    exact nomatch h
  | ok name =>
    rw [hname] at h
    change ofPayload domain record.id name record.value = .ok policy at h
    obtain ⟨hid, rfl, -, -⟩ := ofPayload_eq_ok h
    exact ⟨hid, decodeKey_eq_ok_iff.mp hname, h⟩

namespace Snapshot

variable {domain : Domain} {records : List Record}

/-- The policy of a record that decodes. -/
def policy? (domain : Domain) (record : Record) : Option (Policy domain) :=
  (Policy.ofRecord domain record).toOption

/-- The fingerprint of a record that decodes. -/
def fingerprint? (domain : Domain) (record : Record) : Option Fingerprint :=
  (policy? domain record).map fun _ => .of record.value

theorem policy?_eq_some_iff {record : Record} {policy : Policy domain} :
    policy? domain record = some policy ↔ Policy.ofRecord domain record = .ok policy := by
  rw [policy?]
  cases Policy.ofRecord domain record <;> simp [Except.toOption]

theorem fingerprint?_eq_some_iff {record : Record} {fingerprint : Fingerprint} :
    fingerprint? domain record = some fingerprint ↔
      (∃ policy, Policy.ofRecord domain record = .ok policy) ∧
        Fingerprint.of record.value = fingerprint := by
  rw [fingerprint?, Option.map_eq_some_iff]
  simp only [policy?_eq_some_iff, exists_and_right]

theorem add_eq (snapshot : Snapshot domain) (record : Record) :
    snapshot.add (record, Policy.ofRecord domain record) =
      ⟨put Record.id (policy? domain) snapshot.items record,
        put Record.id (fingerprint? domain) snapshot.fingerprints record⟩ := by
  rw [put, put, fingerprint?, policy?]
  cases Policy.ofRecord domain record <;> rfl

theorem decode_eq (domain : Domain) (records : List Record) :
    (decode domain records).1 =
      ⟨records.foldl (put Record.id (policy? domain)) ∅,
        records.foldl (put Record.id (fingerprint? domain)) ∅⟩ := by
  have general (snapshot : Snapshot domain) :
      (records.map fun record => (record, Policy.ofRecord domain record)).foldl add snapshot =
        ⟨records.foldl (put Record.id (policy? domain)) snapshot.items,
          records.foldl (put Record.id (fingerprint? domain)) snapshot.fingerprints⟩ := by
    induction records generalizing snapshot with
    | nil => rfl
    | cons record records ih =>
      rw [List.map_cons, List.foldl_cons, ih, add_eq]
      rfl
  exact general empty

/-- What a snapshot holds comes from one of the records, also where several have one id. -/
theorem exists_of_decode {id : RecordId} {policy : Policy domain}
    (h : (decode domain records).1.items[id]? = some policy) :
    ∃ record ∈ records, record.id = id ∧ Policy.ofRecord domain record = .ok policy := by
  rw [decode_eq] at h
  obtain ⟨record, hmem, hid, hpolicy⟩ := (exists_of_foldl_put h).resolve_right (by simp)
  exact ⟨record, hmem, hid, policy?_eq_some_iff.mp hpolicy⟩

/-- A snapshot holds the policies of the records that decode, each under the id of its record. -/
theorem decode_items (distinct : records.Pairwise fun a b => a.id ≠ b.id) (id : RecordId)
    (policy : Policy domain) :
    (decode domain records).1.items[id]? = some policy ↔
      ∃ record ∈ records, record.id = id ∧ Policy.ofRecord domain record = .ok policy := by
  rw [decode_eq, foldl_put_empty distinct]
  simp only [policy?_eq_some_iff]

/-- With a policy a snapshot holds the fingerprint of the value that it was decoded from. -/
theorem decode_fingerprints (distinct : records.Pairwise fun a b => a.id ≠ b.id) (id : RecordId)
    (fingerprint : Fingerprint) :
    (decode domain records).1.fingerprints[id]? = some fingerprint ↔
      ∃ record ∈ records, record.id = id ∧ (∃ policy, Policy.ofRecord domain record = .ok policy) ∧
        Fingerprint.of record.value = fingerprint := by
  rw [decode_eq, foldl_put_empty distinct]
  simp only [fingerprint?_eq_some_iff]

/-- The policies and the fingerprints of a load have the same ids. -/
theorem decode_ids (distinct : records.Pairwise fun a b => a.id ≠ b.id) (id : RecordId) :
    id ∈ (decode domain records).1.items ↔ id ∈ (decode domain records).1.fingerprints := by
  simp only [Std.ExtTreeMap.mem_iff_isSome_getElem?, Option.isSome_iff_exists,
    decode_items distinct, decode_fingerprints distinct]
  constructor
  · rintro ⟨policy, record, hmem, hid, hpolicy⟩
    exact ⟨_, record, hmem, hid, ⟨policy, hpolicy⟩, rfl⟩
  · rintro ⟨_, record, hmem, hid, ⟨policy, hpolicy⟩, -⟩
    exact ⟨policy, record, hmem, hid, hpolicy⟩

/-- Where every record decodes, none is skipped. -/
theorem decode_skipped
    (h : ∀ record ∈ records, ∃ policy, Policy.ofRecord domain record = .ok policy) :
    (decode domain records).2 = [] := by
  rw [decode, List.filterMap_eq_nil_iff]
  intro decoded hdecoded
  obtain ⟨record, hrecord, rfl⟩ := List.mem_map.mp hdecoded
  obtain ⟨policy, hpolicy⟩ := h record hrecord
  rw [hpolicy]
  rfl

end Snapshot

/-! ## Records that are skipped -/

/-- A skipped record is told by its id and name, with the reason why it does not decode. -/
structure Skipped.TellsOf (domain : Domain) (record : Record) (skipped : Skipped) : Prop where
  reason : Policy.ofRecord domain record = .error skipped.reason
  domain : skipped.domain = domain
  id : skipped.id = record.id
  name : skipped.name = record.name

namespace Snapshot

variable {domain : Domain} {records : List Record}

/-- What becomes of records of which no two have one id: a policy with the fingerprint of its value, or
else one mention among the records skipped, in the order of the records. -/
structure Sorts (records : List Record) (snapshot : Snapshot domain) (skipped : List Skipped) :
    Prop where
  items : ∀ (id : RecordId) (policy : Policy domain), snapshot.items[id]? = some policy ↔
    ∃ record ∈ records, record.id = id ∧ Policy.ofRecord domain record = .ok policy
  ids : ∀ id : RecordId, id ∈ snapshot.items ↔ id ∈ snapshot.fingerprints
  fingerprints : ∀ (id : RecordId) (fingerprint : Fingerprint),
    snapshot.fingerprints[id]? = some fingerprint ↔ ∃ record ∈ records, record.id = id ∧
      (∃ policy, Policy.ofRecord domain record = .ok policy) ∧ .of record.value = fingerprint
  total : snapshot.size + skipped.length = records.length
  skipped : List.Forall₂ (Skipped.TellsOf domain)
    (records.filter fun record => (policy? domain record).isNone) skipped

theorem decode_tells (domain : Domain) (records : List Record) :
    List.Forall₂ (Skipped.TellsOf domain)
      (records.filter fun record => (policy? domain record).isNone) (decode domain records).2 := by
  have hskipped : (decode domain records).2 =
      records.filterMap fun record => skipped? (record, Policy.ofRecord domain record) := by
    rw [decode, List.filterMap_map]
    rfl
  rw [hskipped]
  clear hskipped
  induction records with
  | nil => exact .nil
  | cons record records ih =>
    rw [List.filter_cons, List.filterMap_cons, policy?]
    cases hrecord : Policy.ofRecord domain record with
    | ok policy => exact ih
    | error reason => exact .cons ⟨hrecord, rfl, rfl, rfl⟩ ih

theorem size_decode (distinct : records.Pairwise fun a b => a.id ≠ b.id) :
    (decode domain records).1.size =
      records.countP fun record => (policy? domain record).isSome := by
  rw [size, decode_eq, foldl_put_size distinct (by simp)]
  exact Nat.zero_add _

theorem decode_sorts (distinct : records.Pairwise fun a b => a.id ≠ b.id) :
    Sorts records (decode domain records).1 (decode domain records).2 where
  items := decode_items distinct
  ids := decode_ids distinct
  fingerprints := decode_fingerprints distinct
  total := by
    have hskipped := (decode_tells domain records).length_eq
    have hsplit := List.length_eq_length_filter_add (l := records) fun record =>
      (policy? domain record).isSome
    simp only [Option.not_isSome] at hsplit
    rw [size_decode distinct, List.countP_eq_length_filter, ← hskipped]
    exact hsplit.symm
  skipped := decode_tells domain records

end Snapshot

end PolicyStore
