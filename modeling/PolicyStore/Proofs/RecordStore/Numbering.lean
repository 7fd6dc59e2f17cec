import PolicyStore.Proofs.RecordStore.Writing

/-!
# Ids beyond the last positive one

Ids are signed, and after the last positive one they wrap around to the negative ones. Counted
without sign they go on in ascending order, so rows have ids of their own as long as fewer than
2^64 rows have been created.
-/

namespace PolicyStore.Memory

variable {memory before after : Memory}

/-- The place of an id in the order in which ids are given out. -/
def idNumber (id : RecordId) : Nat := id.toUInt64.toNat

theorem idNumber_next {id : RecordId} (h : idNumber id + 1 < 2 ^ 64) :
    idNumber (id + 1) = idNumber id + 1 := by
  rw [idNumber] at h ⊢
  rw [Int64.toUInt64_add, UInt64.toNat_add]
  exact Nat.mod_eq_of_lt h

/-- A table in which `created` rows have been created so far, as far as ids go without sign. -/
structure Numbered (created : Nat) (memory : Memory) : Prop where
  last : idNumber memory.lastId = created
  distinct : memory.DistinctIds
  given : ∀ (name : String) (row : Row), memory.rows[name]? = some row → idNumber row.id ≤ created

theorem numbered_empty : Numbered 0 empty := by
  refine ⟨rfl, sound_empty.distinct, fun name row hrow => ?_⟩
  simp [empty] at hrow

theorem Numbered.create {created : Nat} (hn : Numbered created memory)
    (hbound : created + 1 < 2 ^ 64) (name value : String) :
    Numbered (created + 1) (memory.create name value).2 := by
  have hnext : idNumber (memory.lastId + 1) = created + 1 := by
    rw [idNumber_next (by rwa [hn.last]), hn.last]
  have hnew : ∀ (other : String) (row : Row), memory.rows[other]? = some row →
      row.id ≠ memory.lastId + 1 := by
    intro other row hrow hid
    have hgiven := hn.given other row hrow
    rw [hid, hnext] at hgiven
    omega
  refine ⟨hnext, hn.distinct.create hnew name value, fun other row hrow => ?_⟩
  rw [create_rows] at hrow
  split at hrow
  next =>
    obtain rfl := Option.some.inj hrow
    exact Nat.le_of_eq hnext
  next => exact Nat.le_succ_of_le (hn.given other row hrow)

theorem Numbered.of_kept {created : Nat} (hn : Numbered created memory)
    (hlast : after.lastId = memory.lastId)
    (hkept : ∀ (name : String) (now : Row), after.rows[name]? = some now →
      ∃ old, memory.rows[name]? = some old ∧ old.id = now.id) : Numbered created after := by
  refine ⟨by rw [hlast, hn.last], hn.distinct.of_kept hkept, fun name now hnow => ?_⟩
  obtain ⟨old, hold, hid⟩ := hkept name now hnow
  rw [← hid]
  exact hn.given name old hold

theorem counted_numbered : Counted (2 ^ 64) Numbered where
  kept := Numbered.of_kept
  create := Numbered.create

end PolicyStore.Memory
