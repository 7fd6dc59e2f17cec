import PolicyStore.Proofs.RecordStore.History
import PolicyStore.Proofs.Service.Direct

/-!
# The reorganization counter

A table counts reorganizations in one row. Reading it gives the number it stands for, and advancing
it gives the next number, which is then what it stands for, until the last 64-bit number. Where the
text of the row is no such number, reading and advancing fail alike.
-/

namespace PolicyStore

namespace Memory

variable {memory after : Memory} {n : Int64}

/-- The number of reorganizations that a table stands for. -/
def Counts (memory : Memory) (n : Int64) : Prop :=
  Service.versionOf (memory.loadByName reorgKey) = .ok n

theorem counts_of_rows (hrows : after.rows[reorgKey]? = memory.rows[reorgKey]?)
    (h : memory.Counts n) : after.Counts n := by
  rwa [Counts, loadByName, hrows]

theorem counts_of_free (h : memory.rows[reorgKey]? = none) : memory.Counts 0 := by
  rw [Counts, loadByName, h]
  rfl

/-- Where there is a row its text decides. -/
theorem versionOf_row {row : Row} (hrow : memory.rows[reorgKey]? = some row) :
    Service.versionOf (memory.loadByName reorgKey) =
      (parseCounter reorgKey row.value).mapError .ofStoreError := by
  rw [loadByName, hrow, Option.map_some, Service.versionOf, Row.record_value]

theorem counts_of_row {row : Row} (hrow : memory.rows[reorgKey]? = some row)
    (hvalue : row.value = toString n) : memory.Counts n := by
  rw [Counts, versionOf_row hrow, hvalue, parseCounter_toString]
  rfl

theorem Upserted.counts {id : RecordId} (h : Upserted memory reorgKey (toString n) id after) :
    after.Counts n := by
  obtain ⟨row, hrow, -, hvalue⟩ := h.held
  exact counts_of_row hrow hvalue

/-- The row of a counter, if there is one, reads as the number that the table stands for. -/
theorem Counts.parse (h : memory.Counts n) {row : Row} (hrow : memory.rows[reorgKey]? = some row) :
    parseCounter reorgKey row.value = .ok n := by
  rw [Counts, versionOf_row hrow] at h
  cases hparse : parseCounter reorgKey row.value with
  | error fault =>
    rw [hparse] at h
    cases h
  | ok m =>
    rw [hparse] at h
    exact congrArg Except.ok (Except.ok.inj h)

theorem Counts.eq_zero (h : memory.Counts n) (hfree : memory.rows[reorgKey]? = none) : n = 0 :=
  (Except.ok.inj ((counts_of_free hfree).symm.trans h)).symm

theorem reorgKey_fits : overflow? reorgKey "" = none := by decide

/-- Advancing a counter gives the next number, as which it is written. -/
theorem Counts.increment (h : memory.Counts n) (hlt : n.toInt < Int64.maxValue.toInt) :
    (memory.increment reorgKey).1 = .ok (n + 1) ∧
      ∃ id, Upserted memory reorgKey (toString (n + 1)) id (memory.increment reorgKey).2 := by
  rw [Memory.increment, reorgKey_fits]
  dsimp only
  split
  next hfree =>
    obtain rfl := h.eq_zero hfree
    exact ⟨rfl, _, upserted_create hfree "1"⟩
  next row hrow =>
    rw [h.parse hrow]
    dsimp only
    rw [nextCount?_of_lt hlt]
    exact ⟨rfl, _, upserted_overwrite hrow _⟩

/-- Past the last number the counter is not advanced. -/
theorem Counts.increment_max (h : memory.Counts Int64.maxValue) :
    memory.increment reorgKey = (.error (.counterOverflow reorgKey), memory) := by
  rw [Memory.increment, reorgKey_fits]
  dsimp only
  split
  next hfree => exact absurd (h.eq_zero hfree) (by decide)
  next row hrow =>
    rw [h.parse hrow]
    dsimp only
    rw [nextCount?_maxValue]

/-- A counter whose text is not read is not advanced. -/
theorem increment_unread {row : Row} {fault : StoreError} (hrow : memory.rows[reorgKey]? = some row)
    (hfault : parseCounter reorgKey row.value = .error fault) :
    memory.increment reorgKey = (.error fault, memory) := by
  rw [Memory.increment, reorgKey_fits]
  dsimp only
  rw [hrow]
  dsimp only
  rw [hfault]

theorem increment_error {fault : StoreError} (h : (memory.increment reorgKey).1 = .error fault) :
    (memory.increment reorgKey).2 = memory := by
  have hanswer : (memory.answer (.increment reorgKey)).1 = .error fault := h
  exact answer_error hanswer

end Memory

namespace Service

theorem eval_reorgVersion (memory : Memory) :
    reorgVersion.eval memory = ⟨versionOf (memory.loadByName reorgKey), memory, []⟩ := by
  rw [reorgVersion, Operation.eval, Program.eval_request]
  rfl

theorem eval_bumpReorgVersion (memory : Memory) :
    bumpReorgVersion.eval memory =
      ⟨(memory.increment reorgKey).1.mapError .ofStoreError, (memory.increment reorgKey).2, []⟩ := by
  rw [bumpReorgVersion, Operation.eval, Program.eval_request]
  simp only [Memory.answer]
  cases (memory.increment reorgKey).1 <;> rfl

/-! ## Reading and advancing -/

/-- What the generation is read as. -/
def generation (service : Service Memory) : Option (Except PolicyError Int64) :=
  (service.perform (fun _ => reorgVersion) none).1

/-- What advancing the generation gives, and the service then. -/
def advanced (service : Service Memory) : Option (Except PolicyError Int64) × Service Memory :=
  ((service.perform (fun _ => bumpReorgVersion) none).1,
    (service.perform (fun _ => bumpReorgVersion) none).2.1)

/-- The generation that is read decides what advancing it comes to: the next one, which is read from
then on, or the same failure. A failure leaves everything as it was. -/
structure AdvancesAsRead (service : Service Memory) : Prop where
  absent : service.state.rows[reorgKey]? = none → service.generation = some (.ok 0)
  stored : ∀ row : Row, service.state.rows[reorgKey]? = some row →
    service.generation = some ((parseCounter reorgKey row.value).mapError .ofStoreError)
  next : ∀ n : Int64, service.generation = some (.ok n) → n.toInt < Int64.maxValue.toInt →
    service.advanced.1 = some (.ok (n + 1)) ∧ (n + 1).toInt = n.toInt + 1 ∧
      service.advanced.2.generation = some (.ok (n + 1))
  last : service.generation = some (.ok Int64.maxValue) →
    service.advanced.1 = some (.error (.storage (.counterOverflow reorgKey)))
  unread : ∀ error, service.generation = some (.error error) →
    service.advanced.1 = some (.error error) ∧
      ∃ row : Row, service.state.rows[reorgKey]? = some row ∧
        (error = .nonNumericVersion (some row.value) ∨ error = .storage (.counterOverflow reorgKey))
  failed : ∀ error, service.advanced.1 = some (.error error) → service.advanced.2 = service
  reads : (∃ result, service.generation = some result) ∧
    (service.perform (fun _ => reorgVersion) none).2.1 = service

variable (registry : Registry) (memory : Memory)

theorem generation_onTable :
    (onTable registry memory).generation = some (versionOf (memory.loadByName reorgKey)) := by
  rw [generation, perform_onTable, eval_reorgVersion]

theorem advanced_onTable :
    (onTable registry memory).advanced =
      (some ((memory.increment reorgKey).1.mapError .ofStoreError),
        onTable registry (memory.increment reorgKey).2) := by
  rw [advanced, perform_onTable, eval_bumpReorgVersion]

variable {memory}

theorem generation_eq_ok_iff {n : Int64} :
    (onTable registry memory).generation = some (.ok n) ↔ memory.Counts n := by
  rw [generation_onTable, Option.some.injEq, Memory.Counts]

theorem advanced_next {n : Int64} (h : memory.Counts n) (hlt : n.toInt < Int64.maxValue.toInt) :
    (onTable registry memory).advanced.1 = some (.ok (n + 1)) ∧
      (onTable registry memory).advanced.2.generation = some (.ok (n + 1)) := by
  obtain ⟨hresult, id, hwritten⟩ := h.increment hlt
  rw [advanced_onTable]
  refine ⟨?_, (generation_eq_ok_iff registry).mpr hwritten.counts⟩
  rw [hresult]
  rfl

theorem advanced_last (h : memory.Counts Int64.maxValue) :
    (onTable registry memory).advanced.1 =
      some (.error (.storage (.counterOverflow reorgKey))) := by
  rw [advanced_onTable, h.increment_max]
  rfl

/-- A generation fails to be read by the text of its row only. -/
theorem advanced_unread {error : PolicyError}
    (h : versionOf (memory.loadByName reorgKey) = .error error) :
    (onTable registry memory).advanced.1 = some (.error error) ∧
      ∃ row : Row, memory.rows[reorgKey]? = some row ∧
        (error = .nonNumericVersion (some row.value) ∨
          error = .storage (.counterOverflow reorgKey)) := by
  cases hrow : memory.rows[reorgKey]? with
  | none =>
    rw [Memory.counts_of_free hrow] at h
    cases h
  | some row =>
    rw [Memory.versionOf_row hrow] at h
    rw [advanced_onTable]
    -- The three verdicts on the text of the row: the counter is not advanced on the last two.
    rcases parseCounter_cases reorgKey row.value with ⟨n, hn⟩ | hpast | hother
    · rw [hn] at h
      cases h
    · rw [hpast] at h
      rw [Memory.increment_unread hrow hpast]
      cases h
      exact ⟨rfl, row, rfl, .inr rfl⟩
    · rw [hother] at h
      rw [Memory.increment_unread hrow hother]
      cases h
      exact ⟨rfl, row, rfl, .inl rfl⟩

theorem advanced_failed {error : PolicyError}
    (h : (onTable registry memory).advanced.1 = some (.error error)) :
    (onTable registry memory).advanced.2 = onTable registry memory := by
  rw [advanced_onTable] at h ⊢
  cases hresult : (memory.increment reorgKey).1 with
  | ok n =>
    rw [hresult] at h
    cases h
  | error fault =>
    have hsame : (memory.increment reorgKey).2 = memory := Memory.increment_error hresult
    rw [hsame]

/-- Whatever text the counter's row holds, reading and advancing judge it alike. -/
theorem advances_as_read (registry : Registry) (memory : Memory) :
    AdvancesAsRead (onTable registry memory) where
  absent hfree := (generation_eq_ok_iff registry).mpr (Memory.counts_of_free hfree)
  stored row hrow := by
    have hversion : versionOf (memory.loadByName reorgKey) = _ := Memory.versionOf_row hrow
    rw [generation_onTable, hversion]
  next n hread hlt := by
    have hcounts : memory.Counts n := (generation_eq_ok_iff registry).mp hread
    obtain ⟨hresult, hthen⟩ := advanced_next registry hcounts hlt
    exact ⟨hresult, toInt_succ hlt, hthen⟩
  last hread := advanced_last registry ((generation_eq_ok_iff registry).mp hread)
  unread error hread := by
    rw [generation_onTable, Option.some.injEq] at hread
    exact advanced_unread registry hread
  failed _ := advanced_failed registry
  reads := by
    refine ⟨⟨_, generation_onTable registry memory⟩, ?_⟩
    rw [perform_onTable, eval_reorgVersion]

end Service

end PolicyStore
