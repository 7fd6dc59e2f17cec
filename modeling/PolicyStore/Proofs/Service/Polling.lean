import PolicyStore.Proofs.Policy.Polling
import PolicyStore.Proofs.Service.History

/-!
# Polling converges

A reader loads a domain once and from then on asks only for what changed. A record is not decoded
again when its value has the fingerprint that it had. This is sound because an id stays with its
name, and only records that decode have their fingerprints kept.
-/

namespace PolicyStore

namespace Memory

variable {before now : Memory} {created : Nat}

/-- A value is held when a row has it. -/
def Holds (memory : Memory) (value : String) : Prop :=
  ∃ (name : String) (row : Row), memory.rows[name]? = some row ∧ row.value = value

theorem holds_of_mem {memory : Memory} {record : Record} (h : record ∈ memory.records) :
    memory.Holds record.value := by
  obtain ⟨row, hrow, heq⟩ := mem_records_iff.mp h
  exact ⟨record.name, row, hrow, by rw [heq]; rfl⟩

/-- What was loaded from a table agrees with any later table, provided that different values of the
two have different fingerprints. -/
theorem Follows.agrees (h : before.Follows now) (hs : before.Sound created) (domain : Domain)
    (hdigest : ∀ v w, before.Holds v → now.Holds w → Fingerprint.of v = Fingerprint.of w → v = w) :
    Delta.Agrees (Snapshot.decode domain (before.loadByPrefix domain.namePrefix)).1
      (now.loadByPrefix domain.namePrefix) where
  ids := Snapshot.decode_ids (hs.distinct.loadByPrefix _)
  seen := by
    have distinct := hs.distinct.loadByPrefix domain.namePrefix
    intro record hrecord hseen
    obtain ⟨old, hold, hid, ⟨policy, hpolicy⟩, hfingerprint⟩ :=
      (Snapshot.decode_fingerprints distinct _ _).mp hseen
    obtain ⟨holdRecord, -⟩ := mem_loadByPrefix_iff.mp hold
    obtain ⟨hnowRecord, -⟩ := mem_loadByPrefix_iff.mp hrecord
    have hvalue : old.value = record.value :=
      hdigest _ _ (holds_of_mem holdRecord) (holds_of_mem hnowRecord) hfingerprint
    -- the same id stands for the same name, however often rows came and went in between
    have hname : old.name = record.name := by
      obtain ⟨oldRow, holdRow, holdEq⟩ := mem_records_iff.mp holdRecord
      obtain ⟨row, hrow, heq⟩ := mem_records_iff.mp hnowRecord
      refine h.name_eq hs holdRow hrow ?_
      rw [holdEq, heq] at hid
      exact hid
    refine ⟨policy, (Snapshot.decode_items distinct _ _).mpr ⟨old, hold, hid, hpolicy⟩, ?_⟩
    rw [← hpolicy]
    exact Policy.ofRecord_congr hid.symm hname.symm hvalue.symm

end Memory

namespace Service

/-- A value is held in a history when a row has it at some moment. -/
def HeldIn (service : Service Memory) (calls : List Call) (value : String) : Prop :=
  ∃ past, past <+: calls ∧ (service.after past).state.Holds value

/-- Of a load at one moment and a poll with its fingerprints at a later one, the poll succeeds;
applied to what was loaded it gives the policies of a load at the later moment, it comes with the
fingerprints of that load, and it tells whether they changed. -/
theorem poll_eq_load (registry : Registry) (domain : Domain)
    (hregistered : registry.isRegistered domain.namePrefix = true) (early late : List Call)
    (hcreated : (inMemory registry).creations (early ++ late) < 2 ^ 63)
    (hdigest : ∀ v w, (inMemory registry).HeldIn (early ++ late) v →
      (inMemory registry).HeldIn (early ++ late) w → Fingerprint.of v = Fingerprint.of w → v = w) :
    ∃ (kept now : Snapshot domain) (delta : Delta domain),
      (((inMemory registry).after early).perform (loadAll · domain) none).1 = some (.ok kept) ∧
      (((inMemory registry).after (early ++ late)).perform (loadAll · domain) none).1 =
        some (.ok now) ∧
      (((inMemory registry).after (early ++ late)).perform
        (loadChanged · domain kept.fingerprints) none).1 = some (.ok delta) ∧
      delta.patch kept.items = now.items ∧
      delta.fingerprints = now.fingerprints ∧
      (delta.isUnchanged = true ↔ kept.fingerprints = now.fingerprints) := by
  -- the later table is reached from the earlier one, which need not be the empty one
  rw [creations_append] at hcreated
  have hearly : (inMemory registry).creations early < 2 ^ 63 := by omega
  obtain ⟨before, hbefore, hsound⟩ := after_inMemory registry hearly
  rw [hbefore] at hcreated
  obtain ⟨now, hnow, hsoundNow, hfollows⟩ := after_onTable hsound hcreated
  have hlater : (inMemory registry).after (early ++ late) = onTable registry now := by
    rw [after_append, hbefore, hnow]
  have hheldBefore : ∀ v, before.Holds v → (inMemory registry).HeldIn (early ++ late) v :=
    fun v hv => ⟨early, List.prefix_append early late, by rw [hbefore]; exact hv⟩
  have hheldNow : ∀ v, now.Holds v → (inMemory registry).HeldIn (early ++ late) v :=
    fun v hv => ⟨early ++ late, List.prefix_refl _, by rw [hlater]; exact hv⟩
  have agrees := hfollows.agrees hsound domain fun v w hv hw =>
    hdigest v w (hheldBefore v hv) (hheldNow w hw)
  have distinct := hsoundNow.distinct.loadByPrefix domain.namePrefix
  refine ⟨_, _, _, ?_, ?_, ?_, Delta.patch_eq_load agrees distinct,
    Delta.decode_fingerprints_eq_load agrees distinct, Delta.isUnchanged_iff agrees distinct⟩
  · rw [hbefore, perform_onTable, eval_loadAll hregistered]
  · rw [hlater, perform_onTable, eval_loadAll hregistered]
  · rw [hlater, perform_onTable, eval_loadChanged hregistered]

theorem held_created {memory : Memory} (hempty : memory.rows = ∅) {name value held : String}
    (h : (memory.create name value).2.Holds held) : held = value := by
  obtain ⟨other, row, hrow, rfl⟩ := h
  rw [Memory.create_rows, hempty] at hrow
  split at hrow
  · obtain rfl := Option.some.inj hrow
    rfl
  · simp at hrow

/-- Writes the record of an allow-list whose document is the empty object. -/
def writeEmpty : Call where
  action := .upsert "acl.allowlist.a" "\x7b\x7d"

/-- Erases that record again, under a deadline that is not reached. -/
def eraseEmpty : Call where
  action := .delete "acl.allowlist.a"
  interrupt := ⟨none, some (.ofMillis 5)⟩

/-- A record that is erased again between two loads. -/
theorem poll_eq_load_erased :
    ∃ (kept now : Snapshot .allowList) (delta : Delta .allowList),
      (((inMemory .builtin).after [writeEmpty]).perform
        (loadAll · .allowList) none).1 = some (.ok kept) ∧
      (((inMemory .builtin).after ([writeEmpty] ++ [eraseEmpty])).perform
        (loadAll · .allowList) none).1 = some (.ok now) ∧
      (((inMemory .builtin).after ([writeEmpty] ++ [eraseEmpty])).perform
        (loadChanged · .allowList kept.fingerprints) none).1 = some (.ok delta) ∧
      delta.patch kept.items = now.items ∧
      delta.fingerprints = now.fingerprints ∧
      (delta.isUnchanged = true ↔ kept.fingerprints = now.fingerprints) := by
  have hheld : ∀ v, (inMemory .builtin).HeldIn ([writeEmpty] ++ [eraseEmpty]) v →
      v = "\x7b\x7d" := by
    rintro v ⟨past, hpast, hv⟩
    simp only [List.cons_append, List.nil_append, List.prefix_cons_iff, List.prefix_nil] at hpast
    rcases hpast with rfl | ⟨_, rfl, rfl | ⟨_, rfl, rfl⟩⟩
    · obtain ⟨name, row, hrow, -⟩ := hv
      simp [after, inMemory, Memory.empty] at hrow
    · exact held_created (rfl : Memory.empty.rows = ∅) hv
    · obtain ⟨name, row, hrow, hvalue⟩ := hv
      exact held_created (rfl : Memory.empty.rows = ∅) ⟨name, row, Memory.erase_id hrow, hvalue⟩
  refine poll_eq_load .builtin .allowList (by decide) _ _ ?_ fun v w hv hw _ => ?_
  · exact Nat.lt_of_le_of_lt (creations_le_length _ _ _) (by decide)
  · rw [hheld v hv, hheld w hw]

end Service

end PolicyStore
