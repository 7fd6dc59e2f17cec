import Mathlib.Algebra.Group.Nat.Defs
import PolicyStore.Proofs.RecordStore.Scanning

/-!
# What requests do to a table

A request leaves the table as it is, or creates, overwrites or erases one row. From this follows
what holds of a table over time: ids are given out in ascending order, no two rows share one, and
an id never comes to stand under another name.
-/

namespace PolicyStore

theorem overflow?_eq_none_iff (name value : String) :
    overflow? name value = none ↔
      0 < name.utf8ByteSize ∧ name.utf8ByteSize ≤ 128 ∧ value.utf8ByteSize ≤ 16250 := by
  rw [overflow?, maxNameBytes, maxValueBytes]
  split
  next h =>
    refine iff_of_false (by simp) fun ⟨hpos, hname, _⟩ => ?_
    omega
  next h =>
    split
    next hvalue =>
      refine iff_of_false (by simp) fun ⟨_, _, hfits⟩ => ?_
      omega
    next hvalue =>
      refine iff_of_true rfl ⟨?_, ?_, ?_⟩ <;> omega

namespace Memory

/-! ## Single requests -/

/-- What a request can do to a table. -/
inductive Effect (memory : Memory) : Memory → Prop
  | unchanged : Effect memory memory
  | created {name : String} (value : String) (free : memory.rows[name]? = none) :
      Effect memory (memory.create name value).2
  | overwritten {name : String} {row : Row} (value : String)
      (held : memory.rows[name]? = some row) :
      Effect memory (memory.overwrite name value row)
  | erased {name : String} (held : name ∈ memory.rows) :
      Effect memory { memory with rows := memory.rows.erase name }

variable {memory before middle after : Memory} {name value : String}

theorem effect_upsert (memory : Memory) (name value : String) :
    memory.Effect (memory.upsert name value).2 := by
  unfold upsert
  split
  · exact .unchanged
  split
  next row hrow =>
    by_cases hv : row.value = value
    · simpa [hv] using Effect.unchanged
    · simpa [hv] using Effect.overwritten value hrow
  next hnone => exact .created value hnone

theorem effect_delete (memory : Memory) (name : String) : memory.Effect (memory.delete name).2 := by
  unfold delete
  split
  next hheld => exact .erased hheld
  next => exact .unchanged

theorem effect_increment (memory : Memory) (name : String) :
    memory.Effect (memory.increment name).2 := by
  unfold increment
  split
  · exact .unchanged
  split
  next hnone => exact .created "1" hnone
  next row hrow =>
    split
    · exact .unchanged
    split
    · exact .unchanged
    next next _ => exact .overwritten (toString next) hrow

theorem effect_answer (memory : Memory) (request : Request) :
    memory.Effect (memory.answer request).2 := by
  cases request with
  | loadRecords => exact .unchanged
  | loadByName => exact .unchanged
  | loadByPrefix => exact .unchanged
  | loadById => exact .unchanged
  | upsert name value => exact effect_upsert memory name value
  | delete name => exact effect_delete memory name
  | increment name => exact effect_increment memory name

/-! ## Rows after a request -/

theorem create_rows (memory : Memory) (name value other : String) :
    (memory.create name value).2.rows[other]? =
      if name = other then
        some ⟨memory.lastId + 1, value, memory.clock + 1, memory.clock + 1⟩
      else memory.rows[other]? := by
  simp [create, Std.ExtTreeMap.getElem?_insert]

theorem overwrite_rows (memory : Memory) (name value : String) (row : Row) (other : String) :
    (memory.overwrite name value row).rows[other]? =
      if name = other then some { row with value := value, updatedAt := memory.clock + 1 }
      else memory.rows[other]? := by
  simp [overwrite, Std.ExtTreeMap.getElem?_insert]

theorem erase_rows (memory : Memory) (name other : String) :
    (memory.rows.erase name)[other]? = if name = other then none else memory.rows[other]? := by
  simp [Std.ExtTreeMap.getElem?_erase]

/-! ## Creations -/

/-- The number of rows that a request created. -/
def creations (before after : Memory) : Nat := after.size - before.size

theorem creations_self (memory : Memory) : creations memory memory = 0 := Nat.sub_self _

theorem creations_create (free : memory.rows[name]? = none) (value : String) :
    creations memory (memory.create name value).2 = 1 := by
  have hfree : memory.rows.contains name = false := by
    rw [Std.ExtTreeMap.contains_eq_isSome_getElem?, free]
    rfl
  simp [creations, size, create, Std.ExtTreeMap.size_insert, hfree]

theorem creations_overwrite {row : Row} (held : memory.rows[name]? = some row) (value : String) :
    creations memory (memory.overwrite name value row) = 0 := by
  have hheld : memory.rows.contains name = true := by
    rw [Std.ExtTreeMap.contains_eq_isSome_getElem?, held]
    rfl
  simp [creations, size, overwrite, Std.ExtTreeMap.size_insert, hheld]

theorem creations_erase (memory : Memory) (name : String) :
    creations memory { memory with rows := memory.rows.erase name } = 0 :=
  Nat.sub_eq_zero_of_le Std.ExtTreeMap.size_erase_le

/-- A request creates at most one row. -/
theorem Effect.creations_le_one (h : memory.Effect after) : creations memory after ≤ 1 := by
  cases h with
  | unchanged => simp [creations_self]
  | created value free => simp [creations_create free]
  | overwritten value held => simp [creations_overwrite held]
  | erased held => simp [creations_erase]

/-! ## What holds of a table -/

/-- A table in which `created` rows have been created so far: the ids up to that number have been
given out, and no two rows share one. -/
structure Sound (created : Nat) (memory : Memory) : Prop where
  last : memory.lastId.toInt = created
  distinct : memory.DistinctIds
  given : ∀ (name : String) (row : Row), memory.rows[name]? = some row →
    1 ≤ row.id.toInt ∧ row.id.toInt ≤ created

theorem sound_empty : Sound 0 empty := by
  constructor
  · rfl
  · intro a b row other ha
    simp [empty] at ha
  · intro name row hrow
    simp [empty] at hrow

/-- The next id, as long as there are ids left. -/
theorem toInt_next {id : RecordId} {created : Nat} (h : id.toInt = created)
    (hbound : created + 1 < 2 ^ 63) : (id + 1).toInt = created + 1 := by
  rw [Int64.toInt_add, h, Int64.toInt_one]
  exact Int.bmod_eq_of_le (by omega) (by omega)

/-- The next id is none of those given out, even when it is the one after the last. -/
theorem Sound.next_ne {created : Nat} (hs : Sound created memory) {id : RecordId}
    (hfirst : 1 ≤ id.toInt) (hlast : id.toInt ≤ created) : id ≠ memory.lastId + 1 := by
  intro hid
  -- after the last id the next one wraps around and is negative
  have hbound : (created : Int) < 2 ^ 63 := hs.last ▸ memory.lastId.toInt_lt
  by_cases hnext : created + 1 < 2 ^ 63
  · rw [hid, toInt_next hs.last hnext] at hlast
    omega
  · have hend : (created : Int) + 1 = 2 ^ 63 := by omega
    rw [hid, Int64.toInt_add, hs.last, Int64.toInt_one, hend] at hfirst
    exact absurd hfirst (by decide)

theorem Sound.row_ne {created : Nat} (hs : Sound created memory) {row : Row}
    (hrow : memory.rows[name]? = some row) : row.id ≠ memory.lastId + 1 :=
  hs.next_ne (hs.given name row hrow).1 (hs.given name row hrow).2

/-- A row that is created has an id of its own if the next id is none of those there are. -/
theorem DistinctIds.create (h : memory.DistinctIds)
    (hnew : ∀ (other : String) (row : Row), memory.rows[other]? = some row →
      row.id ≠ memory.lastId + 1) (name value : String) :
    (memory.create name value).2.DistinctIds := by
  intro a b row other ha hb hid
  rw [create_rows] at ha hb
  split at ha <;> split at hb
  next hna hnb => exact hna.symm.trans hnb
  next =>
    obtain rfl := Option.some.inj ha
    exact absurd hid.symm (hnew b other hb)
  next =>
    obtain rfl := Option.some.inj hb
    exact absurd hid (hnew a row ha)
  next => exact h a b row other ha hb hid

theorem Sound.create {created : Nat} (hs : Sound created memory) (hbound : created + 1 < 2 ^ 63)
    (name value : String) : Sound (created + 1) (memory.create name value).2 := by
  have hnext := toInt_next hs.last hbound
  constructor
  · exact hnext
  · exact hs.distinct.create (fun _ _ hrow => hs.row_ne hrow) name value
  · intro other row hrow
    rw [create_rows] at hrow
    split at hrow
    next =>
      obtain rfl := Option.some.inj hrow
      rw [hnext]
      omega
    next =>
      have hgiven := hs.given other row hrow
      omega

/-- A row that is overwritten keeps its id. -/
theorem overwrite_id {row : Row} (held : memory.rows[name]? = some row) {other : String}
    {now : Row} (hnow : (memory.overwrite name value row).rows[other]? = some now) :
    ∃ old, memory.rows[other]? = some old ∧ old.id = now.id := by
  rw [overwrite_rows] at hnow
  split at hnow
  next hname =>
    obtain rfl := Option.some.inj hnow
    exact ⟨row, hname ▸ held, rfl⟩
  next => exact ⟨now, hnow, rfl⟩

theorem erase_id {other : String} {now : Row}
    (hnow : (memory.rows.erase name)[other]? = some now) : memory.rows[other]? = some now := by
  rw [erase_rows] at hnow
  split at hnow
  · simp at hnow
  · exact hnow

theorem DistinctIds.of_kept (h : memory.DistinctIds)
    (hkept : ∀ (name : String) (now : Row), after.rows[name]? = some now →
      ∃ old, memory.rows[name]? = some old ∧ old.id = now.id) : after.DistinctIds := by
  intro a b row other ha hb hid
  obtain ⟨oldA, hoa, hida⟩ := hkept a row ha
  obtain ⟨oldB, hob, hidb⟩ := hkept b other hb
  exact h a b oldA oldB hoa hob (hida.trans (hid.trans hidb.symm))

/-- A table all of whose ids were there before, each under its name, is as sound as it was. -/
theorem Sound.of_kept {created : Nat} (hs : Sound created memory)
    (hlast : after.lastId = memory.lastId)
    (hkept : ∀ (name : String) (now : Row), after.rows[name]? = some now →
      ∃ old, memory.rows[name]? = some old ∧ old.id = now.id) :
    Sound created after := by
  constructor
  · rw [hlast, hs.last]
  · exact hs.distinct.of_kept hkept
  · intro name now hnow
    obtain ⟨old, hold, hid⟩ := hkept name now hnow
    rw [← hid]
    exact hs.given name old hold

/-- What holds of tables by the number of rows that have been created in them, as long as it stays
below a limit: it goes over to tables that keep ids or lose some, and to a table with one more row. -/
structure Counted (limit : Nat) (Holds : Nat → Memory → Prop) : Prop where
  kept : ∀ {created : Nat} {memory after : Memory}, Holds created memory →
    after.lastId = memory.lastId →
    (∀ (name : String) (now : Row), after.rows[name]? = some now →
      ∃ old, memory.rows[name]? = some old ∧ old.id = now.id) → Holds created after
  create : ∀ {created : Nat} {memory : Memory}, Holds created memory → created + 1 < limit →
    ∀ name value : String, Holds (created + 1) (memory.create name value).2

theorem Counted.effect {limit created : Nat} {Holds : Nat → Memory → Prop}
    (counted : Counted limit Holds) (h : memory.Effect after) (hs : Holds created memory)
    (hbound : created + creations memory after < limit) :
    Holds (created + creations memory after) after := by
  cases h with
  | unchanged =>
    rw [creations_self]
    exact hs
  | created value free =>
    rw [creations_create free] at hbound ⊢
    exact counted.create hs hbound _ value
  | overwritten value held =>
    rw [creations_overwrite held]
    exact counted.kept hs rfl fun _ _ hnow => overwrite_id held hnow
  | erased held =>
    rw [creations_erase]
    exact counted.kept hs rfl fun _ now hnow => ⟨now, erase_id hnow, rfl⟩

theorem counted_sound : Counted (2 ^ 63) Sound where
  kept := Sound.of_kept
  create := Sound.create

theorem Effect.sound {created : Nat} (h : memory.Effect after) (hs : Sound created memory)
    (hbound : created + creations memory after < 2 ^ 63) :
    Sound (created + creations memory after) after :=
  counted_sound.effect h hs hbound

/-! ## Tables over time -/

/-- The table `after` comes later than `before`: a row there has the id that its name had before, or
one that was given out since. -/
structure Follows (before after : Memory) : Prop where
  last : before.lastId.toInt ≤ after.lastId.toInt
  kept : ∀ (name : String) (now : Row), after.rows[name]? = some now →
    (∃ old, before.rows[name]? = some old ∧ old.id = now.id) ∨
      before.lastId.toInt < now.id.toInt

theorem Follows.refl (memory : Memory) : Follows memory memory where
  last := Int.le_refl _
  kept _ now hnow := .inl ⟨now, hnow, rfl⟩

theorem Follows.trans (h : Follows before middle) (h' : Follows middle after) :
    Follows before after where
  last := Int.le_trans h.last h'.last
  kept name now hnow := by
    rcases h'.kept name now hnow with ⟨mid, hmid, hid⟩ | hnew
    · rcases h.kept name mid hmid with ⟨old, hold, hid'⟩ | hnew
      · exact .inl ⟨old, hold, hid'.trans hid⟩
      · exact .inr (hid ▸ hnew)
    · exact .inr (Int.lt_of_le_of_lt h.last hnew)

theorem Effect.follows {created : Nat} (h : memory.Effect after) (hs : Sound created memory)
    (hbound : created + creations memory after < 2 ^ 63) : Follows memory after := by
  cases h with
  | unchanged => exact Follows.refl memory
  | @created name value free =>
    rw [creations_create free] at hbound
    have hnext := toInt_next hs.last hbound
    have hlast := hs.last
    constructor
    · change _ ≤ (memory.lastId + 1).toInt
      omega
    · intro other now hnow
      rw [create_rows] at hnow
      split at hnow
      next =>
        obtain rfl := Option.some.inj hnow
        refine .inr ?_
        change _ < (memory.lastId + 1).toInt
        omega
      next => exact .inl ⟨now, hnow, rfl⟩
  | overwritten value held => exact ⟨Int.le_refl _, fun _ _ hnow => .inl (overwrite_id held hnow)⟩
  | erased held => exact ⟨Int.le_refl _, fun _ now hnow => .inl ⟨now, erase_id hnow, rfl⟩⟩

/-- Requests lead from one table to another and create a number of rows on the way. -/
inductive Leads : Memory → Nat → Memory → Prop
  | refl (memory : Memory) : Leads memory 0 memory
  | step {before middle after : Memory} {later : Nat} (first : before.Effect middle)
      (rest : Leads middle later after) : Leads before (creations before middle + later) after

theorem Counted.leads {limit created number : Nat} {Holds : Nat → Memory → Prop}
    (counted : Counted limit Holds) (h : Leads before number after) (hs : Holds created before)
    (hbound : created + number < limit) : Holds (created + number) after := by
  induction h generalizing created with
  | refl memory => exact hs
  | step first rest ih =>
    rw [← Nat.add_assoc] at hbound ⊢
    have hstep := Nat.lt_of_le_of_lt (Nat.le_add_right _ _) hbound
    exact ih (counted.effect first hs hstep) hbound

theorem Leads.follows {created number : Nat} (h : Leads before number after)
    (hs : Sound created before) (hbound : created + number < 2 ^ 63) : Follows before after := by
  induction h generalizing created with
  | refl memory => exact Follows.refl memory
  | step first rest ih =>
    rw [← Nat.add_assoc] at hbound
    have hstep := Nat.lt_of_le_of_lt (Nat.le_add_right _ _) hbound
    exact (first.follows hs hstep).trans (ih (first.sound hs hstep) hbound)

/-- An id never comes to stand under another name. -/
theorem Follows.name_eq {created : Nat} (h : Follows before after) (hs : Sound created before)
    {a b : String} {row now : Row} (hrow : before.rows[a]? = some row)
    (hnow : after.rows[b]? = some now) (hid : row.id = now.id) : a = b := by
  rcases h.kept b now hnow with ⟨old, hold, hid'⟩ | hnew
  · exact hs.distinct a b row old hrow hold (hid.trans hid'.symm)
  · have hgiven := (hs.given a row hrow).2
    have hlast := hs.last
    rw [hid] at hgiven
    omega

/-! ## Writing and deleting -/

/-- What a successful write of `value` under `name` comes to: the row of the name has the value,
under the id that it had or under the next one, and the other rows are as before. -/
structure Upserted (before : Memory) (name value : String) (id : RecordId) (after : Memory) :
    Prop where
  held : ∃ row, after.rows[name]? = some row ∧ row.id = id ∧ row.value = value
  others : ∀ other, other ≠ name → after.rows[other]? = before.rows[other]?
  old : ∀ row, before.rows[name]? = some row → row.id = id
  new : before.rows[name]? = none → id = before.lastId + 1

theorem upserted_create (free : memory.rows[name]? = none) (value : String) :
    Upserted memory name value (memory.lastId + 1) (memory.create name value).2 where
  held := ⟨_, by rw [create_rows, if_pos rfl], rfl, rfl⟩
  others other hne := by rw [create_rows, if_neg hne.symm]
  old row hrow := by simp [free] at hrow
  new _ := rfl

theorem upserted_overwrite {row : Row} (held : memory.rows[name]? = some row) (value : String) :
    Upserted memory name value row.id (memory.overwrite name value row) where
  held := ⟨{ row with value := value, updatedAt := memory.clock + 1 },
    by rw [overwrite_rows, if_pos rfl], rfl, rfl⟩
  others other hne := by rw [overwrite_rows, if_neg hne.symm]
  old other hother := by
    rw [held] at hother
    rw [Option.some.inj hother]
  new hnone := by simp [held] at hnone

theorem upserted_same {row : Row} (held : memory.rows[name]? = some row) :
    Upserted memory name row.value row.id memory where
  held := ⟨row, held, rfl, rfl⟩
  others _ _ := rfl
  old other hother := by
    rw [held] at hother
    rw [Option.some.inj hother]
  new hnone := by simp [held] at hnone

/-- A write that fits succeeds. -/
theorem upsert_fits (h : overflow? name value = none) (memory : Memory) :
    ∃ id, (memory.upsert name value).1 = .ok id ∧
      Upserted memory name value id (memory.upsert name value).2 := by
  rw [upsert, h]
  dsimp only
  split
  next row hrow =>
    refine ⟨row.id, rfl, ?_⟩
    by_cases hv : row.value = value
    · subst hv
      simpa using upserted_same hrow
    · simpa [hv] using upserted_overwrite hrow value
  next hnone => exact ⟨_, rfl, upserted_create hnone value⟩

/-- A write that does not fit changes nothing. -/
theorem upsert_overflow {overflow : Overflow} (h : overflow? name value = some overflow)
    (memory : Memory) :
    memory.upsert name value = (.error (.boundExceeded overflow), memory) := by
  rw [upsert, h]

/-- A row after a write is the one that was written or was there before. -/
theorem Upserted.row_cases {id : RecordId} (h : Upserted before name value id after)
    {other : String} {row : Row} (hrow : after.rows[other]? = some row) :
    (other = name ∧ row.id = id ∧ row.value = value) ∨
      (other ≠ name ∧ before.rows[other]? = some row) := by
  by_cases hname : other = name
  · subst hname
    obtain ⟨held, hheld, hid, hvalue⟩ := h.held
    rw [hheld] at hrow
    obtain rfl := Option.some.inj hrow
    exact .inl ⟨rfl, hid, hvalue⟩
  · rw [h.others other hname] at hrow
    exact .inr ⟨hname, hrow⟩

theorem Upserted.distinct {id : RecordId} {created : Nat} (h : Upserted before name value id after)
    (hs : Sound created before) : after.DistinctIds := by
  obtain ⟨row, hrow, hid, -⟩ := h.held
  -- another row is as before, and the id of the written row is its old one or was given to none
  have hother : ∀ (other : String) (now : Row), other ≠ name → after.rows[other]? = some now →
      now.id ≠ row.id := by
    intro other now hne hnow heq
    rw [h.others other hne] at hnow
    cases hbefore : before.rows[name]? with
    | some old =>
      have hold := h.old old hbefore
      exact hne (hs.distinct other name now old hnow hbefore (heq.trans (hid.trans hold.symm)))
    | none => exact hs.row_ne hnow (heq.trans (hid.trans (h.new hbefore)))
  intro a b first second ha hb heq
  by_cases hna : a = name <;> by_cases hnb : b = name
  · exact hna.trans hnb.symm
  · subst hna
    rw [hrow] at ha
    obtain rfl := Option.some.inj ha
    exact absurd heq.symm (hother b second hnb hb)
  · subst hnb
    rw [hrow] at hb
    obtain rfl := Option.some.inj hb
    exact absurd heq (hother a first hna ha)
  · rw [h.others a hna] at ha
    rw [h.others b hnb] at hb
    exact hs.distinct a b first second ha hb heq

theorem delete_held {row : Row} (h : memory.rows[name]? = some row) :
    memory.delete name = (true, { memory with rows := memory.rows.erase name }) := by
  have hheld : memory.rows.contains name = true := by
    rw [Std.ExtTreeMap.contains_eq_isSome_getElem?, h]
    rfl
  rw [delete, if_pos hheld]

end Memory

end PolicyStore
