import Mathlib.Data.List.Basic
import PolicyStore.Proofs.Maps
import PolicyStore.Proofs.RecordStore.Scanning

/-!
# What requests read

Most requests that read name what they read: a name, some names, or the names that start with a text.
When these all start with one prefix, the answer is a matter of the rows under that prefix, and other
rows may come and go. Only a request by id looks at all rows.
-/

namespace PolicyStore

variable {namePrefix : String} {before after : Memory}

namespace Memory

/-- Tables with the same rows under the names that start with a prefix. -/
def SameUnder (namePrefix : String) (before after : Memory) : Prop :=
  ∀ name, startsWith namePrefix name = true → after.rows[name]? = before.rows[name]?

theorem SameUnder.loadByName (h : SameUnder namePrefix before after) {name : String}
    (hstart : startsWith namePrefix name = true) :
    after.loadByName name = before.loadByName name := by
  rw [Memory.loadByName, Memory.loadByName, h name hstart]

theorem SameUnder.loadRecords (h : SameUnder namePrefix before after) {names : List String}
    (hstart : ∀ name ∈ names, startsWith namePrefix name = true) :
    after.loadRecords names = before.loadRecords names := by
  rw [Memory.loadRecords, Memory.loadRecords]
  congr 1
  exact List.filterMap_congr fun name hname => h.loadByName (hstart name hname)

/-- Records in the order of their names are determined by which ones they are. -/
theorem eq_of_ordered {first second : List Record}
    (hfirst : first.Pairwise fun a b => a.name < b.name)
    (hsecond : second.Pairwise fun a b => a.name < b.name)
    (hmem : ∀ record, record ∈ first ↔ record ∈ second) : first = second :=
  eq_of_strict String.lt_asymm hfirst hsecond hmem

theorem SameUnder.loadByPrefix (h : SameUnder namePrefix before after) {start : String}
    (hstart : startsWith namePrefix start = true) :
    after.loadByPrefix start = before.loadByPrefix start := by
  rw [loadByPrefix_eq, loadByPrefix_eq]
  congr 1
  refine eq_of_ordered (records_ordered.filter _) (records_ordered.filter _) fun record => ?_
  rw [List.mem_filter, List.mem_filter, mem_records_iff, mem_records_iff]
  refine and_congr_left fun hrecord => ?_
  rw [h record.name (startsWith_trans hstart hrecord)]

end Memory

/-- A request that reads under names which start with a prefix, and nowhere else. -/
def Request.ReadsUnder (namePrefix : String) : Request → Prop
  | .loadByName name => startsWith namePrefix name = true
  | .loadRecords names => ∀ name ∈ names, startsWith namePrefix name = true
  | .loadByPrefix start => startsWith namePrefix start = true
  | _ => False

theorem Memory.SameUnder.answer (h : Memory.SameUnder namePrefix before after) {request : Request}
    (hreads : request.ReadsUnder namePrefix) :
    (after.answer request).1 = (before.answer request).1 := by
  cases request with
  | loadRecords names => exact congrArg Except.ok (h.loadRecords hreads)
  | loadByName name => exact congrArg Except.ok (h.loadByName hreads)
  | loadByPrefix start => exact congrArg Except.ok (h.loadByPrefix hreads)
  | loadById id => exact hreads.elim
  | upsert name value => exact hreads.elim
  | delete name => exact hreads.elim
  | increment name => exact hreads.elim

theorem Request.ReadsUnder.memory_eq {request : Request} (h : request.ReadsUnder namePrefix)
    (memory : Memory) : (memory.answer request).2 = memory := by
  cases request with
  | loadRecords names => rfl
  | loadByName name => rfl
  | loadByPrefix start => rfl
  | loadById id => exact h.elim
  | upsert name value => exact h.elim
  | delete name => exact h.elim
  | increment name => exact h.elim

end PolicyStore
