import Mathlib.Data.List.Induction
import PolicyStore.Proofs.Counters
import PolicyStore.Proofs.RecordStore.Writing

/-!
# A table keeps its history

The history of a table is told by the requests it was given and the answers it gave: each answer
tells whether something was written, and what, or removed. What the table holds under a name is what
was last written there, and the id of a row tells when the row was created.
-/

namespace PolicyStore

/-! ## The log of a history -/

/-- What a successful request did to a name. -/
inductive Entry
  | written (name value : String)
  | removed (name : String)
  deriving DecidableEq, Repr

namespace Entry

/-- The name that an entry is about. -/
def name : Entry → String
  | written name _ => name
  | removed name => name

/-- Whether an entry tells of a write under a name. -/
def Writes (entry : Entry) (name : String) : Prop := ∃ value, entry = .written name value

/-- The entry that a request makes, by its answer. A counter is written as the decimal text of the
number that it now has; removing what is not there makes no entry. -/
def of? : (request : Request) → Answer request → Option Entry
  | .upsert name value, .ok _ => some (.written name value)
  | .increment name, .ok n => some (.written name (toString n))
  | .delete name, .ok true => some (.removed name)
  | _, _ => none

end Entry

/-- A log has an entry of one kind and after it none of another kind. -/
def Since (kind ended : Entry → Prop) (log : List Entry) : Prop :=
  ∃ early entry late, log = early ++ entry :: late ∧ kind entry ∧ ∀ later ∈ late, ¬ended later

/-- An item of a list with one more item at its end is this last one or stood in the list. -/
theorem concat_eq_append_cons {α : Type} {list early late : List α} {last item : α}
    (h : list ++ [last] = early ++ item :: late) :
    (late = [] ∧ list = early ∧ last = item) ∨
      ∃ init, late = init ++ [last] ∧ list = early ++ item :: init := by
  rcases List.eq_nil_or_concat late with rfl | ⟨init, final, rfl⟩
  · obtain ⟨hlist, hlast⟩ := List.append_inj' h rfl
    exact .inl ⟨rfl, hlist, (List.cons.inj hlast).1⟩
  · rw [List.concat_eq_append, ← List.cons_append, ← List.append_assoc] at h
    obtain ⟨hlist, hlast⟩ := List.append_inj' h rfl
    exact .inr ⟨init, by rw [List.concat_eq_append, hlast], hlist⟩

theorem since_nil (kind ended : Entry → Prop) : ¬Since kind ended [] := by
  rintro ⟨early, entry, late, hlog, -⟩
  simp at hlog

theorem since_concat (kind ended : Entry → Prop) (log : List Entry) (last : Entry) :
    Since kind ended (log ++ [last]) ↔ kind last ∨ ¬ended last ∧ Since kind ended log := by
  constructor
  · rintro ⟨early, entry, late, hlog, hkind, hlate⟩
    rcases concat_eq_append_cons hlog with ⟨rfl, rfl, rfl⟩ | ⟨init, rfl, rfl⟩
    · exact .inl hkind
    · refine .inr ⟨hlate last (by simp), early, entry, init, rfl, hkind, fun later hlater => ?_⟩
      exact hlate later (List.mem_append_left [last] hlater)
  · rintro (hkind | ⟨hlast, early, entry, late, rfl, hkind, hlate⟩)
    · exact ⟨log, last, [], rfl, hkind, by simp⟩
    · refine ⟨early, entry, late ++ [last], by simp, hkind, fun later hlater => ?_⟩
      rcases List.mem_append.mp hlater with hlater | hlater
      · exact hlate later hlater
      · rwa [List.mem_singleton.mp hlater]

/-- Something was last written under a name when it was written there since the last removal. -/
theorem exists_last_written_iff (name : String) (log : List Entry) :
    (∃ value, Since (· = .written name value) (·.name = name) log) ↔
      Since (·.Writes name) (· = .removed name) log := by
  induction log using List.reverseRecOn with
  | nil => exact iff_of_false (fun ⟨_, h⟩ => since_nil _ _ h) (since_nil _ _)
  | append_singleton log last ih =>
    simp only [since_concat, exists_or, exists_and_left, ih]
    cases last with
    | written other value =>
      by_cases hname : other = name
      · subst hname
        simp [Entry.Writes]
      · simp [Entry.Writes, Entry.name, hname]
    | removed other => simp [Entry.Writes, Entry.name]

namespace Memory

/-! ## One request -/

/-- What a request does to a table, told by the entry that it makes. -/
inductive Logged (before : Memory) : Option Entry → Memory → Prop
  | idle : Logged before none before
  | written {name value : String} {id : RecordId} {after : Memory}
      (fits : overflow? name value = none) (written : Upserted before name value id after) :
      Logged before (some (.written name value)) after
  | removed {name : String} (held : name ∈ before.rows) :
      Logged before (some (.removed name)) { before with rows := before.rows.erase name }

variable {memory : Memory} {name value : String}

theorem logged_upsert (memory : Memory) (name value : String) :
    Logged memory (Entry.of? (.upsert name value) (memory.upsert name value).1)
      (memory.upsert name value).2 := by
  cases hover : overflow? name value with
  | some overflow =>
    rw [upsert_overflow hover]
    exact .idle
  | none =>
    obtain ⟨id, hid, hwritten⟩ := upsert_fits hover memory
    rw [hid]
    exact .written hover hwritten

theorem logged_delete (memory : Memory) (name : String) :
    Logged memory (Entry.of? (.delete name) (.ok (memory.delete name).1))
      (memory.delete name).2 := by
  rw [delete]
  split
  next held => exact .removed held
  next => exact .idle

/-- A number fits where a name without a value does. -/
theorem overflow?_count (h : overflow? name "" = none) (n : Int64) :
    overflow? name (toString n) = none := by
  obtain ⟨hpos, hname, -⟩ := (overflow?_eq_none_iff _ _).mp h
  have hcount := Text.utf8ByteSize_toString_int64 n
  exact (overflow?_eq_none_iff _ _).mpr ⟨hpos, hname, by omega⟩

/-- What a counter comes to when it is advanced: it is written as its new value, or the request
fails and changes nothing. -/
theorem increment_eq (memory : Memory) (name : String) :
    (∃ fault, memory.increment name = (.error fault, memory)) ∨
      ∃ n id, (memory.increment name).1 = .ok n ∧ overflow? name (toString n) = none ∧
        Upserted memory name (toString n) id (memory.increment name).2 := by
  rw [increment]
  split
  · exact .inl ⟨_, rfl⟩
  next hover =>
    split
    next hnone => exact .inr ⟨1, _, rfl, overflow?_count hover 1, upserted_create hnone "1"⟩
    next row hrow =>
      split
      next fault _ => exact .inl ⟨fault, rfl⟩
      split
      · exact .inl ⟨_, rfl⟩
      next next _ =>
        exact .inr ⟨next, _, rfl, overflow?_count hover next, upserted_overwrite hrow _⟩

theorem logged_increment (memory : Memory) (name : String) :
    Logged memory (Entry.of? (.increment name) (memory.increment name).1)
      (memory.increment name).2 := by
  rcases increment_eq memory name with ⟨fault, hfault⟩ | ⟨n, id, hn, hfits, hwritten⟩
  · rw [hfault]
    exact .idle
  · rw [hn]
    exact .written hfits hwritten

theorem logged_answer (memory : Memory) (request : Request) :
    Logged memory (Entry.of? request (memory.answer request).1) (memory.answer request).2 := by
  cases request with
  | loadRecords names => exact .idle
  | loadByName name => exact .idle
  | loadByPrefix namePrefix => exact .idle
  | loadById id => exact .idle
  | upsert name value => exact logged_upsert memory name value
  | delete name => exact logged_delete memory name
  | increment name => exact logged_increment memory name

/-- A request that fails changes nothing. -/
theorem answer_error {request : Request} {fault : StoreError}
    (h : (memory.answer request).1 = .error fault) : (memory.answer request).2 = memory := by
  cases request with
  | loadRecords names => rfl
  | loadByName name => rfl
  | loadByPrefix namePrefix => rfl
  | loadById id => rfl
  | upsert name value =>
    change (memory.upsert name value).1 = _ at h
    change (memory.upsert name value).2 = _
    cases hover : overflow? name value with
    | some overflow => rw [upsert_overflow hover]
    | none =>
      obtain ⟨id, hid, -⟩ := upsert_fits hover memory
      simp [hid] at h
  | delete name => simp [answer] at h
  | increment name =>
    change (memory.increment name).1 = _ at h
    change (memory.increment name).2 = _
    rcases increment_eq memory name with ⟨fault, hfault⟩ | ⟨n, id, hn, -⟩
    · rw [hfault]
    · simp [hn] at h

/-- A value that is there already is not written again. -/
theorem upsert_same {row : Row} (hrow : memory.rows[name]? = some row)
    (hfits : overflow? name row.value = none) :
    memory.upsert name row.value = (.ok row.id, memory) := by
  rw [upsert, hfits, hrow]
  simp

/-- A row that is there after a request was there before, under the same id, or the request has
created it and it has the next id. -/
theorem Effect.kept_or_created {after : Memory} (h : memory.Effect after) {now : Row}
    (hnow : after.rows[name]? = some now) :
    (∃ old, memory.rows[name]? = some old ∧ old.id = now.id) ∨
      (memory.rows[name]? = none ∧ now.id = memory.lastId + 1 ∧ creations memory after = 1) := by
  cases h with
  | unchanged => exact .inl ⟨now, hnow, rfl⟩
  | @created other value free =>
    rw [create_rows] at hnow
    split at hnow
    next hname =>
      obtain rfl := Option.some.inj hnow
      exact .inr ⟨hname ▸ free, rfl, creations_create free value⟩
    next => exact .inl ⟨now, hnow, rfl⟩
  | overwritten value held => exact .inl (overwrite_id held hnow)
  | erased held => exact .inl ⟨now, erase_id hnow, rfl⟩

/-! ## Many requests -/

/-- The table after requests that are answered one after the other. -/
def after (memory : Memory) (requests : List Request) : Memory :=
  requests.foldl (fun memory request => (memory.answer request).2) memory

/-- The number of rows that requests create. -/
def created (memory : Memory) : List Request → Nat
  | [] => 0
  | request :: requests =>
    creations memory (memory.answer request).2 + (memory.answer request).2.created requests

/-- The entries that requests make, in their order. -/
def log (memory : Memory) : List Request → List Entry
  | [] => []
  | request :: requests =>
    (Entry.of? request (memory.answer request).1).toList ++ (memory.answer request).2.log requests

variable {past later requests : List Request}

theorem after_append (memory : Memory) (past since : List Request) :
    memory.after (past ++ since) = (memory.after past).after since :=
  List.foldl_append

theorem after_concat (memory : Memory) (past : List Request) (request : Request) :
    memory.after (past ++ [request]) = ((memory.after past).answer request).2 := by
  rw [after_append]
  rfl

theorem created_append (memory : Memory) (past since : List Request) :
    memory.created (past ++ since) = memory.created past + (memory.after past).created since := by
  induction past generalizing memory with
  | nil => simp [created, after]
  | cons request past ih =>
    rw [List.cons_append, created, ih, created, Nat.add_assoc]
    rfl

theorem created_mono (memory : Memory) (h : past <+: requests) :
    memory.created past ≤ memory.created requests := by
  obtain ⟨since, rfl⟩ := h
  rw [created_append]
  omega

theorem created_le_length (memory : Memory) (requests : List Request) :
    memory.created requests ≤ requests.length := by
  induction requests generalizing memory with
  | nil => exact Nat.le_refl 0
  | cons request requests ih =>
    have hfirst := (memory.effect_answer request).creations_le_one
    have hrest := ih (memory.answer request).2
    rw [created, List.length_cons]
    omega

theorem log_append (memory : Memory) (past since : List Request) :
    memory.log (past ++ since) = memory.log past ++ (memory.after past).log since := by
  induction past generalizing memory with
  | nil => rfl
  | cons request past ih =>
    rw [List.cons_append, log, ih, log, List.append_assoc]
    rfl

theorem log_concat (memory : Memory) (past : List Request) (request : Request) :
    memory.log (past ++ [request]) =
      memory.log past ++ (Entry.of? request ((memory.after past).answer request).1).toList := by
  rw [log_append, log, log, List.append_nil]

theorem leads_after (memory : Memory) (requests : List Request) :
    memory.Leads (memory.created requests) (memory.after requests) := by
  induction requests generalizing memory with
  | nil => exact .refl memory
  | cons request requests ih => exact .step (memory.effect_answer request) (ih _)

theorem sound_after (h : empty.created requests < 2 ^ 63) :
    Sound (empty.created requests) (empty.after requests) := by
  have hbound : 0 + empty.created requests < 2 ^ 63 := by rwa [Nat.zero_add]
  have hsound := counted_sound.leads (empty.leads_after requests) sound_empty hbound
  rwa [Nat.zero_add] at hsound

theorem follows_after (h : empty.created later < 2 ^ 63) (hpast : past <+: later) :
    Follows (empty.after past) (empty.after later) := by
  obtain ⟨since, rfl⟩ := hpast
  rw [after_append]
  rw [created_append] at h
  exact ((empty.after past).leads_after since).follows (sound_after (by omega)) h

/-! ## What was last written -/

/-- One more request keeps it true that the table holds what was last written. -/
theorem Logged.last_written {before after : Memory} {entry : Option Entry} {log : List Entry}
    (h : Logged before entry after)
    (hlog : ∀ name value, before.rows[name]?.map Row.value = some value ↔
      Since (· = .written name value) (·.name = name) log) (name value : String) :
    after.rows[name]?.map Row.value = some value ↔
      Since (· = .written name value) (·.name = name) (log ++ entry.toList) := by
  cases h with
  | idle => simpa using hlog name value
  | @written other new id after fits written =>
    rw [Option.toList_some, since_concat, ← hlog]
    by_cases hname : other = name
    · subst hname
      obtain ⟨row, hrow, -, rfl⟩ := written.held
      simp [hrow, Entry.name]
    · simp [written.others name fun h => hname h.symm, Entry.name, hname]
  | @removed other held =>
    rw [Option.toList_some, since_concat, ← hlog, erase_rows]
    by_cases hname : other = name <;> simp [Entry.name, hname]

/-- A row has the value that was last written under its name. -/
theorem value_after (requests : List Request) (name value : String) :
    (empty.after requests).rows[name]?.map Row.value = some value ↔
      Since (· = .written name value) (·.name = name) (empty.log requests) := by
  induction requests using List.reverseRecOn generalizing name value with
  | nil =>
    refine iff_of_false ?_ (since_nil _ _)
    simp [after, empty]
  | append_singleton past request ih =>
    rw [after_concat, log_concat]
    exact (logged_answer _ request).last_written ih name value

/-- One more request keeps it true that names and values fit. -/
theorem Logged.fits {before after : Memory} {entry : Option Entry} (h : Logged before entry after)
    (hbefore : ∀ (name : String) (row : Row), before.rows[name]? = some row →
      overflow? name row.value = none) (name : String) (row : Row)
    (hrow : after.rows[name]? = some row) : overflow? name row.value = none := by
  cases h with
  | idle => exact hbefore name row hrow
  | @written other value id after fits written =>
    rcases written.row_cases hrow with ⟨rfl, -, rfl⟩ | ⟨-, hold⟩
    · exact fits
    · exact hbefore name row hold
  | removed held => exact hbefore name row (erase_id hrow)

/-- What was written did fit. -/
theorem fits_after (requests : List Request) (name : String) (row : Row)
    (hrow : (empty.after requests).rows[name]? = some row) : overflow? name row.value = none := by
  induction requests using List.reverseRecOn generalizing name row with
  | nil => simp [after, empty] at hrow
  | append_singleton past request ih =>
    rw [after_concat] at hrow
    exact (logged_answer _ request).fits ih name row hrow

/-! ## Ids -/

/-- After `past`, the first of the requests `since` created the row of `name` with an id above all
ids there had been. The row has kept this id since, and writes gave this id. -/
structure Created (past since : List Request) (name : String) (id : RecordId) : Prop where
  absent : (empty.after past).loadByName name = none
  larger : ∀ earlier, earlier <+: past → ∀ (other : String) (record : Record),
    (empty.after earlier).loadByName other = some record → record.id < id
  kept : ∀ now, now <+: since → now ≠ [] →
    ∃ record, (empty.after (past ++ now)).loadByName name = some record ∧ record.id = id
  given : ∀ now value reply, now ++ [.upsert name value] <+: since →
    ((empty.after (past ++ now)).upsert name value).1 = .ok reply → reply = id

/-- A write gives the id of the row that is there afterwards. -/
theorem upsert_reply {reply : RecordId} (h : (memory.upsert name value).1 = .ok reply) :
    ∃ row, (memory.upsert name value).2.rows[name]? = some row ∧ row.id = reply := by
  cases hover : overflow? name value with
  | some overflow => simp [upsert_overflow hover] at h
  | none =>
    obtain ⟨id, hid, hwritten⟩ := upsert_fits hover memory
    obtain ⟨row, hrow, hrowId, -⟩ := hwritten.held
    rw [hid] at h
    exact ⟨row, hrow, hrowId.trans (Except.ok.inj h)⟩

/-- The ids that writes gave are told by the rows. -/
theorem given_of_kept {since : List Request} {id : RecordId}
    (kept : ∀ now, now <+: since → now ≠ [] →
      ∃ record, (empty.after (past ++ now)).loadByName name = some record ∧ record.id = id)
    {now : List Request} {reply : RecordId} (hnow : now ++ [.upsert name value] <+: since)
    (hreply : ((empty.after (past ++ now)).upsert name value).1 = .ok reply) : reply = id := by
  obtain ⟨record, hrecord, hid⟩ := kept _ hnow (by simp)
  obtain ⟨row, hrow, rfl⟩ := upsert_reply hreply
  rw [← List.append_assoc, after_concat] at hrecord
  change ((empty.after (past ++ now)).upsert name value).2.loadByName name = _ at hrecord
  rw [loadByName, hrow] at hrecord
  rw [← hid, ← Option.some.inj hrecord, Row.record_id]

/-- A row that a request has just created. -/
theorem created_now {request : Request} {row : Row}
    (hbound : empty.created (past ++ [request]) < 2 ^ 63)
    (hrow : (empty.after (past ++ [request])).rows[name]? = some row)
    (hfree : (empty.after past).rows[name]? = none) (hid : row.id = (empty.after past).lastId + 1)
    (hone : creations (empty.after past) (empty.after (past ++ [request])) = 1) :
    Created past [request] name row.id := by
  have hkept : ∀ now, now <+: [request] → now ≠ [] →
      ∃ record, (empty.after (past ++ now)).loadByName name = some record ∧ record.id = row.id := by
    intro now hnow hne
    obtain rfl : now = [request] := by
      rcases List.prefix_cons_iff.mp hnow with rfl | ⟨rest, rfl, hrest⟩
      · exact absurd rfl hne
      · rw [List.prefix_nil.mp hrest]
    exact ⟨row.record name, loadByName_eq_some_iff.mpr ⟨row, hrow, rfl⟩, rfl⟩
  have hcount : empty.created (past ++ [request]) = empty.created past + 1 := by
    rw [after_concat] at hone
    rw [created_append, created, created, Nat.add_zero, hone]
  rw [hcount] at hbound
  refine ⟨?_, fun earlier hearlier other record hrecord => ?_, hkept, fun now value reply =>
    given_of_kept hkept⟩
  · rw [loadByName, hfree]
    rfl
  · obtain ⟨old, hold, rfl⟩ := loadByName_eq_some_iff.mp hrecord
    have hpast : empty.created past < 2 ^ 63 := by omega
    have hcountPast := created_mono empty hearlier
    have hgiven := ((sound_after (Nat.lt_of_le_of_lt hcountPast hpast)).given other old hold).2
    rw [hid, Int64.lt_iff_toInt_lt, toInt_next (sound_after hpast).last hbound, Row.record_id]
    omega

/-- A row that is still there after another request. -/
theorem Created.concat {since : List Request} {request : Request} {id : RecordId} {row : Row}
    (h : Created past since name id)
    (hrow : (empty.after (past ++ since ++ [request])).rows[name]? = some row)
    (hid : row.id = id) : Created past (since ++ [request]) name id := by
  have hkept : ∀ now, now <+: since ++ [request] → now ≠ [] →
      ∃ record, (empty.after (past ++ now)).loadByName name = some record ∧ record.id = id := by
    intro now hnow hne
    rcases List.prefix_concat_iff.mp hnow with rfl | hnow
    · rw [← List.append_assoc]
      exact ⟨row.record name, loadByName_eq_some_iff.mpr ⟨row, hrow, rfl⟩, hid⟩
    · exact h.kept now hnow hne
  exact ⟨h.absent, h.larger, hkept, fun now value reply => given_of_kept hkept⟩

/-- Each row was created at one moment of its history. -/
theorem exists_created (hbound : empty.created requests < 2 ^ 63) {row : Row}
    (hrow : (empty.after requests).rows[name]? = some row) :
    ∃ past since, requests = past ++ since ∧ since ≠ [] ∧ Created past since name row.id := by
  induction requests using List.reverseRecOn generalizing row with
  | nil => simp [after, empty] at hrow
  | append_singleton init request ih =>
    have hinit : empty.created init < 2 ^ 63 :=
      Nat.lt_of_le_of_lt (created_mono empty (List.prefix_append init [request])) hbound
    have heffect := effect_answer (empty.after init) request
    rw [← after_concat] at heffect
    rcases heffect.kept_or_created hrow with ⟨old, hold, hid⟩ | ⟨hfree, hid, hone⟩
    · obtain ⟨past, since, rfl, -, hcreated⟩ := ih hinit hold
      exact ⟨past, since ++ [request], List.append_assoc _ _ _, by simp,
        (hid ▸ hcreated).concat hrow rfl⟩
    · exact ⟨init, [request], rfl, by simp, created_now hbound hrow hfree hid hone⟩

/-- An id that stands at two moments stands under one name, also at each moment in between. -/
theorem id_stands {mid : List Request} (hbound : empty.created later < 2 ^ 63)
    (hpast : past <+: mid) (hmid : mid <+: later) {a b : String} {row now : Row}
    (hrow : (empty.after past).rows[a]? = some row)
    (hnow : (empty.after later).rows[b]? = some now) (hid : row.id = now.id) :
    a = b ∧ ∃ between, (empty.after mid).rows[a]? = some between ∧ between.id = row.id := by
  have hboundMid := Nat.lt_of_le_of_lt (created_mono empty hmid) hbound
  have hsound := sound_after (Nat.lt_of_le_of_lt (created_mono empty hpast) hboundMid)
  have hfirst := follows_after hboundMid hpast
  have hsecond := follows_after hbound hmid
  obtain rfl := (hfirst.trans hsecond).name_eq hsound hrow hnow hid
  refine ⟨rfl, ?_⟩
  rcases hsecond.kept a now hnow with ⟨between, hbetween, hbetweenId⟩ | hnew
  · exact ⟨between, hbetween, hbetweenId.trans hid.symm⟩
  · have hgiven := (hsound.given a row hrow).2
    have hlast := hsound.last
    have hgrown := hfirst.last
    rw [hid] at hgiven
    omega

/-! ## The whole history -/

/-- What a table keeps of the requests that it was given since it was empty. -/
structure KeepsHistory (requests : List Request) : Prop where
  /-- There is a record under a name if one was written since the last one was removed. -/
  present : ∀ name, ((empty.after requests).loadByName name).isSome = true ↔
    Since (·.Writes name) (· = .removed name) (empty.log requests)
  /-- Its value is what was last written there. -/
  value : ∀ (name : String) (record : Record),
    (empty.after requests).loadByName name = some record →
      Since (· = .written name record.value) (·.name = name) (empty.log requests)
  /-- Its id was new when it was created, and is the same since. -/
  created : ∀ (name : String) (record : Record),
    (empty.after requests).loadByName name = some record →
      ∃ past since, requests = past ++ since ∧ since ≠ [] ∧ Created past since name record.id
  /-- No id stands under two names, whether at one moment or at two, or stands again once its
  record was gone. -/
  stands : ∀ past mid later, past <+: mid → mid <+: later → later <+: requests →
    ∀ (a b : String) (record now : Record), (empty.after past).loadByName a = some record →
      (empty.after later).loadByName b = some now → record.id = now.id →
        a = b ∧ ∃ between, (empty.after mid).loadByName a = some between ∧ between.id = record.id
  /-- An id leads to the record that has it. -/
  byId : ∀ (id : RecordId) (record : Record), (empty.after requests).loadById id = .ok record ↔
    (empty.after requests).loadByName record.name = some record ∧ record.id = id
  /-- Names and values are within their bounds. -/
  bounded : ∀ (name : String) (record : Record),
    (empty.after requests).loadByName name = some record →
      1 ≤ name.utf8ByteSize ∧ name.utf8ByteSize ≤ 128 ∧ record.value.utf8ByteSize ≤ 16250
  /-- A request that fails changes nothing. -/
  failed : ∀ request fault, ((empty.after requests).answer request).1 = .error fault →
    ((empty.after requests).answer request).2 = empty.after requests
  /-- Neither does writing the value that is there already. -/
  rewritten : ∀ (name : String) (record : Record),
    (empty.after requests).loadByName name = some record →
      (empty.after requests).answer (.upsert name record.value) =
        (.ok record.id, empty.after requests)

/-- As long as ids are left, a table keeps its history. -/
theorem keeps_history (requests : List Request) (h : empty.created requests < 2 ^ 63) :
    KeepsHistory requests where
  present name := by
    rw [← exists_last_written_iff]
    simp only [← value_after]
    rw [← Option.isSome_iff_exists, loadByName, Option.isSome_map, Option.isSome_map]
  value name record hrecord := by
    obtain ⟨row, hrow, rfl⟩ := loadByName_eq_some_iff.mp hrecord
    rw [← value_after, hrow]
    rfl
  created name record hrecord := by
    obtain ⟨row, hrow, rfl⟩ := loadByName_eq_some_iff.mp hrecord
    exact exists_created h hrow
  stands past mid later hpast hmid hlater a b record now hrecord hnow hid := by
    obtain ⟨row, hrow, rfl⟩ := loadByName_eq_some_iff.mp hrecord
    obtain ⟨later, hlater, rfl⟩ := loadByName_eq_some_iff.mp hnow
    have hbound := Nat.lt_of_le_of_lt (created_mono empty ‹_ <+: requests›) h
    obtain ⟨rfl, between, hbetween, hbetweenId⟩ := id_stands hbound hpast hmid hrow hlater hid
    exact ⟨rfl, between.record a, loadByName_eq_some_iff.mpr ⟨between, hbetween, rfl⟩, hbetweenId⟩
  byId id record := (sound_after h).distinct.loadById_eq_ok_iff
  bounded name record hrecord := by
    obtain ⟨row, hrow, rfl⟩ := loadByName_eq_some_iff.mp hrecord
    exact (overflow?_eq_none_iff _ _).mp (fits_after requests name row hrow)
  failed request fault := answer_error
  rewritten name record hrecord := by
    obtain ⟨row, hrow, rfl⟩ := loadByName_eq_some_iff.mp hrecord
    exact upsert_same hrow (fits_after requests name row hrow)

/-- A counter that is removed, and of which another text is written afterwards. -/
theorem keeps_history_counter :
    KeepsHistory [.increment "a", .upsert "b" "7", .increment "b", .delete "a", .upsert "a" "x"] :=
  keeps_history _ (Nat.lt_of_le_of_lt (created_le_length _ _) (by decide))

end Memory

end PolicyStore
