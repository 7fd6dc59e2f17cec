import PolicyStore.Database.Script
import PolicyStore.Proofs.RecordStore.Writing

/-!
# Writes that do not fit

A write that does not fit is refused, with the first column that does not take it, before it has any
effect: a table in memory stays as it is, and a client sends nothing to its database. Only the
counters of a database are not looked at by the client: each advance is sent, whatever the name, and
what comes of it is for the database to say.
-/

namespace PolicyStore

/-- The first column that does not take a value under a name, with the bytes that it would need. -/
inductive Overflows (name value : String) : Overflow → Prop
  | name (h : name.utf8ByteSize = 0 ∨ 128 < name.utf8ByteSize) :
      Overflows name value ⟨"name", 128, name.utf8ByteSize⟩
  | value (hpos : 0 < name.utf8ByteSize) (hname : name.utf8ByteSize ≤ 128)
      (h : 16250 < value.utf8ByteSize) :
      Overflows name value ⟨"value", 16250, value.utf8ByteSize⟩

variable {name value : String} {overflow : Overflow}

theorem overflow?_eq_some_iff :
    overflow? name value = some overflow ↔ Overflows name value overflow := by
  constructor
  · intro h
    rw [overflow?, maxNameBytes, maxValueBytes] at h
    split at h
    next hname =>
      obtain rfl := Option.some.inj h
      exact .name hname
    next hname =>
      split at h
      next hvalue =>
        obtain rfl := Option.some.inj h
        exact .value (by omega) (by omega) hvalue
      next => cases h
  · intro h
    cases h with
    | name h => exact if_pos h
    | value hpos hname h =>
      have hfits : ¬(name.utf8ByteSize = 0 ∨ 128 < name.utf8ByteSize) := by omega
      exact (if_neg hfits).trans (if_pos h)

theorem Memory.increment_overflow (h : overflow? name "" = some overflow) (memory : Memory) :
    memory.increment name = (.error (.boundExceeded overflow), memory) := by
  rw [increment, h]

namespace Database

variable {σ : Type}

/-- The same database, which also keeps the statements that it is sent. -/
def Server.keeping (server : Server σ) : Server (σ × List Statement) := fun (state, sent) statement =>
  let (state, reply) := server state statement
  ((state, sent ++ [statement]), reply)

namespace Client

/-- The same client of the database that keeps what it is sent, which has not been sent anything. -/
def kept (client : Client σ) : Client (σ × List Statement) :=
  ⟨(client.server, []), client.isOpen, client.interrupt⟩

/-- What a client sends for a request. -/
def sent (server : Server σ) (client : Client σ) (request : Request) : List Statement :=
  (records server.keeping client.kept request).state.server.2

theorem records_known {request : Request} {answer : Answer request} (h : known? request = some answer)
    (server : Server σ) (client : Client σ) :
    records server client request = client.answered answer := by
  rw [records, h]

theorem records_unknown {request : Request} (h : known? request = none) (server : Server σ)
    (client : Client σ) :
    records server client request =
      match client.refusal? request with
      | some error => client.answered (.error error)
      | none => client.send server request := by
  cases hrefusal : client.refusal? request with
  | some error => simp only [records, h, hrefusal]
  | none => simp only [records, h, hrefusal]

theorem sent_known {request : Request} {answer : Answer request} (h : known? request = some answer)
    (server : Server σ) (client : Client σ) : sent server client request = [] := by
  rw [sent, records_known h]
  rfl

theorem send_server (server : Server σ) (client : Client σ) (request : Request) :
    (client.send server request).state.server = (server client.server (statement request)).1 := by
  rw [send]
  dsimp only
  split
  · rfl
  · rfl
  · rfl
  · rw [unanswered]
    split <;> rfl

/-- A client that is neither stopped nor closed sends what it does not know. -/
theorem sent_unknown {request : Request} (h : known? request = none) (server : Server σ)
    {client : Client σ} (hopen : client.refusal? request = none) :
    sent server client request = [statement request] := by
  have hkept : client.kept.refusal? request = none := hopen
  rw [sent, records_unknown h, hkept]
  dsimp only
  rw [send_server]
  rfl

theorem known?_upsert (h : overflow? name value = some overflow) :
    known? (.upsert name value) = some (.error (.boundExceeded overflow)) := by
  rw [known?, h]
  rfl

/-! ## Counters of a database -/

theorem failure_ne_boundExceeded (request : Request) (fault : DatabaseFault) (overflow : Overflow) :
    failure request fault ≠ .boundExceeded overflow := by
  have hofFault : ∀ operation fault, StoreError.ofFault operation fault ≠ .boundExceeded overflow := by
    intro operation fault
    rw [StoreError.ofFault]
    split <;> nofun
  unfold failure
  split
  · split
    · nofun
    split
    · nofun
    · exact hofFault _ _
  · exact hofFault _ _

theorem answerOf_increment_ne (name : String) (rows : List Database.Row) (overflow : Overflow) :
    answerOf (.increment name) rows ≠ .error (.boundExceeded overflow) := by
  rw [answerOf, decode]
  cases scalar Cell.int64? rows with
  | ok n => nofun
  | error fault => exact fun h => failure_ne_boundExceeded _ _ _ (Except.error.inj h)

theorem unanswered_ne_boundExceeded (client : Client σ) (request : Request) (overflow : Overflow) :
    (client.unanswered : Exchange (Client σ) request).answer ≠ .error (.boundExceeded overflow) := by
  rw [unanswered]
  split
  · nofun
  · exact fun h => failure_ne_boundExceeded _ _ _ (Except.error.inj h)

/-- Whatever a database replies, an advance of its counter is not refused for its bounds. -/
theorem increment_ne_boundExceeded (server : Server σ) (client : Client σ) (name : String)
    (overflow : Overflow) :
    (records server client (.increment name)).answer ≠ .error (.boundExceeded overflow) := by
  have hfailed : ∀ fault, (.error (failure (.increment name) fault) : Answer (.increment name)) ≠
      .error (.boundExceeded overflow) :=
    fun fault h => failure_ne_boundExceeded _ fault _ (Except.error.inj h)
  rw [records_unknown rfl, refusal?]
  by_cases hgiven : client.interrupt.isGiven = true
  · rw [if_pos hgiven]
    nofun
  rw [if_neg hgiven]
  by_cases hopen : client.isOpen = true
  · rw [if_pos hopen, send]
    dsimp only
    split
    · exact answerOf_increment_ne name _ overflow
    · exact hfailed _
    · exact hfailed _
    · exact unanswered_ne_boundExceeded _ _ overflow
  · rw [if_neg hopen]
    exact hfailed .poolClosed

/-! ## All writes -/

/-- A table in memory refuses a write for its bounds and stays as it is. -/
def RefusedInMemory (request : Request) (overflow : Overflow) : Prop :=
  ∀ memory : Memory, memory.answer request = (.error (.boundExceeded overflow), memory)

/-- A client refuses a write for its bounds, stays as it is and sends nothing, whatever the database
and whether or not the client has been stopped or closed. -/
def RefusedByClient (request : Request) (overflow : Overflow) : Prop :=
  ∀ {σ : Type} (server : Server σ) (client : Client σ),
    records server client request = client.answered (.error (.boundExceeded overflow)) ∧
      sent server client request = []

/-- Writes that do not fit are refused before they have an effect, in memory and by the client of a
database. The exception is the counter of a database: a client sends each advance, and never refuses
one for the bounds of its name. -/
theorem overflowing_writes (name value : String) (overflow : Overflow) :
    (Overflows name value overflow →
      RefusedInMemory (.upsert name value) overflow ∧
        RefusedByClient (.upsert name value) overflow) ∧
    (Overflows name "" overflow → RefusedInMemory (.increment name) overflow) ∧
    ∀ {σ : Type} (server : Server σ) (client : Client σ),
      (records server client (.increment name)).answer ≠ .error (.boundExceeded overflow) ∧
      (client.refusal? (.increment name) = none →
        sent server client (.increment name) = [statement (.increment name)]) := by
  refine ⟨fun h => ?_, fun h memory => ?_, fun server client => ?_⟩
  · have hoverflow := overflow?_eq_some_iff.mpr h
    refine ⟨fun memory => Memory.upsert_overflow hoverflow memory, fun server client => ?_⟩
    have hknown := known?_upsert hoverflow
    exact ⟨records_known hknown server client, sent_known hknown server client⟩
  · exact Memory.increment_overflow (overflow?_eq_some_iff.mpr h) memory
  · exact ⟨increment_ne_boundExceeded server client name overflow,
      sent_unknown rfl server⟩

/-- A name that has few enough characters but too many bytes. -/
def wideName : String := String.ofList (List.replicate 65 'é')

theorem overflowing_writes_wide :
    RefusedInMemory (.upsert wideName "") ⟨"name", 128, 130⟩ ∧
      RefusedByClient (.upsert wideName "") ⟨"name", 128, 130⟩ ∧
      RefusedInMemory (.increment wideName) ⟨"name", 128, 130⟩ ∧
      ∀ replies, sent Script.server ((Script.ofReplies replies).client none)
        (.increment wideName) = [statement (.increment wideName)] := by
  have hoverflows : Overflows wideName "" ⟨"name", 128, 130⟩ := by
    have hsize : wideName.utf8ByteSize = 130 := by decide +kernel
    rw [← hsize]
    exact .name (by omega)
  obtain ⟨hupsert, hincrement, hclient⟩ := overflowing_writes wideName "" ⟨"name", 128, 130⟩
  refine ⟨(hupsert hoverflows).1, (hupsert hoverflows).2, hincrement hoverflows, fun replies => ?_⟩
  exact (hclient Script.server _).2 rfl

/-- A counter without a name is advanced by the database, which is sent the statement, although no
record can have this name. -/
theorem nameless_counter_advanced :
    Overflows "" "" ⟨"name", 128, 0⟩ ∧
      (records Script.server ((Script.ofReplies [.rows [[.integer 1]]]).client none)
        (.increment "")).answer = .ok 1 ∧
      sent Script.server ((Script.ofReplies [.rows [[.integer 1]]]).client none) (.increment "") =
        [statement (.increment "")] :=
  ⟨.name (by decide), rfl, rfl⟩

end Client

end Database

end PolicyStore
