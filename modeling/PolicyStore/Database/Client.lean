import PolicyStore.Database.Reply
import PolicyStore.Interrupt

/-!
# A record store in a database

The client of a database turns requests into statements and replies into answers. What needs no
database is not sent to it: no records are asked for, a value does not fit, the client has been told
to stop, or its connections are closed. A statement that is never replied to ends with the deadline.
-/

namespace PolicyStore.Database

/-- A database as its clients see it: it is sent a statement, and replies. -/
abbrev Server (σ : Type) : Type := σ → Statement → σ × Reply

structure Client (σ : Type) where
  server : σ
  isOpen : Bool
  /-- The policy for every single statement. -/
  interrupt : Interrupt

namespace Client

variable {σ : Type}

def connected (server : σ) (interrupt : Interrupt) : Client σ := ⟨server, true, interrupt⟩

def close (client : Client σ) : Client σ := { client with isOpen := false }

/-- What a request is refused for before it is sent. -/
def refusal? (client : Client σ) (request : Request) : Option StoreError :=
  if client.interrupt.isGiven then some (.interrupted (operationName request) .cancelled)
  else if client.isOpen then none
  else some (failure request .poolClosed)

/-- The answer that is there without asking the database. -/
def known? : (request : Request) → Option (Answer request)
  | .loadRecords [] => some (.ok [])
  | .upsert name value => (overflow? name value).map fun overflow => .error (.boundExceeded overflow)
  | _ => none

def answered {request : Request} (client : Client σ) (answer : Answer request) :
    Exchange (Client σ) request :=
  ⟨0, client, some 0, answer⟩

/-- An exchange that only the client's own policy brings to an end. -/
def unanswered {request : Request} (client : Client σ) : Exchange (Client σ) request :=
  match client.interrupt.await none none with
  | .error (.stopped (.deadlineExceeded limit)) =>
    ⟨0, client, some limit.millis,
      .error (.interrupted (operationName request) (.deadlineExceeded limit))⟩
  | _ => ⟨0, client, none, .error (failure request .disconnected)⟩

def send (server : Server σ) (client : Client σ) (request : Request) :
    Exchange (Client σ) request :=
  let (state, reply) := server client.server (statement request)
  let client := { client with server := state }
  match reply with
  | .rows rows => client.answered (answerOf request rows)
  | .rejected state constraint message =>
    client.answered (.error (failure request
      (.rejected (rejectionOf state) state constraint message)))
  | .hangUp => client.answered (.error (failure request .disconnected))
  | .silence => client.unanswered

def records (server : Server σ) : RecordStore (Client σ) := fun client request =>
  match known? request with
  | some answer => client.answered answer
  | none =>
    match client.refusal? request with
    | some error => client.answered (.error error)
    | none => client.send server request

end Client

end PolicyStore.Database
