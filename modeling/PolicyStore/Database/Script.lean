import PolicyStore.Database.Client
import PolicyStore.Database.Migration
import PolicyStore.Service
import PolicyStore.Settings

/-!
# Scripted databases

A scripted database holds no data: it gives prepared replies in their order and keeps what it was
sent. Its clients are connected to it as to any other: it may refuse the connection, and its schema
is brought up to date first.
-/

namespace PolicyStore.Database

structure Script where
  replies : List Reply
  /-- The statements received, the last one first. -/
  received : List Statement
  deriving DecidableEq, Repr

namespace Script

def ofReplies (replies : List Reply) : Script := ⟨replies, []⟩

def statements (script : Script) : List Statement := script.received.reverse

/-- Gives the next reply; after the last one the connection is closed. -/
def server : Server Script := fun script statement =>
  let received := statement :: script.received
  match script.replies with
  | [] => (⟨[], received⟩, .hangUp)
  | reply :: replies => (⟨replies, received⟩, reply)

end Script

/-- How a database receives those who connect to it. -/
structure Reception where
  refusal : Option DatabaseFault
  applied : List AppliedMigration
  migrationRefusal : Option DatabaseFault
  deriving DecidableEq, Repr

namespace Reception

/-- Connects to a database that receives like this; also tells the migrations that it was sent. -/
def welcome (reception : Reception) : Except StoreError Unit × List Nat :=
  match reception.refusal with
  | some fault => (.error (.connectFailed fault), [])
  | none =>
    let (result, sent) := migrate reception.applied fun _ => reception.migrationRefusal
    (result.mapError .migrationFailed, sent)

end Reception

namespace Script

/-- The client of a scripted database, with the deadline of the settings for every statement. -/
def client (script : Script) (deadlineMs : Option UInt64) : Client Script :=
  .connected script ⟨none, deadlineMs.map fun limit => .ofMillis limit.toNat⟩

def connect (script : Script) (reception : Reception) (settings : Settings) :
    Except StoreError (Connection (Client Script)) :=
  reception.welcome.1.map fun () =>
    ⟨Client.records server, script.client settings.statementDeadlineMs⟩

end Script

end PolicyStore.Database
