import PolicyStore.Record
import PolicyStore.StoreError

/-!
# Requests to a record store

A record store answers requests one at a time. It may take a while until a request takes effect, and
again until the answer is there, and an answer may never come; an exchange tells all of this.
-/

namespace PolicyStore

inductive Request
  /-- The records of the given names; names without a record are left out. -/
  | loadRecords (names : List String)
  | loadByName (name : String)
  /-- The records whose names start with a text, in the order of their ids. -/
  | loadByPrefix (namePrefix : String)
  | loadById (id : RecordId)
  /-- Writes a value under a name; gives the id of the record. -/
  | upsert (name value : String)
  /-- Removes the record of a name; tells whether there was one. -/
  | delete (name : String)
  /-- Adds one to a counter; gives its new value, which is one for a counter not there before. -/
  | increment (name : String)
  deriving DecidableEq, Repr

abbrev Request.Reply : Request → Type
  | .loadRecords _ => List Record
  | .loadByName _ => Option Record
  | .loadByPrefix _ => List Record
  | .loadById _ => Record
  | .upsert _ _ => RecordId
  | .delete _ => Bool
  | .increment _ => Int64

abbrev Answer (request : Request) : Type := Except StoreError request.Reply

/-- A request from its start to its answer. Times are in milliseconds. -/
structure Exchange (σ : Type) (request : Request) where
  /-- How long it takes until the request takes effect. -/
  lead : Nat
  /-- The state of the store once it does. -/
  state : σ
  /-- How long it takes from then until the answer is there; `none` when it never comes. -/
  lag : Option Nat
  answer : Answer request

abbrev RecordStore (σ : Type) : Type := σ → (request : Request) → Exchange σ request

end PolicyStore
