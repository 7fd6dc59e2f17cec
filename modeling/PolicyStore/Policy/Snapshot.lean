import PolicyStore.Fingerprint
import PolicyStore.Policy.Basic

/-!
# Loading a whole domain

A snapshot holds the policies of the records that decode, with the fingerprints of their values. The
records that do not decode are skipped, each with its reason, and hide nothing else.
-/

namespace PolicyStore

/-- A record that was left out of a load. -/
structure Skipped where
  domain : Domain
  id : RecordId
  name : String
  reason : PolicyError
  deriving DecidableEq, Repr

/-- The policies of a domain by record id, with the fingerprints of their values. -/
structure Snapshot (domain : Domain) where
  items : Std.ExtTreeMap RecordId (Policy domain)
  fingerprints : Fingerprints

namespace Snapshot

variable {domain : Domain}

def empty : Snapshot domain := ⟨∅, ∅⟩

/-- A record together with what it decodes to. -/
abbrev Decoded (domain : Domain) := Record × Except PolicyError (Policy domain)

def add (snapshot : Snapshot domain) : Decoded domain → Snapshot domain
  | (record, .ok policy) =>
    ⟨snapshot.items.insert record.id policy,
      snapshot.fingerprints.insert record.id (.of record.value)⟩
  | (_, .error _) => snapshot

/-- What is reported of a record that does not decode. -/
def skipped? : Decoded domain → Option Skipped
  | (_, .ok _) => none
  | (record, .error reason) => some ⟨domain, record.id, record.name, reason⟩

/-- Decodes records; gives the snapshot and the records skipped, in order. -/
def decode (domain : Domain) (records : List Record) : Snapshot domain × List Skipped :=
  let decoded := records.map fun record => (record, Policy.ofRecord domain record)
  (decoded.foldl add empty, decoded.filterMap skipped?)

def size (snapshot : Snapshot domain) : Nat := snapshot.items.size

def isEmpty (snapshot : Snapshot domain) : Bool := snapshot.items.isEmpty

/-- The first policy of a name, by record id. -/
def byName? (snapshot : Snapshot domain) (name : String) : Option (Policy domain) :=
  snapshot.items.values.find? fun policy => policy.name == name

end Snapshot

end PolicyStore
