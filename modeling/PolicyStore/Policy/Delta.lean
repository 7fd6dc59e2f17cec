import PolicyStore.Policy.Snapshot

/-!
# Loading what changed in a domain

A reader that has the fingerprints of an earlier load is given only the policies whose values differ
from it. A record whose value has the fingerprint it had before is not decoded again.
-/

namespace PolicyStore

/-- What changed in a domain since an earlier load: policies that are new or differ, records that are
gone or no longer decode, and the fingerprints to poll with next. -/
structure Delta (domain : Domain) where
  changed : Std.ExtTreeMap RecordId (Policy domain)
  removed : List RecordId
  fingerprints : Fingerprints

namespace Delta

variable {domain : Domain}

/-- What polling finds of a record. -/
inductive Finding (domain : Domain)
  | same
  | changed (policy : Policy domain)
  | undecodable (reason : PolicyError)

/-- A record with the fingerprint of its value and what polling finds of it. -/
structure Polled (domain : Domain) where
  record : Record
  fingerprint : Fingerprint
  finding : Finding domain

def poll (domain : Domain) (previous : Fingerprints) (record : Record) : Polled domain :=
  let fingerprint := Fingerprint.of record.value
  if previous[record.id]? = some fingerprint then ⟨record, fingerprint, .same⟩
  else
    match Policy.ofRecord domain record with
    | .ok policy => ⟨record, fingerprint, .changed policy⟩
    | .error reason => ⟨record, fingerprint, .undecodable reason⟩

def addChanged (changed : Std.ExtTreeMap RecordId (Policy domain)) (polled : Polled domain) :
    Std.ExtTreeMap RecordId (Policy domain) :=
  match polled.finding with
  | .changed policy => changed.insert polled.record.id policy
  | _ => changed

/-- Adds the fingerprint of a record that decodes or did before. -/
def addFingerprint (fingerprints : Fingerprints) (polled : Polled domain) : Fingerprints :=
  match polled.finding with
  | .undecodable _ => fingerprints
  | _ => fingerprints.insert polled.record.id polled.fingerprint

/-- What is reported of a record that does not decode. -/
def skipped? (polled : Polled domain) : Option Skipped :=
  match polled.finding with
  | .undecodable reason => some ⟨domain, polled.record.id, polled.record.name, reason⟩
  | _ => none

/-- Compares records with an earlier load; gives the delta and the records skipped, in order. -/
def decode (domain : Domain) (records : List Record) (previous : Fingerprints) :
    Delta domain × List Skipped :=
  let polled := records.map (poll domain previous)
  let fingerprints := polled.foldl addFingerprint ∅
  (⟨polled.foldl addChanged ∅, previous.keys.filter fun id => !fingerprints.contains id,
      fingerprints⟩,
    polled.filterMap skipped?)

def isUnchanged (delta : Delta domain) : Bool :=
  delta.changed.isEmpty && delta.removed.isEmpty

end Delta

end PolicyStore
