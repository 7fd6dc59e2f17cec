import PolicyStore.Digest.Blake3
import PolicyStore.Record
import PolicyStore.Text.Bytes
import PolicyStore.Text.Hex
import Std.Data.ExtTreeMap

/-!
# Fingerprints of values

A fingerprint is the digest of a record's value. Readers that poll keep the fingerprints of what they
have seen, by record id, and compare them with those of what is stored now.
-/

namespace PolicyStore

structure Fingerprint where
  bytes : List UInt8
  length_bytes : bytes.length = 32
  deriving DecidableEq

namespace Fingerprint

def ofBytes (bytes : List UInt8) : Fingerprint :=
  ⟨Digest.Blake3.hash bytes, Digest.Blake3.length_hash bytes⟩

def of (value : String) : Fingerprint := ofBytes (Text.utf8 value.toList)

def hex (fingerprint : Fingerprint) : String := String.ofList (Text.hex fingerprint.bytes)

/-- The first twelve digits, as listings show them. -/
def short (fingerprint : Fingerprint) : String :=
  String.ofList ((Text.hex fingerprint.bytes).take 12)

end Fingerprint

abbrev Fingerprints := Std.ExtTreeMap RecordId Fingerprint

/-- What changed between two sets of fingerprints, by id in ascending order. -/
structure FingerprintDiff where
  added : List RecordId
  changed : List RecordId
  removed : List RecordId
  unchanged : List RecordId
  deriving DecidableEq, Repr

namespace FingerprintDiff

def between (previous current : Fingerprints) : FingerprintDiff where
  added := current.keys.filter fun id => !previous.contains id
  changed := (current.toList.filter fun (id, digest) =>
    previous[id]?.any fun before => before != digest).map (·.1)
  removed := previous.keys.filter fun id => !current.contains id
  unchanged := (current.toList.filter fun (id, digest) => previous[id]? == some digest).map (·.1)

def isDirty (diff : FingerprintDiff) : Bool :=
  !(diff.added.isEmpty && diff.changed.isEmpty && diff.removed.isEmpty)

end FingerprintDiff

end PolicyStore
