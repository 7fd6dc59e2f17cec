/-!
# Lengths of time

Deadlines are given in whole milliseconds, rule intervals too; a length of time is kept in
nanoseconds so that it can also be shown in seconds and a remainder.
-/

namespace PolicyStore

structure Duration where
  nanos : Nat
  deriving DecidableEq, Repr

namespace Duration

def ofMillis (n : Nat) : Duration := ⟨n * 1000000⟩

def ofMicros (n : Nat) : Duration := ⟨n * 1000⟩

/-- The whole milliseconds in a length; a remainder is dropped. -/
def millis (d : Duration) : Nat := d.nanos / 1000000

def seconds (d : Duration) : Nat := d.nanos / 1000000000

def subsecondNanos (d : Duration) : Nat := d.nanos % 1000000000

end Duration

end PolicyStore
