import PolicyStore.Text.Hex
import PolicyStore.Text.Pieces

/-!
# Sets of characters written as ranges

A Unicode property is kept as the text of its ranges: hexadecimal code points in ascending order,
`first-last` or one alone, with a blank between ranges.
-/

namespace PolicyStore.Text

/-- A set of code points, as ranges with both ends included. -/
structure RangeTable where
  ranges : List (Nat × Nat)
  deriving Repr

namespace RangeTable

def entry (s : List Char) : Nat × Nat :=
  let first := s.takeWhile (· ≠ '-')
  let last := (s.dropWhile (· ≠ '-')).drop 1
  (hexNumber first, hexNumber (if last.isEmpty then first else last))

def ofLines (lines : List String) : RangeTable :=
  ⟨lines.flatMap fun line => (pieces ' ' line.toList).map entry⟩

def contains (table : RangeTable) (c : Char) : Bool :=
  table.ranges.any fun (first, last) => first ≤ c.toNat && c.toNat ≤ last

end RangeTable

end PolicyStore.Text
