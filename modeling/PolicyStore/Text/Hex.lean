/-!
# Hexadecimal text

Digests are shown as two lower-case hexadecimal digits a byte, the high half first. Escapes and
addresses are read from digits of either case.
-/

namespace PolicyStore.Text

def hexDigit (n : Nat) : Char :=
  Nat.digitChar (n % 16)

/-- The upper-case digit of a value below sixteen, as percent-encoding writes it. -/
def upperHexDigit (n : Nat) : Char :=
  (hexDigit n).toUpper

/-- Two lower-case digits a byte. -/
def hex (bytes : List UInt8) : List Char :=
  bytes.flatMap fun b => [hexDigit (b.toNat / 16), hexDigit b.toNat]

def hexValue? (c : Char) : Option Nat :=
  if c.isDigit then some (c.toNat - '0'.toNat)
  else if 'a' ≤ c ∧ c ≤ 'f' then some (c.toNat - 'a'.toNat + 10)
  else if 'A' ≤ c ∧ c ≤ 'F' then some (c.toNat - 'A'.toNat + 10)
  else none

/-- The value of a run of hexadecimal digits; other characters count nothing. -/
def hexNumber (s : List Char) : Nat :=
  s.foldl (fun n c => n * 16 + (hexValue? c).getD 0) 0

end PolicyStore.Text
