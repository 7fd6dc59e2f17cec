/-!
# Reading bounded decimal numbers

Numbers in stored counters and in settings are an optional sign and decimal digits. They are read
from left to right; the first character that is no digit, or that takes the value past the bound,
decides why the text is refused.
-/

namespace PolicyStore.Text

inductive NumeralFault
  /-- Something other than a sign and digits was met first. -/
  | malformed
  /-- The digits read so far already exceed the bound. -/
  | outOfRange
  deriving DecidableEq, Repr

def digitValue? (c : Char) : Option Nat :=
  if c.isDigit then some (c.toNat - '0'.toNat) else none

/-- Reads digits after those that make up `value`, keeping the total at most `bound`. -/
def readDigits (bound value : Nat) : List Char → Except NumeralFault Nat
  | [] => .ok value
  | c :: rest =>
    match digitValue? c with
    | none => .error .malformed
    | some digit =>
      if value * 10 + digit ≤ bound then readDigits bound (value * 10 + digit) rest
      else .error .outOfRange

def readMagnitude (bound : Nat) : List Char → Except NumeralFault Nat
  | [] => .error .malformed
  | digits => readDigits bound 0 digits

/-- Reads a number without a minus sign that is at most `bound`. -/
def readNat (bound : Nat) : List Char → Except NumeralFault Nat
  | '+' :: digits => readMagnitude bound digits
  | digits => readMagnitude bound digits

def readInt64 : List Char → Except NumeralFault Int64
  | '+' :: digits => (readMagnitude (Int64.size / 2 - 1) digits).map Int64.ofNat
  | '-' :: digits => (readMagnitude (Int64.size / 2) digits).map fun n => Int64.ofInt (-n)
  | digits => (readMagnitude (Int64.size / 2 - 1) digits).map Int64.ofNat

end PolicyStore.Text
