import PolicyStore.Text.Hex
import PolicyStore.Text.Pieces

/-!
# IPv4 addresses as host names

A host whose last label is a number is an IPv4 address of up to four numbers, each decimal, octal
after a `0` or hexadecimal after `0x`. The last number fills all the bytes that are left.
-/

namespace PolicyStore.Url.Ipv4

def digitValue? (radix : Nat) (c : Char) : Option Nat :=
  (Text.hexValue? c).filter (· < radix)

/-- The value of digits; no digits stand for zero. -/
def number? (radix : Nat) (digits : List Char) : Option Nat :=
  (digits.mapM (digitValue? radix)).map fun values => values.foldl (fun n d => n * radix + d) 0

def labelValue? : List Char → Option Nat
  | [] => none
  | '0' :: 'x' :: digits => number? 16 digits
  | '0' :: 'X' :: digits => number? 16 digits
  | '0' :: c :: digits => number? 8 (c :: digits)
  | digits => number? 10 digits

/-- The labels of a host without an empty last one. -/
def labels (host : List Char) : List (List Char) :=
  let all := Text.pieces '.' host
  if 1 < all.length ∧ all.getLast? = some [] then all.dropLast else all

def isAddress (host : List Char) : Bool :=
  match (labels host).getLast? with
  | none => false
  | some last => (!last.isEmpty && last.all Char.isDigit) || (labelValue? last).isSome

def parse? (host : List Char) : Option Nat := do
  let all := labels host
  guard (all.length ≤ 4)
  let numbers ← all.mapM labelValue?
  let last ← numbers.getLast?
  let leading := numbers.dropLast
  guard (last < Nat.pow 256 (4 - leading.length))
  guard (leading.all (· ≤ 255))
  return leading.foldl (fun n part => n * 256 + part) 0 * Nat.pow 256 (4 - leading.length) + last

def chars (address : Nat) : List Char :=
  let part (shift : Nat) := Nat.toDigits 10 (address / shift % 256)
  List.intercalate ['.'] [part 0x1000000, part 0x10000, part 0x100, part 1]

end PolicyStore.Url.Ipv4
