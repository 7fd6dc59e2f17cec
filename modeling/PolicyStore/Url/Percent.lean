import PolicyStore.Text.Bytes
import PolicyStore.Text.Hex

/-!
# Percent-encoding

Each part of a URL has a set of ASCII characters that it writes as `%` and two digits a byte;
characters beyond ASCII are written so everywhere.
-/

namespace PolicyStore.Url.Percent

/-- Controls, which no part of a URL holds. -/
def controls (c : Char) : Bool := c.toNat < 0x20 || c.toNat == 0x7F

/-- What a query encodes. -/
def query (c : Char) : Bool := controls c || " \"#<>".toList.contains c

def specialQuery (c : Char) : Bool := query c || c == '\''

def fragment (c : Char) : Bool := controls c || " \"<>`".toList.contains c

def path (c : Char) : Bool := fragment c || "#?\x7b\x7d".toList.contains c

def credentials (c : Char) : Bool := path c || "/:;=@[\\]^|".toList.contains c

def byte (b : UInt8) : List Char :=
  ['%', Text.upperHexDigit (b.toNat / 16), Text.upperHexDigit b.toNat]

/-- Encodes the characters of a set and those beyond ASCII. -/
def encode (set : Char → Bool) (s : List Char) : List Char :=
  s.flatMap fun c =>
    if 0x80 ≤ c.toNat || set c then (String.utf8EncodeChar c).flatMap byte else [c]

/-- The bytes of a text with encoded ones decoded; a `%` without two digits stands for itself. -/
def decode : List Char → List UInt8
  | '%' :: a :: b :: rest =>
    match Text.hexValue? a, Text.hexValue? b with
    | some high, some low => UInt8.ofNat (high * 16 + low) :: decode rest
    | _, _ => String.utf8EncodeChar '%' ++ decode (a :: b :: rest)
  | c :: rest => String.utf8EncodeChar c ++ decode rest
  | [] => []

end PolicyStore.Url.Percent
