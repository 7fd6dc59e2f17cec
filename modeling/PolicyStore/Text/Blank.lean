/-!
# Blank characters and trimming

A character is blank when it has the Unicode property `White_Space`. Counters, numeric settings and
log formats are read after trimming blanks from both ends, and a list entry or rule key that holds
nothing but blanks counts as empty.
-/

namespace PolicyStore.Text

/-- The `White_Space` property, as its ranges stand in the Unicode character database. -/
def isBlank (c : Char) : Bool :=
  (0x09 ≤ c.toNat && c.toNat ≤ 0x0D) || c.toNat == 0x20 || c.toNat == 0x85 || c.toNat == 0xA0 ||
    c.toNat == 0x1680 || (0x2000 ≤ c.toNat && c.toNat ≤ 0x200A) || c.toNat == 0x2028 ||
    c.toNat == 0x2029 || c.toNat == 0x202F || c.toNat == 0x205F || c.toNat == 0x3000

def trim (s : List Char) : List Char :=
  ((s.dropWhile isBlank).reverse.dropWhile isBlank).reverse

/-- A text that holds no character other than blanks; trimming leaves nothing of it. -/
def isBlankText (s : String) : Bool :=
  s.toList.all isBlank

end PolicyStore.Text
