import PolicyStore.Json.Printer
import PolicyStore.Json.Scan

/-!
# Spellings of JSON documents

A text spells a tree when it is made of the tokens of the tree with gaps between them. A character
of a string has several spellings: itself, a short escape, or the escapes of its UTF-16 units with
digits of either case. Numbers are kept in the tree as they are written and have one spelling.
Nothing here speaks of the readers.
-/

namespace PolicyStore.Json

/-- Nothing but characters that may stand between tokens. -/
def IsGap (s : List Char) : Prop := ∀ c ∈ s, isGap c = true

/-! ## Strings -/

/-- The digits for the last four bits of `n`, of either case. -/
def IsHexDigit (n : Nat) (c : Char) : Prop := c = Text.hexDigit n ∨ c = Text.upperHexDigit n

/-- The escape of a UTF-16 unit: a backslash, `u` and four digits. -/
inductive SpellsUnit (n : Nat) : List Char → Prop
  | digits {a b c d : Char} (ha : IsHexDigit (n / 4096) a) (hb : IsHexDigit (n / 256) b)
      (hc : IsHexDigit (n / 16) c) (hd : IsHexDigit n d) : SpellsUnit n ['\\', 'u', a, b, c, d]

/-- The letters and signs that may follow a backslash, each with the character it stands for. -/
def shortEscapes : List (Char × Char) :=
  [('"', '"'), ('\\', '\\'), ('/', '/'), ('b', '\x08'), ('f', '\x0c'), ('n', '\n'), ('r', '\r'),
    ('t', '\t')]

/-- The first unit of a character beyond the basic plane. -/
def highUnit (c : Char) : Nat := 0xD800 + (c.toNat - 0x10000) / 0x400

/-- The second unit of a character beyond the basic plane. -/
def lowUnit (c : Char) : Nat := 0xDC00 + (c.toNat - 0x10000) % 0x400

/-- The spellings of a character inside a string. -/
inductive SpellsChar (c : Char) : List Char → Prop
  | plain (printable : 0x20 ≤ c.toNat) (quote : c ≠ '"') (backslash : c ≠ '\\') : SpellsChar c [c]
  | short {letter : Char} (h : (letter, c) ∈ shortEscapes) : SpellsChar c ['\\', letter]
  | unit {s : List Char} (basic : c.toNat < 0x10000) (h : SpellsUnit c.toNat s) : SpellsChar c s
  | pair {s t : List Char} (beyond : 0x10000 ≤ c.toNat) (high : SpellsUnit (highUnit c) s)
      (low : SpellsUnit (lowUnit c) t) : SpellsChar c (s ++ t)

/-- The spellings of a run of characters, one after the other. -/
inductive SpellsChars : List Char → List Char → Prop
  | nil : SpellsChars [] []
  | cons {c : Char} {cs s t : List Char} (head : SpellsChar c s) (tail : SpellsChars cs t) :
      SpellsChars (c :: cs) (s ++ t)

/-- The spellings of a string, from quote to quote. -/
inductive SpellsText (text : String) : List Char → Prop
  | quoted {s : List Char} (h : SpellsChars text.toList s) : SpellsText text ('"' :: (s ++ ['"']))

/-! ## Numbers -/

/-- What may stand for an exponent. -/
structure Exponent.WellFormed (e : Exponent) : Prop where
  mark : e.mark = 'e' ∨ e.mark = 'E'
  sign : e.sign = none ∨ e.sign = some '+' ∨ e.sign = some '-'
  nonempty : e.digits ≠ []
  digits : ∀ c ∈ e.digits, c.isDigit = true

/-- What may stand for a number: no leading zero, digits only where digits belong. -/
structure Numeral.WellFormed (n : Numeral) : Prop where
  nonempty : n.whole ≠ []
  digits : ∀ c ∈ n.whole, c.isDigit = true
  leading : n.whole.head? = some '0' → n.whole = ['0']
  fraction : ∀ c ∈ n.fraction, c.isDigit = true
  exponent : ∀ e ∈ n.exponent, e.WellFormed

/-! ## Documents -/

mutual

/-- The spellings of a value, from its first character to its last one. -/
inductive Spells : Tree → List Char → Prop
  | null : Spells .null ['n', 'u', 'l', 'l']
  | flag (value : Bool) : Spells (.flag value) (flagChars value)
  | number {n : Numeral} (h : n.WellFormed) : Spells (.number n) n.chars
  | text {value : String} {s : List Char} (h : SpellsText value s) : Spells (.text value) s
  | emptyList {gap : List Char} (hg : IsGap gap) : Spells (.list []) ('[' :: (gap ++ [']']))
  | list {gap s t : List Char} {item : Tree} {items : List Tree} (hg : IsGap gap)
      (first : Spells item s) (others : SpellsItems items t) :
      Spells (.list (item :: items)) ('[' :: (gap ++ (s ++ t)))
  | emptyObject {gap : List Char} (hg : IsGap gap) : Spells (.object []) ('{' :: (gap ++ ['}']))
  | object {gap s t : List Char} {key : String} {value : Tree} {members : List (String × Tree)}
      (hg : IsGap gap) (first : SpellsMember key value s) (others : SpellsMembers members t) :
      Spells (.object ((key, value) :: members)) ('{' :: (gap ++ (s ++ t)))

/-- The spellings of the items of a list after the first one, to the closing bracket. -/
inductive SpellsItems : List Tree → List Char → Prop
  | nil {gap : List Char} (hg : IsGap gap) : SpellsItems [] (gap ++ [']'])
  | cons {before after s t : List Char} {item : Tree} {items : List Tree} (hb : IsGap before)
      (ha : IsGap after) (head : Spells item s) (tail : SpellsItems items t) :
      SpellsItems (item :: items) (before ++ ',' :: (after ++ (s ++ t)))

/-- The spellings of a member, from the quote of its key to the end of its value. -/
inductive SpellsMember : String → Tree → List Char → Prop
  | colon {before after k v : List Char} {key : String} {value : Tree} (hk : SpellsText key k)
      (hb : IsGap before) (ha : IsGap after) (hv : Spells value v) :
      SpellsMember key value (k ++ (before ++ ':' :: (after ++ v)))

/-- The spellings of the members of an object after the first one, to the closing brace. -/
inductive SpellsMembers : List (String × Tree) → List Char → Prop
  | nil {gap : List Char} (hg : IsGap gap) : SpellsMembers [] (gap ++ ['}'])
  | cons {before after s t : List Char} {key : String} {value : Tree}
      {members : List (String × Tree)} (hb : IsGap before) (ha : IsGap after)
      (head : SpellsMember key value s) (tail : SpellsMembers members t) :
      SpellsMembers ((key, value) :: members) (before ++ ',' :: (after ++ (s ++ t)))

end

/-- The spellings of a whole document: a value with gaps around it. -/
inductive SpellsDocument (tree : Tree) : List Char → Prop
  | spaced {before s after : List Char} (hb : IsGap before) (value : Spells tree s)
      (ha : IsGap after) : SpellsDocument tree (before ++ (s ++ after))

end PolicyStore.Json
