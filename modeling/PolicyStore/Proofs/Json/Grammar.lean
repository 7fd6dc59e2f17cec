import PolicyStore.Proofs.Json.Spelling

/-!
# The grammar of JSON texts

Which texts are JSON, whatever they stand for: a string may hold an escape of half a surrogate pair,
which stands for no character. Every spelling of a tree is such a text.
-/

namespace PolicyStore.Json.Grammar

/-! ## Strings -/

/-- A hexadecimal digit of either case. -/
def IsHex (c : Char) : Prop :=
  '0' ≤ c ∧ c ≤ '9' ∨ 'a' ≤ c ∧ c ≤ 'f' ∨ 'A' ≤ c ∧ c ≤ 'F'

/-- The letters and signs that may follow a backslash. -/
def escapeLetters : List Char := ['"', '\\', '/', 'b', 'f', 'n', 'r', 't']

/-- A character of a string, or an escape. -/
inductive Character : List Char → Prop
  | plain {c : Char} (printable : 0x20 ≤ c.toNat) (quote : c ≠ '"') (backslash : c ≠ '\\') :
    Character [c]
  | short {letter : Char} (h : letter ∈ escapeLetters) : Character ['\\', letter]
  | numeric {a b c d : Char} (ha : IsHex a) (hb : IsHex b) (hc : IsHex c)
    (hd : IsHex d) : Character ['\\', 'u', a, b, c, d]

/-- A run of characters. -/
inductive Characters : List Char → Prop
  | nil : Characters []
  | cons {s t : List Char} (head : Character s) (tail : Characters t) : Characters (s ++ t)

/-- A string, from quote to quote. -/
inductive Quoted : List Char → Prop
  | quoted {s : List Char} (h : Characters s) : Quoted ('"' :: (s ++ ['"']))

/-! ## Values -/

mutual

/-- A value, from its first character to its last one. -/
inductive Value : List Char → Prop
  | null : Value ['n', 'u', 'l', 'l']
  | flag (value : Bool) : Value (flagChars value)
  | number {n : Numeral} (h : n.WellFormed) : Value n.chars
  | quoted {s : List Char} (h : Quoted s) : Value s
  | emptyList {gap : List Char} (hg : IsGap gap) : Value ('[' :: (gap ++ [']']))
  | list {gap s t : List Char} (hg : IsGap gap) (first : Value s) (others : Items t) :
    Value ('[' :: (gap ++ (s ++ t)))
  | emptyObject {gap : List Char} (hg : IsGap gap) : Value ('{' :: (gap ++ ['}']))
  | object {gap s t : List Char} (hg : IsGap gap) (first : Member s) (others : Members t) :
    Value ('{' :: (gap ++ (s ++ t)))

/-- What follows an item of a list, to the closing bracket. -/
inductive Items : List Char → Prop
  | nil {gap : List Char} (hg : IsGap gap) : Items (gap ++ [']'])
  | cons {before after s t : List Char} (hb : IsGap before) (ha : IsGap after) (head : Value s)
    (tail : Items t) : Items (before ++ ',' :: (after ++ (s ++ t)))

/-- A member of an object, from the quote of its key to the end of its value. -/
inductive Member : List Char → Prop
  | colon {before after k v : List Char} (hk : Quoted k) (hb : IsGap before) (ha : IsGap after)
    (hv : Value v) : Member (k ++ (before ++ ':' :: (after ++ v)))

/-- What follows a member of an object, to the closing brace. -/
inductive Members : List Char → Prop
  | nil {gap : List Char} (hg : IsGap gap) : Members (gap ++ ['}'])
  | cons {before after s t : List Char} (hb : IsGap before) (ha : IsGap after) (head : Member s)
    (tail : Members t) : Members (before ++ ',' :: (after ++ (s ++ t)))

end

/-- A text that begins as a list or an object does. -/
def Bracketed (s : List Char) : Prop := s.head? = some '[' ∨ s.head? = some '{'

/-- A text that is an object or a list and nothing else but gaps around it. -/
inductive Document : List Char → Prop
  | spaced {before s after : List Char} (hb : IsGap before) (value : Value s)
    (bracketed : Bracketed s) (ha : IsGap after) : Document (before ++ (s ++ after))

/-! ## Spellings -/

theorem isHex_of_spelled : ∀ k < 16, IsHex (Nat.digitChar k) ∧
    IsHex (Nat.digitChar k).toUpper := by
  simp only [IsHex]
  decide

theorem IsHex.of_spelled {n : Nat} {c : Char} (h : Json.IsHexDigit n c) : IsHex c := by
  have hdigit := isHex_of_spelled (n % 16) (Nat.mod_lt n (by decide))
  rcases h with rfl | rfl
  · exact hdigit.1
  · exact hdigit.2

theorem Character.of_spelledUnit {n : Nat} {s : List Char} (h : SpellsUnit n s) : Character s := by
  cases h with
  | digits ha hb hc hd =>
    exact .numeric (.of_spelled ha) (.of_spelled hb) (.of_spelled hc) (.of_spelled hd)

theorem Characters.singleton {s : List Char} (h : Character s) : Characters s := by
  have hone := Characters.cons h .nil
  rwa [List.append_nil] at hone

theorem Characters.append {s t : List Char} (hs : Characters s) (ht : Characters t) :
    Characters (s ++ t) := by
  induction hs with
  | nil => exact ht
  | cons head _ ih =>
    rw [List.append_assoc]
    exact .cons head ih

theorem Characters.of_spelledChar {c : Char} {s : List Char} (h : SpellsChar c s) :
    Characters s := by
  cases h with
  | plain hp hq hb => exact .singleton (.plain hp hq hb)
  | short h =>
    have hletter : ∀ pair ∈ shortEscapes, pair.1 ∈ escapeLetters := by decide
    exact .singleton (.short (hletter _ h))
  | unit _ h => exact .singleton (.of_spelledUnit h)
  | pair _ high low => exact .cons (.of_spelledUnit high) (.singleton (.of_spelledUnit low))

theorem Characters.of_spelled {cs s : List Char} (h : SpellsChars cs s) : Characters s := by
  induction h with
  | nil => exact .nil
  | cons head _ ih => exact .append (.of_spelledChar head) ih

theorem Quoted.of_spelled {text : String} {s : List Char} (h : SpellsText text s) : Quoted s := by
  cases h with
  | quoted h => exact .quoted (.of_spelled h)

mutual

/-- Spellings are JSON. -/
theorem Value.of_spelled {t : Tree} {s : List Char} (h : Spells t s) : Value s := by
  match h with
  | .null => exact .null
  | .flag value => exact .flag value
  | .number hn => exact .number hn
  | .text ht => exact .quoted (.of_spelled ht)
  | .emptyList hg => exact .emptyList hg
  | .list hg first others => exact .list hg (.of_spelled first) (.of_spelled others)
  | .emptyObject hg => exact .emptyObject hg
  | .object hg first others => exact .object hg (.of_spelled first) (.of_spelled others)

theorem Items.of_spelled {items : List Tree} {s : List Char} (h : SpellsItems items s) :
    Items s := by
  match h with
  | .nil hg => exact .nil hg
  | .cons hb ha head tail => exact .cons hb ha (.of_spelled head) (.of_spelled tail)

theorem Member.of_spelled {key : String} {value : Tree} {s : List Char}
    (h : SpellsMember key value s) : Member s := by
  match h with
  | .colon hk hb ha hv => exact .colon (.of_spelled hk) hb ha (.of_spelled hv)

theorem Members.of_spelled {members : List (String × Tree)} {s : List Char}
    (h : SpellsMembers members s) : Members s := by
  match h with
  | .nil hg => exact .nil hg
  | .cons hb ha head tail => exact .cons hb ha (.of_spelled head) (.of_spelled tail)

end

end PolicyStore.Json.Grammar
