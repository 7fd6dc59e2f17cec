import PolicyStore.Json.Numeral

/-!
# JSON documents as trees

What is written as JSON is first a tree. Numbers are kept as their tokens and members keep their
order, so a tree fixes its text up to blanks and the spelling of strings.
-/

namespace PolicyStore.Json

/-- A JSON document. -/
inductive Tree
  | null
  | flag (value : Bool)
  | number (numeral : Numeral)
  | text (value : String)
  | list (items : List Tree)
  | object (members : List (String × Tree))

namespace Tree

def ofNat (n : Nat) : Tree := .number (.ofNat n)

def ofInt64 (n : Int64) : Tree := .number (.ofInt n.toInt)

def ofStrings (items : List String) : Tree := .list (items.map .text)

end Tree

end PolicyStore.Json
