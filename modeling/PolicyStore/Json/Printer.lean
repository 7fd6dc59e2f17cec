import PolicyStore.Json.Tree
import PolicyStore.Text.Hex

/-!
# Writing JSON

Payloads are written without any blanks. Reports are written with one item a line, indented by two
spaces a level. Strings are written the same way in both: quotes, backslashes and control characters
are escaped, everything else stands for itself.
-/

namespace PolicyStore.Json

def escapeChar (c : Char) : List Char :=
  if c = '"' then ['\\', '"']
  else if c = '\\' then ['\\', '\\']
  else if c = '\x08' then ['\\', 'b']
  else if c = '\x0c' then ['\\', 'f']
  else if c = '\n' then ['\\', 'n']
  else if c = '\r' then ['\\', 'r']
  else if c = '\t' then ['\\', 't']
  else if c.toNat < 0x20 then
    ['\\', 'u', '0', '0', Text.hexDigit (c.toNat / 16), Text.hexDigit c.toNat]
  else [c]

def textChars (s : String) : List Char :=
  '"' :: (s.toList.flatMap escapeChar ++ ['"'])

def flagChars : Bool → List Char
  | true => ['t', 'r', 'u', 'e']
  | false => ['f', 'a', 'l', 's', 'e']

namespace Tree

mutual

def compactChars : Tree → List Char
  | .null => ['n', 'u', 'l', 'l']
  | .flag value => flagChars value
  | .number numeral => numeral.chars
  | .text value => textChars value
  | .list [] => ['[', ']']
  | .list (item :: items) => '[' :: (item.compactChars ++ compactItems items)
  | .object [] => ['{', '}']
  | .object ((key, value) :: members) =>
    '{' :: (textChars key ++ ':' :: (value.compactChars ++ compactMembers members))

/-- The items of a list after the first one, and its end. -/
def compactItems : List Tree → List Char
  | [] => [']']
  | item :: items => ',' :: (item.compactChars ++ compactItems items)

/-- The members of an object after the first one, and its end. -/
def compactMembers : List (String × Tree) → List Char
  | [] => ['}']
  | (key, value) :: members =>
    ',' :: (textChars key ++ ':' :: (value.compactChars ++ compactMembers members))

end

def lineStart (level : Nat) : List Char :=
  '\n' :: List.replicate (2 * level) ' '

mutual

/-- The document with one item a line; `level` is how deep it stands. -/
def indentedChars (level : Nat) : Tree → List Char
  | .null => ['n', 'u', 'l', 'l']
  | .flag value => flagChars value
  | .number numeral => numeral.chars
  | .text value => textChars value
  | .list [] => ['[', ']']
  | .list (item :: items) =>
    '[' :: (lineStart (level + 1) ++ item.indentedChars (level + 1) ++ indentedItems level items)
  | .object [] => ['{', '}']
  | .object ((key, value) :: members) =>
    '{' :: (lineStart (level + 1) ++ textChars key ++ ':' :: ' ' ::
      (value.indentedChars (level + 1) ++ indentedMembers level members))

def indentedItems (level : Nat) : List Tree → List Char
  | [] => lineStart level ++ [']']
  | item :: items =>
    ',' :: (lineStart (level + 1) ++ item.indentedChars (level + 1) ++ indentedItems level items)

def indentedMembers (level : Nat) : List (String × Tree) → List Char
  | [] => lineStart level ++ ['}']
  | (key, value) :: members =>
    ',' :: (lineStart (level + 1) ++ textChars key ++ ':' :: ' ' ::
      (value.indentedChars (level + 1) ++ indentedMembers level members))

end

def compact (tree : Tree) : String := String.ofList tree.compactChars

def indented (tree : Tree) : String := String.ofList (tree.indentedChars 0)

end Tree

end PolicyStore.Json
