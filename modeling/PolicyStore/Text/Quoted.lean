import PolicyStore.Text.Unshown

/-!
# Quoted text

Messages quote a text so that it can be read unambiguously: between double quotes, with quotes,
backslashes and the common controls escaped by a backslash and other characters that do not show by
their number.
-/

namespace PolicyStore.Text

def quoteChar (c : Char) : List Char :=
  if c = '\x00' then ['\\', '0']
  else if c = '\t' then ['\\', 't']
  else if c = '\n' then ['\\', 'n']
  else if c = '\r' then ['\\', 'r']
  else if c = '"' then ['\\', '"']
  else if c = '\\' then ['\\', '\\']
  else if isUnshown c then ['\\', 'u', '{'] ++ Nat.toDigits 16 c.toNat ++ ['}']
  else [c]

def quoted (s : String) : String :=
  String.ofList ('"' :: (s.toList.flatMap quoteChar ++ ['"']))

/-- An optional text: `None`, or `Some` and the quoted text in parentheses. -/
def quotedOption : Option String → String
  | none => "None"
  | some s => "Some(" ++ quoted s ++ ")"

end PolicyStore.Text
