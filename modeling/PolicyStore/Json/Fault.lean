import PolicyStore.Json.Numeral
import PolicyStore.Text.Bytes
import PolicyStore.Text.Quoted

/-!
# Faults in a JSON text

Reading a payload stops at the first problem. A fault keeps its cause and the place: what was left
unread there, and how many bytes of that had been looked at. The place is shown as a line and a
column counted in bytes.
-/

namespace PolicyStore.Json

/-- A value met where one of another shape was wanted. -/
inductive Found
  | null
  | flag (value : Bool)
  | integer (value : Int)
  | fractional (negative : Bool) (value : Decimal.Binary64)
  | text (value : String)
  | list
  | object
  deriving DecidableEq, Repr

/-- A line, counted from one, and a column, counted in bytes. -/
structure Position where
  line : Nat
  column : Nat
  deriving DecidableEq, Repr

inductive Cause
  | endInList
  | endInObject
  | endInText
  | endInValue
  | colonDue
  | listCommaOrEndDue
  | objectCommaOrEndDue
  | literalBroken
  | valueDue
  | invalidEscape
  | invalidNumber
  | numberOutOfRange
  | controlCharacter
  | keyNotText
  | loneSurrogate
  | trailingComma
  | trailingCharacters
  | surrogatePairBroken
  | nestedTooDeep
  | wrongShape (found : Found) (expected : String)
  /-- A value of the right shape that does not fit. -/
  | unfit (found : Found) (expected : String)
  | wrongLength (length : Nat) (expected : String)
  | unknownVariant (name : String) (known : List String)
  | missingField (name : String)
  | repeatedField (name : String)
  /-- A text inside the text is no document; the place is one in the inner text. -/
  | embedded (cause : Cause) (position : Position)
  deriving DecidableEq, Repr

inductive Category
  /-- The text is not JSON. -/
  | form
  /-- The text is JSON of another shape than wanted. -/
  | data
  | ending
  deriving DecidableEq, Repr

def Cause.category : Cause → Category
  | .endInList | .endInObject | .endInText | .endInValue => .ending
  | .wrongShape _ _ | .unfit _ _ | .wrongLength _ _ | .unknownVariant _ _ | .missingField _
  | .repeatedField _ | .embedded _ _ => .data
  | _ => .form

def Found.describe : Found → String
  | .null => "null"
  | .flag value => "boolean `" ++ toString value ++ "`"
  | .integer value => "integer `" ++ toString value ++ "`"
  | .fractional negative value => 
    "floating point `" ++ String.ofList (Numeral.ofDouble negative value).chars ++ "`"
  | .text value => "string " ++ Text.quoted value
  | .list => "sequence"
  | .object => "map"

/-- The names that would have been right. -/
def alternatives (names : List String) : String :=
  match names.map fun name => "`" ++ name ++ "`" with
  | [] => "nothing"
  | [a] => a
  | [a, b] => a ++ " or " ++ b
  | many => "one of " ++ ", ".intercalate many

def Cause.message : Cause → String
  | .endInList => "EOF while parsing a list"
  | .endInObject => "EOF while parsing an object"
  | .endInText => "EOF while parsing a string"
  | .endInValue => "EOF while parsing a value"
  | .colonDue => "expected `:`"
  | .listCommaOrEndDue => "expected `,` or `]`"
  | .objectCommaOrEndDue => "expected `,` or `\x7d`"
  | .literalBroken => "expected ident"
  | .valueDue => "expected value"
  | .invalidEscape => "invalid escape"
  | .invalidNumber => "invalid number"
  | .numberOutOfRange => "number out of range"
  | .controlCharacter =>
    "control character (\\u0000-\\u001F) found while parsing a string"
  | .keyNotText => "key must be a string"
  | .loneSurrogate => "lone leading surrogate in hex escape"
  | .trailingComma => "trailing comma"
  | .trailingCharacters => "trailing characters"
  | .surrogatePairBroken => "unexpected end of hex escape"
  | .nestedTooDeep => "recursion limit exceeded"
  | .wrongShape found expected => "invalid type: " ++ found.describe ++ ", expected " ++ expected
  | .unfit found expected => "invalid value: " ++ found.describe ++ ", expected " ++ expected
  | .wrongLength length expected =>
    "invalid length " ++ toString length ++ ", expected " ++ expected
  | .unknownVariant name known =>
    "unknown variant `" ++ name ++ "`, expected " ++ alternatives known
  | .missingField name => "missing field `" ++ name ++ "`"
  | .repeatedField name => "duplicate field `" ++ name ++ "`"
  | .embedded cause _ => cause.message

/-- A cause and its place: what is unread there, and the bytes of it already looked at. -/
structure Fault where
  cause : Cause
  rest : List Char
  ahead : Nat
  deriving DecidableEq, Repr

namespace Fault

def here (cause : Cause) (rest : List Char) : Fault := ⟨cause, rest, 0⟩

/-- A fault at the first byte of the unread text, or at the end when there is none. -/
def peek (cause : Cause) (rest : List Char) : Fault :=
  ⟨cause, rest, if rest.isEmpty then 0 else 1⟩

end Fault

/-- Moves a position over `bytes` bytes of a text. -/
def Position.advance (p : Position) : Nat → List Char → Position
  | _, [] => p
  | bytes, c :: rest =>
    if bytes < c.utf8Size then ⟨p.line, p.column + bytes⟩
    else if c = '\n' then advance ⟨p.line + 1, 0⟩ (bytes - 1) rest
    else advance ⟨p.line, p.column + c.utf8Size⟩ (bytes - c.utf8Size) rest

def Fault.position (fault : Fault) (text : List Char) : Position :=
  Position.advance ⟨1, 0⟩ (Text.byteLength text - Text.byteLength fault.rest + fault.ahead) text

structure Problem where
  cause : Cause
  position : Position
  deriving DecidableEq, Repr

def Fault.locate (fault : Fault) (text : List Char) : Problem :=
  match fault.cause with
  | .embedded cause position => ⟨.embedded cause position, position⟩
  | cause => ⟨cause, fault.position text⟩

def Problem.message (problem : Problem) : String :=
  problem.cause.message ++ " at line " ++ toString problem.position.line ++ " column " ++
    toString problem.position.column

end PolicyStore.Json
