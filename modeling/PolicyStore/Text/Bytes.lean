/-!
# Text as bytes

Bounds on stored names and values, and the columns of a reading fault, count the bytes of the
UTF-8 encoding.
-/

namespace PolicyStore.Text

def byteLength (s : List Char) : Nat :=
  s.foldl (fun total c => total + c.utf8Size) 0

def utf8 (s : List Char) : List UInt8 :=
  s.flatMap String.utf8EncodeChar

/-- The text that the bytes encode, when they are well-formed UTF-8. -/
def ofUtf8? (bytes : List UInt8) : Option String :=
  String.fromUTF8? ⟨bytes.toArray⟩

end PolicyStore.Text
