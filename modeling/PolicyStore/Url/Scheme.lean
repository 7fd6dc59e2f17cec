/-!
# Kinds of URL schemes
-/

namespace PolicyStore.Url

/-- How a scheme has the rest of its URLs read. -/
inductive SchemeKind
  /-- The rest names a host and a path on it. -/
  | web
  /-- The rest is a path on this machine or a host. -/
  | file
  | other
  deriving DecidableEq, Repr

def SchemeKind.of (scheme : List Char) : SchemeKind :=
  let name := String.ofList scheme
  if ["http", "https", "ws", "wss", "ftp"].contains name then .web
  else if name = "file" then .file
  else .other

def defaultPort? (scheme : List Char) : Option Nat :=
  [("http", 80), ("https", 443), ("ws", 80), ("wss", 443), ("ftp", 21)].lookup (String.ofList scheme)

/-- Whether a character separates segments of a path: a backslash does where the scheme is known. -/
def SchemeKind.isSlash (kind : SchemeKind) (c : Char) : Bool :=
  c == '/' || (c == '\\' && kind != .other)

def SchemeKind.endsAuthority (kind : SchemeKind) (c : Char) : Bool :=
  kind.isSlash c || c == '?' || c == '#'

end PolicyStore.Url
