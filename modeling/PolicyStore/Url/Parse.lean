import PolicyStore.Url.Host
import PolicyStore.Url.Path

/-!
# Absolute URLs

Blanks and controls at the ends of a text, and tabs and line breaks anywhere in it, are no part of
the URL. The URL is kept in its parts, each in the form in which it is written again.
-/

namespace PolicyStore

/-- What a URL says of the host: credentials as they are written, the host, and the port unless it
goes without saying. -/
structure Authority where
  credentials : List Char
  host : Url.Host
  port : Option Nat
  deriving DecidableEq, Repr

structure Url where
  scheme : List Char
  authority : Option Authority
  path : Url.Path
  query : Option (List Char)
  fragment : Option (List Char)
  deriving DecidableEq, Repr

def Authority.chars (authority : Authority) : List Char :=
  (if authority.credentials.isEmpty then [] else authority.credentials ++ ['@']) ++
    authority.host.chars ++
    (authority.port.map fun port => ':' :: Nat.toDigits 10 port).getD []

namespace Url

/-- The text of a URL. A path that starts with an empty segment is kept from being taken for a host. -/
def chars (url : Url) : List Char :=
  url.scheme ++ ':' ::
    ((match url.authority, url.path with
      | some authority, _ => '/' :: '/' :: authority.chars
      | none, .segments ([] :: _ :: _) => ['/', '.']
      | none, _ => []) ++
    url.path.chars ++ (url.query.map ('?' :: ·)).getD [] ++ (url.fragment.map ('#' :: ·)).getD [])

def text (url : Url) : String := String.ofList url.chars

/-! ## The parts -/

def trimmed (s : List Char) : List Char :=
  let edge (c : Char) : Bool := c.toNat ≤ 0x20
  ((s.dropWhile edge).reverse.dropWhile edge).reverse

/-- Whether a character may stand in a scheme after its first letter. -/
def inScheme (c : Char) : Bool :=
  c.isAlphanum || c == '+' || c == '-' || c == '.'

def scheme? (s : List Char) : Option (List Char × List Char) :=
  let holds (c : Char) : Bool := inScheme c || isBreak c
  match s with
  | c :: _ =>
    if c.isAlpha then
      match s.dropWhile holds with
      | ':' :: rest => some ((unbroken (s.takeWhile holds)).map Char.toLower, rest)
      | _ => none
    else none
  | [] => none

/-- Credentials as they are written: an empty password leaves no colon. -/
def writeCredentials (s : List Char) : List Char :=
  let user := s.takeWhile (· ≠ ':')
  let password := (s.dropWhile (· ≠ ':')).drop 1
  Percent.encode Percent.credentials user ++
    if password.isEmpty then [] else ':' :: Percent.encode Percent.credentials password

/-- Takes the credentials up to the last `@` of the authority. -/
def takeCredentials (kind : SchemeKind) (s : List Char) :
    Except Fault (List Char × List Char) :=
  let span := s.takeWhile fun c => !kind.endsAuthority c
  if span.contains '@' then
    let credentials := (span.reverse.dropWhile (· ≠ '@')).tail.reverse
    let rest := s.drop (credentials.length + 1)
    if credentials.isEmpty ∧ rest.head?.any kind.endsAuthority then .error .emptyHost
    else .ok (writeCredentials credentials, rest)
  else .ok ([], s)

/-- The length of a host up to a colon outside brackets or the end of the authority. -/
def hostLength (kind : SchemeKind) (bracketed : Bool) : List Char → Nat
  | [] => 0
  | c :: rest =>
    if (c = ':' ∧ ¬ bracketed) ∨ kind.endsAuthority c then 0
    else
      1 + hostLength kind (if c = '[' then true else if c = ']' then false else bracketed) rest

def takeHost (kind : SchemeKind) (s : List Char) : Except Fault (Host × List Char) :=
  let host := s.take (hostLength kind false s)
  let rest := s.drop host.length
  if kind = .other then
    match Host.readOpaque host with
    | .error fault => .error fault
    | .ok host =>
      if host = .name [] ∧ rest.head? = some ':' then .error .emptyHost else .ok (host, rest)
  else if host.isEmpty then .error .emptyHost
  else (Host.readNamed host).map (·, rest)

def readPort (port : Option Nat) : List Char → Except Fault (Option Nat × List Char)
  | [] => .ok (port, [])
  | c :: rest =>
    if c.isDigit then
      let value := port.getD 0 * 10 + (c.toNat - '0'.toNat)
      if value < UInt16.size then readPort (some value) rest else .error .invalidPort
    else if c = '/' ∨ c = '\\' ∨ c = '?' ∨ c = '#' then .ok (port, c :: rest)
    else .error .invalidPort

/-- Takes a port, which is dropped where it goes without saying. -/
def takePort (scheme : List Char) : List Char → Except Fault (Option Nat × List Char)
  | ':' :: rest =>
    (readPort none rest).map fun (port, rest) =>
      (if port = defaultPort? scheme then none else port, rest)
  | rest => .ok (none, rest)

/-- Takes the path after an authority. Where the scheme is known there is one even if it is not
written. -/
def takePath (kind : SchemeKind) (s : List Char) : List Segment × List Char :=
  match s with
  | [] => if kind = .other then ([], []) else ([[]], [])
  | c :: rest =>
    if kind.isSlash c then segments rest
    else if kind = .other ∧ (c = '?' ∨ c = '#') then ([], s)
    else segments s
where
  segments (s : List Char) : List Segment × List Char :=
    let (trail, rest) := Trail.read kind .start s
    (trail.segments, rest)

def takeEnds (kind : SchemeKind) (s : List Char) : Option (List Char) × Option (List Char) :=
  let fragment (s : List Char) : Option (List Char) :=
    match s with
    | '#' :: rest => some (Percent.encode Percent.fragment rest)
    | _ => none
  match s with
  | '?' :: rest =>
    let set := if kind = .other then Percent.query else Percent.specialQuery
    (some (Percent.encode set (rest.takeWhile (· ≠ '#'))), fragment (rest.dropWhile (· ≠ '#')))
  | rest => (none, fragment rest)

def finish (scheme : List Char) (authority : Option Authority) (path : Path) (s : List Char) : Url :=
  let (query, fragment) := takeEnds (.of scheme) s
  ⟨scheme, authority, path, query, fragment⟩

/-! ## The forms -/

def readAuthority (scheme s : List Char) : Except Fault Url := do
  let kind := SchemeKind.of scheme
  let (credentials, s) ← takeCredentials kind s
  let (host, s) ← takeHost kind s
  let (port, s) ← takePort scheme s
  if host = .name [] ∧ ¬ credentials.isEmpty then .error .emptyHost
  let (segments, s) := takePath kind s
  return finish scheme (some ⟨credentials, host, port⟩) (.segments segments) s

/-- The path of a file has no empty segments at its start. -/
def filePath (segments : List Segment) : Path :=
  match segments.dropWhile List.isEmpty with
  | [] => .segments [[]]
  | rest => .segments rest

def afterSlash? (kind : SchemeKind) (s : List Char) : Option (List Char) :=
  match s.dropWhile isBreak with
  | c :: rest => if kind.isSlash c then some rest else none
  | [] => none

/-- Reads what follows the scheme of a file, in which tabs and line breaks still stand. A drive letter
is no host, this machine goes without saying, and a host goes when the path starts with a drive
letter. -/
def readFile (s : List Char) : Except Fault Url := do
  let file (host : Host) (path : Trail × List Char) : Url :=
    finish "file".toList (some ⟨[], host, none⟩) (filePath path.1.segments) (unbroken path.2)
  match (afterSlash? .file s).bind (afterSlash? .file) with
  | none => return file (.name []) (afterFirstSlash s)
  | some s =>
    let span := s.takeWhile fun c => !SchemeKind.endsAuthority .file c
    let name := unbroken span
    if Segment.isDrive name then return file (.name []) (Trail.read .file .start s)
    let host ← if name.isEmpty then .ok (.name []) else Host.readNamed name
    let rest := s.drop span.length
    if host = .name [] ∨ host = .name "localhost".toList then
      return file (.name []) (Trail.read .file .start rest)
    let path := afterFirstSlash rest
    return file (if path.1.onDrive then .name [] else host) path
where
  afterFirstSlash (s : List Char) : Trail × List Char :=
    Trail.read .file .start ((afterSlash? .file s).getD s)

def readOther (scheme : List Char) : List Char → Except Fault Url
  | '/' :: '/' :: rest => readAuthority scheme rest
  | '/' :: rest =>
    let (trail, rest) := Trail.read .other .start rest
    .ok (finish scheme none (.segments trail.segments) rest)
  | s =>
    let text := s.takeWhile fun c => c ≠ '?' ∧ c ≠ '#'
    .ok (finish scheme none (.plain (Percent.encode Percent.controls text)) (s.drop text.length))

def parse (text : String) : Except Fault Url :=
  match scheme? (trimmed text.toList) with
  | none => .error .noBase
  | some (scheme, rest) =>
    match SchemeKind.of scheme with
    | .web => readAuthority scheme ((unbroken rest).dropWhile (SchemeKind.isSlash .web))
    | .file => readFile rest
    | .other => readOther scheme (unbroken rest)

end Url

end PolicyStore
