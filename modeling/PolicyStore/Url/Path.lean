import PolicyStore.Url.Percent
import PolicyStore.Url.Scheme

/-!
# Paths

A path is a list of segments. While it is read, a segment of two dots takes back the one before it
and a segment of one dot is dropped, also where dots are percent-encoded. A segment that looks like a
drive letter is never taken back; at the start of the path of a file it is written with a colon.

Tabs and line breaks are no part of a path. They leave one trace: at the start of the path of a file
they set a drive letter apart from what follows.
-/

namespace PolicyStore.Url

/-- Whether a character is a tab or a line break, which may stand anywhere in a URL. -/
def isBreak (c : Char) : Bool := c == '\t' || c == '\n' || c == '\r'

def unbroken (s : List Char) : List Char := s.filter (!isBreak ·)

/-- What stands between two slashes of a path. -/
abbrev Segment := List Char

namespace Segment

def oneDot : List String := [".", "%2e", "%2E"]

def twoDots : List String :=
  oneDot.flatMap fun a => oneDot.map fun b => a ++ b

/-- Whether a segment starts with a letter and a colon or bar that nothing but a backslash follows. -/
def startsWithDrive : Segment → Bool
  | c :: d :: rest =>
    c.isAlpha && (d == ':' || d == '|') && (rest.isEmpty || rest.head? == some '\\')
  | _ => false

def isDrive (segment : Segment) : Bool :=
  segment.length == 2 && startsWithDrive segment

def withColon : Segment → Segment
  | c :: _ => [c, ':']
  | [] => []

/-- The segments without the last one read, which comes first, unless it is a drive letter. -/
def takeBack : List Segment → List Segment
  | [] => []
  | segment :: before => if startsWithDrive segment then segment :: before else before

def isDots (segment : Segment) : Bool :=
  (oneDot ++ twoDots).contains (String.ofList segment)

/-- A drive letter with its colon and what follows it, if a tab or line break parts the two. -/
def cutDrive? (text : List Char) : Option (Segment × List Char) :=
  match text.dropWhile isBreak with
  | [] => none
  | c :: rest =>
    match rest.dropWhile isBreak with
    | ':' :: rest =>
      if c.isAlpha ∧ rest.head?.any isBreak ∧ ¬ (unbroken rest).isEmpty then
        some ([c, ':'], unbroken rest)
      else none
    | _ => none

def holds (kind : SchemeKind) (c : Char) : Bool :=
  !(kind.isSlash c || c == '?' || c == '#')

theorem length_lt_of_dropWhile {p : Char → Bool} {s rest : List Char} {c : Char}
    (h : s.dropWhile p = c :: rest) : rest.length < s.length := by
  have := (List.dropWhile_sublist p (l := s)).length_le
  rw [h, List.length_cons] at this
  omega

end Segment

structure Trail where
  /-- The segments so far, last one first. -/
  before : List Segment
  /-- The first segment is a drive letter that a slash or the end of the path follows. -/
  onDrive : Bool
  deriving DecidableEq, Repr

namespace Trail

def start : Trail := ⟨[], false⟩

def segments (trail : Trail) : List Segment := trail.before.reverse

def push (trail : Trail) (segment : Segment) : Trail :=
  { trail with before := segment :: trail.before }

/-- Adds a segment; dots say what becomes of the one before. -/
def absorb (kind : SchemeKind) (trail : Trail) (segment : Segment) : Trail :=
  if Segment.twoDots.contains (String.ofList segment) then
    { trail with before := Segment.takeBack trail.before }
  else if Segment.oneDot.contains (String.ofList segment) then trail
  else if kind = .file ∧ trail.before.isEmpty ∧ Segment.isDrive segment then
    ⟨[Segment.withColon segment], true⟩
  else trail.push segment

/-- Adds what stands up to the next slash, and an empty segment after it if the path ends there in
dots. What is cut off from a drive letter at the start of the path of a file is a segment as it
stands, dots included. -/
def step (kind : SchemeKind) (trail : Trail) (text : List Char) (last : Bool) : Trail :=
  match if kind = .file ∧ trail.before.isEmpty then Segment.cutDrive? text else none with
  | some (drive, rest) => (trail.push drive).push (Percent.encode Percent.path rest)
  | none =>
    let segment := Percent.encode Percent.path (unbroken text)
    let trail := trail.absorb kind segment
    if last ∧ Segment.isDots segment then trail.push [] else trail

def read (kind : SchemeKind) (trail : Trail) (s : List Char) : Trail × List Char :=
  let text := s.takeWhile (Segment.holds kind)
  match h : s.dropWhile (Segment.holds kind) with
  | [] => (trail.step kind text true, [])
  | c :: rest =>
    have : rest.length < s.length := Segment.length_lt_of_dropWhile h
    if kind.isSlash c then read kind (trail.step kind text false) rest
    else (trail.step kind text true, c :: rest)
termination_by s.length

end Trail

inductive Path
  /-- A text without structure. -/
  | plain (text : List Char)
  /-- Segments, each after a slash. -/
  | segments (list : List Segment)
  deriving DecidableEq, Repr

def Path.chars : Path → List Char
  | .plain text => text
  | .segments list => list.flatMap ('/' :: ·)

end PolicyStore.Url
