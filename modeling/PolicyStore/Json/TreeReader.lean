import PolicyStore.Json.Choice
import PolicyStore.Json.RecordReader
import PolicyStore.Json.Tree
import Std.Data.ExtTreeMap

/-!
# Reading any document

A document can be read without knowing what it is for. Its tree has integers of 64 bits as they are
and other numbers as doubles, and the members of every object in the order of their keys, of several
with one key the last one.

An object whose first key is a certain mark is not kept. It stands for the document in the text under
the mark, and a document that has anything but a text there cannot be read.
-/

namespace PolicyStore.Json

/-- The numeral that a number is kept as. -/
def Number.numeral : Number → Numeral
  | .natural n => .ofNat n
  | .negated n => .ofInt (-n)
  | .fractional negative x => .ofDouble negative x

namespace Reader

/-! ## Leaves -/

def null : Reader Unit where
  read s := (readNull s).map ((), ·)
  shorter {s a r} h := by
    cases hnull : readNull s with
    | error fault =>
      rw [hnull] at h
      cases h
    | ok rest =>
      rw [hnull] at h
      cases h
      exact readNull_length hnull

def readNumber (s : List Char) : Except Fault (Number × List Char) :=
  match afterGap s with
  | [] => .error (.here .endInValue [])
  | c :: rest =>
    if c = '-' ∨ c.isDigit then scanNumber (c :: rest) else .error (.peek .valueDue (c :: rest))

theorem readNumber_length {s r : List Char} {n : Number} (h : readNumber s = .ok (n, r)) :
    r.length < s.length := by
  unfold readNumber at h
  split at h
  next => cases h
  next hg =>
    split at h
    next =>
      have hgap := afterGap_cons_length hg
      have hscan := scanNumber_length h
      rw [List.length_cons] at hscan
      omega
    next => cases h

def number : Reader Number where
  read := readNumber
  shorter := readNumber_length

/-- A reader in the place of what would be nested too deeply. -/
def tooDeep {α : Type} : Reader α where
  read s := .error (.peek .nestedTooDeep (afterGap s))
  shorter h := nomatch h

/-! ## Objects -/

/-- The first key of an object that stands for the document in a text. -/
def embeddingMark : String := "$serde_json::private::RawValue"

/-- What follows the mark, when the members of an object begin with it. -/
def afterMark? (s : List Char) : Option (List Char) :=
  match readKey true s with
  | .ok (some key, rest) => if key = embeddingMark then some rest else none
  | _ => none

theorem afterMark?_length {s r : List Char} (h : afterMark? s = some r) : r.length < s.length := by
  rw [afterMark?] at h
  split at h
  next hkey =>
    split at h
    next =>
      cases h
      exact (readKey_length hkey).2 rfl
    next => cases h
  next => cases h

/-- Reads a text after its mark as the document in it, which `embedded` knows. -/
def readEmbedded (embedded : String → Except Problem Tree) (s : List Char) :
    Except Fault (Tree × List Char) :=
  match scanColon s with
  | .error fault => .error fault
  | .ok rest =>
    match readText "raw value" rest with
    | .error fault => .error fault
    | .ok (text, rest) =>
      match embedded text with
      | .error problem => .error (.here (.embedded problem.cause problem.position) rest)
      | .ok tree => .ok (tree, rest)

theorem readEmbedded_length {embedded : String → Except Problem Tree} {s r : List Char} {tree : Tree}
    (h : readEmbedded embedded s = .ok (tree, r)) : r.length < s.length := by
  rw [readEmbedded] at h
  split at h
  next => cases h
  next hcolon =>
    split at h
    next => cases h
    next htext =>
      split at h
      next => cases h
      next =>
        cases h
        have hrest := scanColon_length hcolon
        have htext := readText_length htext
        omega

/-- Members in the order of their keys; of several with one key the last one is kept. -/
def byKey (members : List (String × Tree)) : List (String × Tree) :=
  (Std.ExtTreeMap.ofList members compare).toList

/-- Reads the members of an object after its opening brace, or what they stand for, up to the closing
brace, which is left. -/
def readContents (embedded : String → Except Problem Tree) (value : Reader Tree) (s : List Char) :
    Except Fault (Tree × List Char) :=
  match afterMark? s with
  | some rest => readEmbedded embedded rest
  | none => (readMembers value true [] s).map fun (members, rest) => (.object (byKey members), rest)

theorem readContents_length {embedded : String → Except Problem Tree} {value : Reader Tree}
    {s r : List Char} {tree : Tree} (h : readContents embedded value s = .ok (tree, r)) :
    r.length ≤ s.length := by
  rw [readContents] at h
  split at h
  next hmark =>
    have hrest := afterMark?_length hmark
    have hread := readEmbedded_length h
    omega
  next =>
    cases hmembers : readMembers value true [] s with
    | error fault =>
      rw [hmembers] at h
      cases h
    | ok found =>
      obtain ⟨members, after⟩ := found
      rw [hmembers] at h
      cases h
      exact readMembers_length hmembers

def object (embedded : String → Except Problem Tree) (value : Reader Tree) : Reader Tree where
  read s :=
    match afterGap s with
    | '{' :: rest =>
      match readContents embedded value rest with
      | .error fault => .error fault
      | .ok (tree, rest) => (endObject rest).map (tree, ·)
    | rest => .error (mismatch "a map" rest)
  shorter {s a r} h := by
    split at h
    next hg =>
      split at h
      next => cases h
      next after hcontents =>
        cases hend : endObject after with
        | error fault =>
          rw [hend] at h
          cases h
        | ok last =>
          have hgap := afterGap_cons_length hg
          have hread := readContents_length hcontents
          have hlast := endObject_length hend
          rw [hend] at h
          cases h
          omega
    next => cases h

/-! ## Documents -/

def beginning (list object : Reader Tree) : Char → Reader Tree
  | 'n' => null.map fun () => .null
  | 't' => flag.map .flag
  | 'f' => flag.map .flag
  | '"' => text.map .text
  | '[' => list
  | '{' => object
  | _ => number.map fun number => .number number.numeral

def document (list object : Reader Tree) : Reader Tree where
  read s :=
    match afterGap s with
    | [] => .error (.here .endInValue [])
    | c :: _ => (beginning list object c).read s
  shorter {s a r} h := by
    split at h
    next => cases h
    next => exact (beginning list object _).shorter h

/-- A reader of documents that are nested at most so deep. -/
def tree (embedded : String → Except Problem Tree) : Nat → Reader Tree
  | 0 => document tooDeep tooDeep
  | depth + 1 =>
    document ((list (tree embedded depth)).map .list) (object embedded (tree embedded depth))

end Reader

/-- The document that a text of at most `size` characters is. A text that is embedded in it is shorter
by its quotes. -/
def Tree.readWithin : (size : Nat) → String → Except Problem Tree
  | 0, s => .error ((Fault.here .endInValue []).locate s.toList)
  | size + 1, s =>
    ((Reader.tree (readWithin size) 127).readWhole s.toList).mapError (·.locate s.toList)

/-- The document that a text is; one that is nested deeper than 127 levels is refused. -/
def Tree.read (text : String) : Except Problem Tree := readWithin text.length text

end PolicyStore.Json
