import PolicyStore.HostName.Direction
import PolicyStore.HostName.Joining
import PolicyStore.HostName.Mapping
import PolicyStore.Text.Combining
import PolicyStore.Text.Normal
import PolicyStore.Text.Punycode

/-!
# Labels of host names

A host name is made of labels with dots between them. A label with characters beyond ASCII has to
begin with a character that is no mark, may have invisible joiners only where they change how letters
look, and must not mix writing directions. A label that comes in its ASCII form, which starts with
`xn--`, has to stand for such a label.
-/

namespace PolicyStore.HostName

def isDenied (c : Char) : Bool :=
  c.toNat ≤ 0x20 || c.toNat == 0x7F || "%#/:<>?@[\\]^|".toList.contains c

def isAscii (s : List Char) : Bool :=
  s.all fun c => c.toNat < 0x80

/-- The mark that an ASCII form starts with. -/
def asciiMark : List Char := ['x', 'n', '-', '-']

/-- What an ASCII form stands for: a label beyond ASCII, in normal form, of kept characters. -/
def ofAsciiForm? (coded : List Char) : Option (List Char) :=
  if 2000 < coded.length then none
  else
    match Text.Punycode.decode coded with
    | none => none
    | some label =>
      if isAscii label ∨ Text.normalize label ≠ label ∨ label.any fun c => mapChar c ≠ some [c]
      then none
      else some label

/-- A label with an ASCII form replaced by what it stands for. -/
def readLabel? (label : List Char) : Option (List Char) :=
  if asciiMark.isPrefixOf label then
    if isAscii label then ofAsciiForm? (label.drop asciiMark.length) else none
  else some label

/-! ## Joiners -/

/-- The class of marks that silence a vowel; after one of them joiners are meaningful. -/
def virama : Nat := 9

/-- Whether a joiner stands between a letter that joins to the next one and a letter that joins to
the previous one. `before` is read from the joiner backwards. -/
def joinsAcross (before after : List Char) : Bool :=
  let previous := (before.dropWhile joinsThrough.contains).head?
  let next := (after.dropWhile joinsThrough.contains).head?
  previous.any (fun c => joinsNext.contains c || joinsBoth.contains c) &&
    next.any fun c => joinsPrevious.contains c || joinsBoth.contains c

/-- Whether every joiner may stand where it does; `before` is what was read, backwards. -/
def joinersFit (before : List Char) : List Char → Bool
  | [] => true
  | c :: rest =>
    let silenced := before.head?.any fun d => Text.combiningClass d == virama
    let fits :=
      if c.toNat = 0x200C then silenced || joinsAcross before rest
      else if c.toNat = 0x200D then silenced
      else true
    fits && joinersFit (c :: before) rest

/-! ## Directions -/

/-- Whether a character makes its host name subject to the rules on directions. -/
def isDirected (c : Char) : Bool :=
  [.rightToLeft, .arabicLetter, .arabicNumber].contains (direction c)

def allowedFromRight : List Direction :=
  [.rightToLeft, .arabicLetter, .arabicNumber, .europeanNumber, .europeanSeparator,
    .commonSeparator, .europeanTerminator, .otherNeutral, .boundaryNeutral, .nonspacingMark]

def allowedFromLeft : List Direction :=
  [.leftToRight, .europeanNumber, .europeanSeparator, .commonSeparator, .europeanTerminator,
    .otherNeutral, .boundaryNeutral, .nonspacingMark]

def directionsFit (label : List Char) : Bool :=
  let classes := label.map direction
  let final := (classes.reverse.dropWhile (· = .nonspacingMark)).head?
  match classes.head? with
  | none => true
  | some .leftToRight =>
    classes.all allowedFromLeft.contains &&
      final.any fun d => [.leftToRight, .europeanNumber].contains d
  | some first =>
    [.rightToLeft, .arabicLetter].contains first && classes.all allowedFromRight.contains &&
      (final.any fun d =>
        [.rightToLeft, .arabicLetter, .europeanNumber, .arabicNumber].contains d) &&
      !(classes.contains .europeanNumber && classes.contains .arabicNumber)

/-! ## Whole labels -/

/-- Whether a label may stand in a host name, directions aside. -/
def labelFits (label : List Char) : Bool :=
  !label.any isDenied &&
    (isAscii label || (!label.head?.any Text.isMark && joinersFit [] label))

/-- A label as it is written in ASCII; one of more than 1000 characters is not. -/
def writeLabel? (label : List Char) : Option (List Char) :=
  if isAscii label then some label
  else if 1000 < label.length then none
  else some (asciiMark ++ Text.Punycode.encode label)

/-- A host name in ASCII; `none` when it is not a valid one. -/
def toAscii? (s : List Char) : Option (List Char) := do
  let mapped ← s.mapM mapChar
  let labels ← (Text.pieces '.' (Text.normalize mapped.flatten)).mapM readLabel?
  guard (labels.all labelFits)
  guard ((labels.any fun label => label.any isDirected) → labels.all directionsFit)
  let written ← labels.mapM writeLabel?
  return List.intercalate ['.'] written

end PolicyStore.HostName
