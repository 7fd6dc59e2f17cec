import PolicyStore.Text.Combining
import PolicyStore.Text.Composition

/-!
# Composed normal form

Two spellings of one text, say a letter with an accent and the accented letter, have the same normal
form: every character is taken apart, marks are put into the order of their classes, and what can be
composed is composed.
-/

namespace PolicyStore.Text

/-! ## Hangul syllables -/

namespace Hangul

/-- The first syllable; syllables are counted from it. -/
def base : Nat := 0xAC00

/-- The leading, vowel and trailing letters are counted from these. -/
def leadBase : Nat := 0x1100
def vowelBase : Nat := 0x1161
def trailBase : Nat := 0x11A7

def isSyllable (n : Nat) : Bool := base ≤ n && n < base + 11172

def letters (n : Nat) : List Nat :=
  let index := n - base
  let trail := index % 28
  [leadBase + index / 588, vowelBase + index % 588 / 28] ++
    (if trail = 0 then [] else [trailBase + trail])

/-- A leading letter and a vowel, or a syllable without a trailing letter and such a letter, as one
syllable. -/
def join? (a b : Nat) : Option Nat :=
  if leadBase ≤ a ∧ a < leadBase + 19 ∧ vowelBase ≤ b ∧ b < vowelBase + 21 then
    some (base + ((a - leadBase) * 21 + (b - vowelBase)) * 28)
  else if isSyllable a ∧ (a - base) % 28 = 0 ∧ trailBase < b ∧ b < trailBase + 28 then
    some (a + (b - trailBase))
  else none

end Hangul

/-! ## Taking apart -/

/-- The parts of a character, taken apart up to `depth` times; compositions are nested at most three
deep. -/
def partsWithin : Nat → Nat → List Nat
  | 0, n => [n]
  | depth + 1, n =>
    match compositions.find? (·.whole == n) with
    | some composition => partsWithin depth composition.first ++ [composition.second]
    | none => [n]

def parts (c : Char) : List Char :=
  if c.toNat < 0x80 then [c]
  else if Hangul.isSyllable c.toNat then (Hangul.letters c.toNat).map Char.ofNat
  else (partsWithin 3 c.toNat).map Char.ofNat

/-- Puts a character in front of ordered ones; a mark goes behind marks of lower classes. -/
def placeMark (c : Char) : List Char → List Char
  | [] => [c]
  | d :: rest =>
    if combiningClass c = 0 ∨ combiningClass d = 0 ∨ combiningClass c ≤ combiningClass d then
      c :: d :: rest
    else d :: placeMark c rest

/-- A text with each character taken apart and its marks in order. -/
def decompose (s : List Char) : List Char :=
  (s.flatMap parts).foldr placeMark []

/-! ## Composing -/

def compose? (a b : Char) : Option Char :=
  match Hangul.join? a.toNat b.toNat with
  | some n => some (Char.ofNat n)
  | none =>
    (compositions.find? fun composition =>
      composition.second == b.toNat && composition.first == a.toNat).map
        fun composition => Char.ofNat composition.whole

/-- Composes a text that starts with `start` and then marks that did not compose with it, last one
first. A mark of the same class as the one before it is blocked by it. -/
def composeFrom (start : Char) (marks : List Char) : List Char → List Char
  | [] => start :: marks.reverse
  | c :: rest =>
    let open? := match marks with
      | [] => true
      | mark :: _ => combiningClass mark < combiningClass c
    match if open? then compose? start c else none with
    | some whole => composeFrom whole marks rest
    | none =>
      if combiningClass c = 0 then start :: (marks.reverse ++ composeFrom c [] rest)
      else composeFrom start (c :: marks) rest

def normalize (s : List Char) : List Char :=
  if s.all fun c => c.toNat < 0x80 then s
  else
    match decompose s with
    | [] => []
    | start :: rest => composeFrom start [] rest

end PolicyStore.Text
