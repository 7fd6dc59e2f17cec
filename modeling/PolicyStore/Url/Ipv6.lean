import PolicyStore.Text.Hex
import PolicyStore.Text.Numeral
import PolicyStore.Text.Pieces

/-!
# IPv6 addresses

Eight groups of up to four hexadecimal digits. Once, `::` stands for one or more zero groups, and the
last two groups may be written as an IPv4 address. An address is shown with its longest run of zero
groups written as `::`, the first of the longest ones, if the run has at least two groups.
-/

namespace PolicyStore.Url.Ipv6

def groupValue (digits : List Char) : Nat := Text.hexNumber digits

/-- A decimal byte: no sign, no leading zero. -/
def byteValue? (digits : List Char) : Option Nat :=
  if digits.isEmpty ∨ ¬ digits.all Char.isDigit ∨ (1 < digits.length ∧ digits.head? = some '0') then
    none
  else
    match Text.readMagnitude 255 digits with
    | .ok n => some n
    | .error _ => none

/-- The two groups that an IPv4 address at the end makes up. -/
def embedded? (s : List Char) : Option (List Nat) := do
  match ← (Text.pieces '.' s).mapM byteValue? with
  | [a, b, c, d] => some [a * 256 + b, c * 256 + d]
  | _ => none

/-- The groups of an address, and where among them zeros are to be put in. -/
structure Groups where
  groups : List Nat
  gap : Option Nat

/-- Reads groups after those in `read`, of which the last one comes first. -/
def readGroups (read : List Nat) (gap : Option Nat) (s : List Char) : Option Groups :=
  if s.isEmpty then some ⟨read.reverse, gap⟩
  else if 8 ≤ read.length then none
  else
    let digits := (s.take 4).takeWhile fun c => (Text.hexValue? c).isSome
    match hr : s.drop digits.length with
    | [] => readGroups (groupValue digits :: read) gap []
    | ':' :: rest =>
      have : rest.length < s.length := by
        have := congrArg List.length hr
        simp only [List.length_drop, List.length_cons] at this
        omega
      if digits.isEmpty then
        if gap.isSome then none else readGroups (0 :: read) (some (read.length + 1)) rest
      else if rest.isEmpty then none
      else readGroups (groupValue digits :: read) gap rest
    | '.' :: _ =>
      if digits.isEmpty ∨ 6 < read.length then none
      else (embedded? s).map fun last => ⟨read.reverse ++ last, gap⟩
    | _ => none
termination_by s.length
decreasing_by
  · simp_all [List.isEmpty_iff, List.length_pos_iff]
  · omega
  · omega

/-- The groups of a text: a gap at the start is written with two colons as well. -/
def groups? : List Char → Option Groups
  | ':' :: ':' :: rest => readGroups [0] (some 1) rest
  | ':' :: _ => none
  | [] => none
  | [_] => none
  | s => readGroups [] none s

def parse? (s : List Char) : Option (List Nat) := do
  let ⟨groups, gap⟩ ← groups? s
  match gap with
  | none => if groups.length = 8 then some groups else none
  | some gap =>
    if groups.length ≤ 8 then
      some (groups.take gap ++ List.replicate (8 - groups.length) 0 ++ groups.drop gap)
    else none

def zeros (groups : List Nat) : Nat := (groups.takeWhile (· = 0)).length

/-- Where the first of the longest runs of zeros starts, and how long it is. -/
def longestGap (groups : List Nat) : Nat × Nat :=
  (List.range groups.length).foldl
    (fun best i => if best.2 < zeros (groups.drop i) then (i, zeros (groups.drop i)) else best) (0, 0)

def joined (groups : List Nat) : List Char :=
  List.intercalate [':'] (groups.map (Nat.toDigits 16))

def chars (groups : List Nat) : List Char :=
  let (start, length) := longestGap groups
  '[' :: ((if length < 2 then joined groups
    else joined (groups.take start) ++ [':', ':'] ++ joined (groups.drop (start + length))) ++ [']'])

end PolicyStore.Url.Ipv6
