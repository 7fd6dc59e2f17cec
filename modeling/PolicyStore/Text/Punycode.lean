/-!
# Punycode

The ASCII form of a host label with other characters: the ASCII characters of the label, a hyphen,
and then, as differences in base 36, where the other characters go. Digits are weighed by thresholds
that follow a bias, and the bias follows the differences.
-/

namespace PolicyStore.Text.Punycode

/-- The digit of a value below 36: letters first. -/
def digit (n : Nat) : Char :=
  if n < 26 then Char.ofNat ('a'.toNat + n) else Char.ofNat ('0'.toNat + (n - 26))

def digitValue? (c : Char) : Option Nat :=
  if 'a' ≤ c ∧ c ≤ 'z' then some (c.toNat - 'a'.toNat)
  else if 'A' ≤ c ∧ c ≤ 'Z' then some (c.toNat - 'A'.toNat)
  else if '0' ≤ c ∧ c ≤ '9' then some (c.toNat - '0'.toNat + 26)
  else none

/-- Below this value a digit at the weight `k` is the last one of its number. -/
def threshold (bias k : Nat) : Nat :=
  min 26 (max 1 (k - bias))

theorem threshold_pos (bias k : Nat) : 1 ≤ threshold bias k := by
  simp only [threshold]; omega

/-- Scales a difference down until it is small; gives it with the weight passed. -/
def settle (delta k : Nat) : Nat × Nat :=
  if 455 < delta then settle (delta / 35) (k + 36) else (delta, k)
termination_by delta
decreasing_by omega

def nextBias (delta points : Nat) (first : Bool) : Nat :=
  let halved := if first then delta / 700 else delta / 2
  let (small, k) := settle (halved + halved / points) 0
  k + 36 * small / (small + 38)

/-! ## Encoding -/

def encodeDelta (bias k q : Nat) : List Char :=
  let t := threshold bias k
  if q < t then [digit q]
  else digit (t + (q - t) % (36 - t)) :: encodeDelta bias (k + 36) ((q - t) / (36 - t))
termination_by q
decreasing_by
  have := threshold_pos bias k
  have : (q - threshold bias k) / (36 - threshold bias k) ≤ q - threshold bias k := Nat.div_le_self _ _
  omega

structure Progress where
  written : List Char
  delta : Nat
  bias : Nat
  placed : Nat

/-- Passes a character of the label while those of the value `point` are placed. `basic` is the
number of ASCII characters. -/
def place (basic point : Nat) (p : Progress) (c : Char) : Progress :=
  if c.toNat < point then { p with delta := p.delta + 1 }
  else if c.toNat = point then
    { written := p.written ++ encodeDelta p.bias 36 p.delta
      delta := 0
      bias := nextBias p.delta (p.placed + 1) (p.placed = basic)
      placed := p.placed + 1 }
  else p

/-- Places the characters of each value in turn; `next` is the first value not yet passed. -/
def placeAll (label : List Char) (basic : Nat) : List Nat → Nat → Progress → Progress
  | [], _, p => p
  | point :: points, next, p =>
    let p := { p with delta := p.delta + (point - next) * (p.placed + 1) }
    let p := label.foldl (place basic point) p
    placeAll label basic points (point + 1) { p with delta := p.delta + 1 }

def insertAscending (n : Nat) : List Nat → List Nat
  | [] => [n]
  | m :: rest => if n < m then n :: m :: rest else if n = m then m :: rest else m :: insertAscending n rest

def encode (label : List Char) : List Char :=
  let basic := label.filter fun c => c.toNat < 0x80
  let points := (label.filter fun c => 0x80 ≤ c.toNat).foldr (insertAscending ·.toNat) []
  let coded := placeAll label basic.length points 0x80 ⟨[], 0, 72, basic.length⟩
  basic ++ (if basic.isEmpty then [] else ['-']) ++ coded.written

/-! ## Decoding -/

/-- Reads the digits of a difference, which is added to `i` at the given weights. -/
def decodeDelta (bias : Nat) : Nat → Nat → Nat → List Char → Option (Nat × List Char)
  | _, _, _, [] => none
  | k, weight, i, c :: rest =>
    match digitValue? c with
    | none => none
    | some d =>
      let t := threshold bias k
      if d < t then some (i + d * weight, rest)
      else decodeDelta bias (k + 36) (weight * (36 - t)) (i + d * weight) rest

theorem decodeDelta_length {bias k weight i n : Nat} {s r : List Char}
    (h : decodeDelta bias k weight i s = some (n, r)) : r.length < s.length := by
  induction s generalizing k weight i with
  | nil => simp [decodeDelta] at h
  | cons c rest ih =>
    simp only [decodeDelta] at h
    split at h
    · simp at h
    · split at h
      · simp only [Option.some.injEq, Prod.mk.injEq] at h
        simp [← h.2]
      · have := ih h
        simp only [List.length_cons]; omega

/-- Puts in the characters that differences name; `point` and `index` are the value and the place
reached. -/
def decodeFrom (bias point index : Nat) (label s : List Char) : Option (List Char) :=
  if s.isEmpty then some label
  else
    match h : decodeDelta bias 36 1 index s with
    | none => none
    | some (i, rest) =>
      have : rest.length < s.length := decodeDelta_length h
      let size := label.length + 1
      let value := point + i / size
      if value.isValidChar then
        decodeFrom (nextBias (i - index) size (index = 0)) value (i % size + 1)
          (label.insertIdx (i % size) (Char.ofNat value)) rest
      else none
termination_by s.length

/-- The label of an ASCII form. The last hyphen ends the ASCII characters; it may not come first. -/
def decode (s : List Char) : Option (List Char) :=
  let coded := (s.reverse.takeWhile (· ≠ '-')).reverse
  let basic := (s.take (s.length - coded.length)).dropLast
  if basic.any fun c => 0x80 ≤ c.toNat then none
  else if basic.isEmpty ∧ coded.length < s.length then none
  else decodeFrom 72 0x80 0 basic coded

example : encode "bücher".toList = "bcher-kva".toList := by decide +kernel
example : decode "bcher-kva".toList = some "bücher".toList := by decide +kernel

end PolicyStore.Text.Punycode
