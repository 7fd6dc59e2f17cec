import PolicyStore.Json.Scan

/-!
# Numbers in a JSON text

A numeral is the token as written. Its value is a 64-bit integer only when it is written with
digits alone and fits; any other numeral stands for a double, computed from the leading digits that
fit 64 bits and a power of ten. Minus zero is a double as well.
-/

namespace PolicyStore.Json

/-! ## Scanning -/

/-- Takes the digits before the point: a single zero, or digits of which the first is no zero.
`ending` is the cause reported when the text is over. -/
def scanWhole (ending : Cause) : List Char → Except Fault (List Char × List Char)
  | [] => .error (.here ending [])
  | '0' :: rest =>
    match rest with
    | [] => .ok (['0'], [])
    | c :: _ => if c.isDigit then .error (.peek .invalidNumber rest) else .ok (['0'], rest)
  | c :: rest =>
    if c.isDigit then .ok (c :: rest.takeWhile Char.isDigit, rest.dropWhile Char.isDigit)
    else .error (.peek .invalidNumber (c :: rest))

def scanFraction (ending : Cause) : List Char → Except Fault (List Char × List Char)
  | '.' :: rest =>
    if (rest.takeWhile Char.isDigit).isEmpty then
      .error (.peek (if rest.isEmpty then ending else .invalidNumber) rest)
    else .ok (rest.takeWhile Char.isDigit, rest.dropWhile Char.isDigit)
  | rest => .ok ([], rest)

def scanExponentDigits (ending : Cause) (mark : Char) (sign : Option Char) :
    List Char → Except Fault (Option Exponent × List Char)
  | [] => .error (.here ending [])
  | c :: rest =>
    if c.isDigit then
      .ok (some ⟨mark, sign, c :: rest.takeWhile Char.isDigit⟩, rest.dropWhile Char.isDigit)
    else .error (.peek .invalidNumber (c :: rest))

def scanExponent (ending : Cause) : List Char → Except Fault (Option Exponent × List Char)
  | [] => .ok (none, [])
  | mark :: rest =>
    if mark = 'e' ∨ mark = 'E' then
      match rest with
      | '+' :: digits => scanExponentDigits ending mark (some '+') digits
      | '-' :: digits => scanExponentDigits ending mark (some '-') digits
      | digits => scanExponentDigits ending mark none digits
    else .ok (none, mark :: rest)

/-- Takes a numeral after its sign. -/
def scanUnsigned (ending : Cause) (negative : Bool) (s : List Char) :
    Except Fault (Numeral × List Char) := do
  let (whole, s) ← scanWhole ending s
  let (fraction, s) ← scanFraction ending s
  let (exponent, s) ← scanExponent ending s
  return (⟨negative, whole, fraction, exponent⟩, s)

def scanNumeral (ending : Cause) : List Char → Except Fault (Numeral × List Char)
  | '-' :: rest => scanUnsigned ending true rest
  | s => scanUnsigned ending false s

theorem scanWhole_length {ending : Cause} {s w r : List Char} (h : scanWhole ending s = .ok (w, r)) :
    r.length < s.length := by
  unfold scanWhole at h
  split at h
  · simp at h
  · split at h
    · simp only [Except.ok.injEq, Prod.mk.injEq] at h
      simp [← h.2]
    · split at h
      · simp at h
      · simp only [Except.ok.injEq, Prod.mk.injEq] at h
        simp [← h.2]
  · rename_i rest _
    split at h
    · simp only [Except.ok.injEq, Prod.mk.injEq] at h
      have := length_dropWhile_le Char.isDigit rest
      simp only [← h.2, List.length_cons]; omega
    · simp at h

theorem scanFraction_length {ending : Cause} {s f r : List Char}
    (h : scanFraction ending s = .ok (f, r)) : r.length ≤ s.length := by
  unfold scanFraction at h
  split at h
  · rename_i rest
    split at h
    · simp at h
    · simp only [Except.ok.injEq, Prod.mk.injEq] at h
      have := length_dropWhile_le Char.isDigit rest
      simp only [← h.2, List.length_cons]; omega
  · simp only [Except.ok.injEq, Prod.mk.injEq] at h
    simp [h.2]

theorem scanExponentDigits_length {ending : Cause} {mark : Char} {sign : Option Char}
    {s r : List Char} {e : Option Exponent}
    (h : scanExponentDigits ending mark sign s = .ok (e, r)) : r.length < s.length := by
  unfold scanExponentDigits at h
  split at h
  · simp at h
  · rename_i c rest
    split at h
    · simp only [Except.ok.injEq, Prod.mk.injEq] at h
      have := length_dropWhile_le Char.isDigit rest
      simp only [← h.2, List.length_cons]; omega
    · simp at h

theorem scanExponent_length {ending : Cause} {s r : List Char} {e : Option Exponent}
    (h : scanExponent ending s = .ok (e, r)) : r.length ≤ s.length := by
  unfold scanExponent at h
  split at h
  · simp only [Except.ok.injEq, Prod.mk.injEq] at h
    simp [← h.2]
  · split at h
    · split at h
      all_goals
        have := scanExponentDigits_length h
        simp only [List.length_cons] at *
        omega
    · simp only [Except.ok.injEq, Prod.mk.injEq] at h
      simp [← h.2]

theorem scanUnsigned_length {ending : Cause} {negative : Bool} {s r : List Char} {n : Numeral}
    (h : scanUnsigned ending negative s = .ok (n, r)) : r.length < s.length := by
  unfold scanUnsigned at h
  cases hw : scanWhole ending s with
  | error fault => simp [hw, bind, Except.bind] at h
  | ok w =>
    cases hf : scanFraction ending w.2 with
    | error fault => simp [hw, hf, bind, Except.bind] at h
    | ok f =>
      cases he : scanExponent ending f.2 with
      | error fault => simp [hw, hf, he, bind, Except.bind] at h
      | ok e =>
        simp only [hw, hf, he, bind, Except.bind, pure, Except.pure, Except.ok.injEq,
          Prod.mk.injEq] at h
        have h1 := scanWhole_length (w := w.1) (r := w.2) hw
        have h2 := scanFraction_length (f := f.1) (r := f.2) hf
        have h3 := scanExponent_length (e := e.1) (r := e.2) he
        rw [← h.2]
        omega

theorem scanNumeral_length {ending : Cause} {s r : List Char} {n : Numeral}
    (h : scanNumeral ending s = .ok (n, r)) : r.length < s.length := by
  unfold scanNumeral at h
  split at h
  · have := scanUnsigned_length h
    simp only [List.length_cons]; omega
  · exact scanUnsigned_length h

/-! ## Values -/

inductive Number
  /-- A number written without a sign that fits 64 bits. -/
  | natural (n : Nat)
  /-- Minus a number from 1 to `2 ^ 63`. -/
  | negated (n : Nat)
  /-- Any other number, as a double. -/
  | fractional (negative : Bool) (value : Decimal.Binary64)
  deriving DecidableEq, Repr

/-- Adds digits to `value` as long as the result fits 64 bits; gives the digits left over too. -/
def gather (value : Nat) : List Char → Nat × List Char
  | [] => (value, [])
  | c :: rest =>
    let next := value * 10 + (c.toNat - '0'.toNat)
    if next < UInt64.size then gather next rest else (value, c :: rest)

def powerOfTen (n : Nat) : Decimal.Binary64 :=
  (Decimal.Binary64.ofRatio (Nat.pow 10 n) 1).getD .zero

/-- A double times a power of ten, in steps that each round; `none` when the result is too large. -/
def scaled (x : Decimal.Binary64) (exponent : Int) : Option Decimal.Binary64 :=
  if exponent.natAbs ≤ 308 then
    if 0 ≤ exponent then x.mul (powerOfTen exponent.toNat) else x.div (powerOfTen (-exponent).toNat)
  else if x.significand = 0 then some x
  else if 0 ≤ exponent then none
  else
    match x.div (powerOfTen 308) with
    | none => none
    | some y => scaled y (exponent + 308)
termination_by exponent.natAbs

/-- The digits of an exponent as a number of at most 31 bits, or what is left of the digits after
the one that exceeds it. -/
def exponentSize (value : Nat) : List Char → Except (List Char) Nat
  | [] => .ok value
  | c :: rest =>
    let next := value * 10 + (c.toNat - '0'.toNat)
    if next < Int32.size / 2 then exponentSize next rest else .error rest

/-- The value of a numeral that is no plain integer of 64 bits. A value too large for a double is
refused, with the digits of the exponent that need not be looked at to see it. -/
def Numeral.double (n : Numeral) : Except (List Char) Number :=
  let (leading, dropped) := gather 0 n.whole
  let (significand, unused) := gather leading n.fraction
  let shift : Int := (dropped.length : Int) - ((n.fraction.length : Int) - unused.length)
  let scale (e : Int) : Except (List Char) Number :=
    match scaled ((Decimal.Binary64.ofRatio significand 1).getD .zero) e with
    | some x => .ok (.fractional n.negative x)
    | none => .error []
  match n.exponent with
  | none => scale shift
  | some e =>
    match exponentSize 0 e.digits with
    | .ok size => scale (if e.sign = some '-' then shift - size else shift + size)
    | .error rest =>
      if significand ≠ 0 ∧ e.sign ≠ some '-' then .error rest
      else .ok (.fractional n.negative .zero)

def Numeral.value (n : Numeral) : Except (List Char) Number :=
  let (whole, dropped) := gather 0 n.whole
  if dropped.isEmpty ∧ n.fraction.isEmpty ∧ n.exponent.isNone then
    if ¬ n.negative then .ok (.natural whole)
    else if whole = 0 ∨ Int64.size / 2 < whole then
      .ok (.fractional true ((Decimal.Binary64.ofRatio whole 1).getD .zero))
    else .ok (.negated whole)
  else n.double

def scanNumber (s : List Char) : Except Fault (Number × List Char) :=
  match scanNumeral .endInValue s with
  | .error fault => .error fault
  | .ok (numeral, rest) =>
    match numeral.value with
    | .ok number => .ok (number, rest)
    | .error unseen => .error (.here .numberOutOfRange (unseen ++ rest))

theorem scanNumber_length {s r : List Char} {n : Number} (h : scanNumber s = .ok (n, r)) :
    r.length < s.length := by
  unfold scanNumber at h
  split at h
  · simp at h
  · rename_i hs
    split at h
    · simp only [Except.ok.injEq, Prod.mk.injEq] at h
      rw [← h.2]
      exact scanNumeral_length hs
    · simp at h

/-- A number as a value met in the wrong place. -/
def Number.found : Number → Found
  | .natural n => .integer n
  | .negated n => .integer (-n)
  | .fractional negative x => .fractional negative x

end PolicyStore.Json
