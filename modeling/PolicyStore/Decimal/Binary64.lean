/-!
# Double-precision numbers in exact arithmetic

A finite non-negative double is `significand * 2 ^ exponent` with a significand below `2 ^ 53`.
Every operation rounds the exact result to the nearest such value, a tie going to the even
significand, and answers `none` where the exact result is too large for one.
-/

namespace PolicyStore.Decimal

/-- A finite non-negative double-precision value. -/
structure Binary64 where
  significand : Nat
  exponent : Int
  deriving DecidableEq, Repr

namespace Binary64

/-- The least exponent; values below `2 ^ (minExponent + 52)` have fewer significant bits. -/
def minExponent : Int := -1074

def maxExponent : Int := 971

def zero : Binary64 := ⟨0, minExponent⟩

/-- `n * 2 ^ e` as a quotient of two numbers. -/
def quotient (n : Nat) (e : Int) : Nat × Nat :=
  if 0 ≤ e then (n * Nat.pow 2 e.toNat, 1) else (n, Nat.pow 2 (-e).toNat)

def ratio (x : Binary64) : Nat × Nat :=
  quotient x.significand x.exponent

/-- `num / den` rounded to a whole number, a tie going to the even one. -/
def roundHalfEven (num den : Nat) : Nat :=
  let below := num / den
  let rest := 2 * (num % den)
  if rest < den then below
  else if den < rest then below + 1
  else below + below % 2

/-- `num / den` divided by `2 ^ e`, as a quotient of two numbers. -/
def proportion (num den : Nat) (e : Int) : Nat × Nat :=
  if 0 ≤ e then (num, den * Nat.pow 2 e.toNat) else (num * Nat.pow 2 (-e).toNat, den)

/-- The greatest `e` with `2 ^ e ≤ num / den`, for a positive quotient. -/
def log2Floor (num den : Nat) : Int :=
  let guess : Int := (Nat.log2 num : Int) - Nat.log2 den
  let (n, d) := proportion num den guess
  if d ≤ n then guess else guess - 1

/-- The double nearest to `num / den`. -/
def ofRatio (num den : Nat) : Option Binary64 :=
  if num = 0 then some zero
  else
    let exponent := max (log2Floor num den - 52) minExponent
    let (n, d) := proportion num den exponent
    let significand := roundHalfEven n d
    let (significand, exponent) :=
      if significand = Nat.pow 2 53 then (Nat.pow 2 52, exponent + 1) else (significand, exponent)
    if maxExponent < exponent then none else some ⟨significand, exponent⟩

def mul (x y : Binary64) : Option Binary64 :=
  let (n, d) := quotient (x.significand * y.significand) (x.exponent + y.exponent)
  ofRatio n d

/-- The quotient by a value other than zero, rounded. -/
def div (x y : Binary64) : Option Binary64 :=
  let (n, d) := quotient x.significand (x.exponent - y.exponent)
  ofRatio n (d * y.significand)

end Binary64

end PolicyStore.Decimal
