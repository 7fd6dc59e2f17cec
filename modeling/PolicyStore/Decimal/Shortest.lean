import PolicyStore.Decimal.Binary64

/-!
# The shortest decimal that reads back

A double is shown with the fewest decimal digits that still round to it; of two such decimals with
equally many digits, with the one nearer to it. The search goes over grids of one to seventeen
digits in exact arithmetic.
-/

namespace PolicyStore.Decimal

/-- Decimal digits and the power of ten of the first one: `⟨[d0, d1, …], e⟩` is
`d0.d1… * 10 ^ e`. -/
structure Scientific where
  digits : List Char
  exponent : Int
  deriving DecidableEq, Repr

namespace Binary64

/-- The ends of the interval of values that round to `x`, in quarters of its last place, and whether
the ends belong to it. -/
def roundingInterval (x : Binary64) : Nat × Nat × Bool :=
  let below := if x.significand = Nat.pow 2 52 ∧ minExponent < x.exponent then 1 else 2
  (4 * x.significand - below, 4 * x.significand + 2, x.significand % 2 == 0)

def admits (x : Binary64) (n : Nat) (k : Int) : Bool :=
  let (low, high, closed) := x.roundingInterval
  let (lowNum, lowDen) := quotient low (x.exponent - 2)
  let (highNum, highDen) := quotient high (x.exponent - 2)
  let (num, den) := if 0 ≤ k then (n * Nat.pow 10 k.toNat, 1) else (n, Nat.pow 10 (-k).toNat)
  let inside (a b c d : Nat) := if closed then a * d ≤ c * b else a * d < c * b
  inside lowNum lowDen num den && inside num den highNum highDen

/-- The greatest `e` with `10 ^ e ≤ x`, for a positive value. -/
def log10Floor (x : Binary64) : Int :=
  let (n, d) := x.ratio
  if d ≤ n then ((Nat.toDigits 10 (n / d)).length : Int) - 1
  else -(((List.range 330).find? fun j => d ≤ n * Nat.pow 10 j).getD 0 : Int)

/-- The decimal with `count` digits that is nearest to `x` among those that round to it. -/
def withDigits? (x : Binary64) (leading : Int) (count : Nat) : Option (Nat × Int) :=
  let k := leading - count + 1
  let (n, d) := x.ratio
  let (num, den) :=
    if 0 ≤ k then (n, d * Nat.pow 10 k.toNat) else (n * Nat.pow 10 (-k).toNat, d)
  let below := num / den
  match x.admits below k, x.admits (below + 1) k with
  | true, true => some (if 2 * (num % den) ≤ den then below else below + 1, k)
  | true, false => some (below, k)
  | false, true => some (below + 1, k)
  | false, false => none

def shortest (x : Binary64) : Scientific :=
  let leading := x.log10Floor
  let (n, k) := ((List.range 17).findSome? fun i => x.withDigits? leading (i + 1)).getD (0, 0)
  let digits := Nat.toDigits 10 n
  ⟨(digits.reverse.dropWhile (· == '0')).reverse, k + digits.length - 1⟩

end Binary64

end PolicyStore.Decimal
