import PolicyStore.Decimal.Shortest

/-!
# Numerals

A numeral is a number token as it is written. Integers are written with their decimal digits, doubles
with the fewest digits that read back.
-/

namespace PolicyStore.Json

/-- The exponent of a numeral: its mark, an explicit sign, and digits. -/
structure Exponent where
  mark : Char
  sign : Option Char
  digits : List Char
  deriving DecidableEq, Repr

/-- A number token: digits before the point, digits after it (none when there is no point), and an
exponent. -/
structure Numeral where
  negative : Bool
  whole : List Char
  fraction : List Char
  exponent : Option Exponent
  deriving DecidableEq, Repr

def Exponent.chars (e : Exponent) : List Char :=
  e.mark :: (e.sign.toList ++ e.digits)

namespace Numeral

def chars (n : Numeral) : List Char :=
  (if n.negative then ['-'] else []) ++ n.whole ++
    (if n.fraction.isEmpty then [] else '.' :: n.fraction) ++
    (n.exponent.map Exponent.chars).getD []

def ofNat (n : Nat) : Numeral := ⟨false, Nat.toDigits 10 n, [], none⟩

def ofInt (n : Int) : Numeral := ⟨n < 0, Nat.toDigits 10 n.natAbs, [], none⟩

/-- The numeral of a double: positional from `0.00001` up to sixteen digits before the point, with a
power of ten otherwise. -/
def ofDouble (negative : Bool) (x : Decimal.Binary64) : Numeral :=
  if x.significand = 0 then ⟨negative, ['0'], ['0'], none⟩
  else
    let ⟨digits, e⟩ := x.shortest
    if 0 ≤ e ∧ e ≤ 15 then
      if digits.length ≤ e.toNat + 1 then
        ⟨negative, digits ++ List.replicate (e.toNat + 1 - digits.length) '0', ['0'], none⟩
      else ⟨negative, digits.take (e.toNat + 1), digits.drop (e.toNat + 1), none⟩
    else if -5 ≤ e ∧ e < 0 then
      ⟨negative, ['0'], List.replicate ((-e).toNat - 1) '0' ++ digits, none⟩
    else
      let size := Nat.toDigits 10 e.natAbs
      ⟨negative, digits.take 1, digits.drop 1,
        some ⟨'e', some (if e < 0 then '-' else '+'),
          if size.length = 1 then '0' :: size else size⟩⟩

end Numeral

end PolicyStore.Json
