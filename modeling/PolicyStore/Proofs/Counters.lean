import Mathlib.Algebra.Group.Nat.Defs
import PolicyStore.Counter
import PolicyStore.Proofs.Text.Judging

/-!
# Counting on

A counter is written as the decimal text of its value, and reading the record gives that value
again. Counting goes up by one until the last 64-bit number and never beyond it. Any other text is
judged by what it denotes without the blanks at its ends: a number of 64 bits, a larger one, or none.
-/

namespace PolicyStore

theorem parseCounter_toString (name : String) (n : Int64) :
    parseCounter name (toString n) = .ok n := by
  rw [parseCounter, Text.trim_toString_int64, Text.readInt64_toString]

/-- The text of a number does not depend on the width that it is kept in. -/
theorem toString_ofNat {n : Nat} (h : n < 2 ^ 63) : toString (Int64.ofNat n) = toString n := by
  change toString (Int64.ofNat n).toInt = _
  rw [Int64.toInt_ofNat_of_lt h]
  rfl

theorem nextCount?_maxValue : nextCount? Int64.maxValue = none := by
  rw [nextCount?, if_pos rfl]

theorem toInt_succ {n : Int64} (h : n.toInt < Int64.maxValue.toInt) :
    (n + 1).toInt = n.toInt + 1 := by
  have hmax : Int64.maxValue.toInt = 2 ^ 63 - 1 := Int64.toInt_maxValue
  have hlow := n.le_toInt
  rw [Int64.toInt_add, Int64.toInt_one]
  exact Int.bmod_eq_of_le (by omega) (by omega)

theorem nextCount?_of_lt {n : Int64} (h : n.toInt < Int64.maxValue.toInt) :
    nextCount? n = some (n + 1) := by
  refine if_neg ?_
  rintro rfl
  exact Int.lt_irrefl _ h

/-! ## Which texts are counters -/

/-- What the two faults of a numeral come to for a counter. -/
def counterFault (name value : String) : Text.NumeralFault → StoreError
  | .outOfRange => .counterOverflow name
  | .malformed => .nonNumericCounter name (some value)

theorem parseCounter_eq (name value : String) :
    parseCounter name value =
      (Text.readInt64 (Text.trim value.toList)).mapError (counterFault name value) := by
  rw [parseCounter]
  cases Text.readInt64 (Text.trim value.toList) with
  | ok n => rfl
  | error fault => cases fault <;> rfl

theorem parseCounter_eq_ok_iff {name value : String} {n : Int64} :
    parseCounter name value = .ok n ↔ Text.Denotes (Text.trim value.toList) n.toInt := by
  rw [← Text.readInt64_eq_ok_iff, parseCounter]
  cases Text.readInt64 (Text.trim value.toList) with
  | ok m => simp
  | error fault => cases fault <;> simp

theorem parseCounter_eq_overflow_iff {name value : String} :
    parseCounter name value = .error (.counterOverflow name) ↔
      Text.Overflows (Text.trim value.toList) := by
  rw [← Text.readInt64_eq_outOfRange_iff, parseCounter]
  cases Text.readInt64 (Text.trim value.toList) with
  | ok n => simp
  | error fault => cases fault <;> simp

/-- There are three verdicts. -/
theorem parseCounter_cases (name value : String) :
    (∃ n, parseCounter name value = .ok n) ∨
      parseCounter name value = .error (.counterOverflow name) ∨
      parseCounter name value = .error (.nonNumericCounter name (some value)) := by
  rw [parseCounter_eq]
  cases Text.readInt64 (Text.trim value.toList) with
  | ok n => exact .inl ⟨n, rfl⟩
  | error fault =>
    cases fault with
    | outOfRange => exact .inr (.inl rfl)
    | malformed => exact .inr (.inr rfl)

/-- The verdict on the text of a counter: the number that it denotes without the blanks at its ends,
or that some start of it denotes a number of more than 64 bits, or else that it is no number. A loop
of checked 64-bit operations comes to the same. -/
structure Judged (name value : String) : Prop where
  stripped : Text.Strips value.toList (Text.trim value.toList)
  number : ∀ n : Int64,
    parseCounter name value = .ok n ↔ Text.Denotes (Text.trim value.toList) n.toInt
  overflow : parseCounter name value = .error (.counterOverflow name) ↔
    ∃ start z, start <+: Text.trim value.toList ∧ Text.Denotes start z ∧ ¬Text.IsInt64 z
  other : parseCounter name value = .error (.nonNumericCounter name (some value)) ↔
    (∀ n : Int64, ¬Text.Denotes (Text.trim value.toList) n.toInt) ∧
      ¬∃ start z, start <+: Text.trim value.toList ∧ Text.Denotes start z ∧ ¬Text.IsInt64 z
  scanned : parseCounter name value =
    (Text.scanInt64 (Text.trim value.toList)).mapError (counterFault name value)

/-- The text of a counter is judged by its value, and the decimal text of a number is read as it. -/
theorem counters_judged (name value : String) :
    Judged name value ∧ ∀ n : Int64, parseCounter name (toString n) = .ok n := by
  refine ⟨⟨Text.strips_trim _, fun _ => parseCounter_eq_ok_iff, parseCounter_eq_overflow_iff, ?_, ?_⟩,
    parseCounter_toString name⟩
  · constructor
    · intro hother
      refine ⟨fun n hn => ?_, fun hoverflow => ?_⟩
      · have hok : parseCounter name value = .ok n := parseCounter_eq_ok_iff.mpr hn
        rw [hother] at hok
        cases hok
      · have hpast : parseCounter name value = .error (.counterOverflow name) :=
          parseCounter_eq_overflow_iff.mpr hoverflow
        rw [hother] at hpast
        cases hpast
    · rintro ⟨hnumber, hoverflow⟩
      rcases parseCounter_cases name value with ⟨n, hn⟩ | hpast | hother
      · exact absurd (parseCounter_eq_ok_iff.mp hn) (hnumber n)
      · exact absurd (parseCounter_eq_overflow_iff.mp hpast) hoverflow
      · exact hother
  · rw [Text.scanInt64_eq, parseCounter_eq]

/-- Digits that are past the range come before a character that is none. -/
example : parseCounter "n" " 9223372036854775808x" = .error (.counterOverflow "n") := rfl

end PolicyStore
