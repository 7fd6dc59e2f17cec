import Mathlib.Algebra.Group.Int.Defs
import PolicyStore.Proofs.Text.Numerals

/-!
# How numerals are judged

A text that is read as a number is refused at its first character that is no digit, or at the digit
that takes the value past the bound, or else it denotes the number that is read. What is said here of
the verdict speaks of the integers that a text and its starts denote, and of no loop. For signed
64-bit numbers the loop is compared with one whose products and sums are 64-bit numbers, each of them
checked.
-/

namespace PolicyStore.Text

/-! ## What texts denote -/

/-- One or more decimal digits that make up a number. -/
structure Digits (s : List Char) (n : Nat) : Prop where
  nonempty : s ≠ []
  digits : ∀ c ∈ s, c.isDigit = true
  value : Nat.ofDigitChars 10 s 0 = n

/-- A text denotes an integer when it has digits for it, with a sign before them or none. -/
inductive Denotes : List Char → Int → Prop
  | unsigned {s : List Char} {n : Nat} (digits : Digits s n) : Denotes s n
  | positive {s : List Char} {n : Nat} (digits : Digits s n) : Denotes ('+' :: s) n
  | negative {s : List Char} {n : Nat} (digits : Digits s n) : Denotes ('-' :: s) (-n)

variable {s : List Char} {bound value n : Nat} {z : Int}

theorem not_denotes_nil : ¬Denotes [] z := by
  intro h
  cases h with
  | unsigned digits => exact digits.nonempty rfl

theorem denotes_positive_iff : Denotes ('+' :: s) z ↔ ∃ n : Nat, Digits s n ∧ 1 * (n : Int) = z := by
  constructor
  · intro h
    cases h with
    | unsigned digits => exact absurd (digits.digits '+' List.mem_cons_self) (by decide)
    | positive digits => exact ⟨_, digits, Int.one_mul _⟩
  · rintro ⟨n, digits, rfl⟩
    rw [Int.one_mul]
    exact .positive digits

theorem denotes_negative_iff :
    Denotes ('-' :: s) z ↔ ∃ n : Nat, Digits s n ∧ -1 * (n : Int) = z := by
  constructor
  · intro h
    cases h with
    | unsigned digits => exact absurd (digits.digits '-' List.mem_cons_self) (by decide)
    | negative digits => exact ⟨_, digits, Int.neg_one_mul _⟩
  · rintro ⟨n, digits, rfl⟩
    rw [Int.neg_one_mul]
    exact .negative digits

theorem denotes_unsigned_iff (hplus : ∀ t, s ≠ '+' :: t) (hminus : ∀ t, s ≠ '-' :: t) :
    Denotes s z ↔ ∃ n : Nat, Digits s n ∧ 1 * (n : Int) = z := by
  constructor
  · intro h
    cases h with
    | unsigned digits => exact ⟨_, digits, Int.one_mul _⟩
    | positive digits => exact absurd rfl (hplus _)
    | negative digits => exact absurd rfl (hminus _)
  · rintro ⟨n, digits, rfl⟩
    rw [Int.one_mul]
    exact .unsigned digits

/-! ## Blanks at the ends -/

/-- What is left of a text when the blanks at its two ends are taken off. -/
structure Strips (s t : List Char) : Prop where
  around : ∃ early late, s = early ++ t ++ late ∧ (∀ c ∈ early, isBlank c = true) ∧
    ∀ c ∈ late, isBlank c = true
  first : ∀ c, t.head? = some c → isBlank c = false
  last : ∀ c, t.getLast? = some c → isBlank c = false

theorem head?_dropWhile_isBlank (s : List Char) (c : Char)
    (h : (s.dropWhile isBlank).head? = some c) : isBlank c = false := by
  have hhead := List.head?_dropWhile_not isBlank s
  rw [h] at hhead
  exact hhead

theorem mem_takeWhile_isBlank (s : List Char) : ∀ c ∈ s.takeWhile isBlank, isBlank c = true :=
  List.all_eq_true.mp List.all_takeWhile

theorem strips_trim (s : List Char) : Strips s (trim s) := by
  have hfront : s.takeWhile isBlank ++ s.dropWhile isBlank = s := List.takeWhile_append_dropWhile
  have hback : trim s ++ ((s.dropWhile isBlank).reverse.takeWhile isBlank).reverse =
      s.dropWhile isBlank := by
    rw [trim, ← List.reverse_append, List.takeWhile_append_dropWhile, List.reverse_reverse]
  constructor
  · refine ⟨s.takeWhile isBlank, ((s.dropWhile isBlank).reverse.takeWhile isBlank).reverse, ?_,
      mem_takeWhile_isBlank s, fun c hc => ?_⟩
    · rw [List.append_assoc, hback, hfront]
    · exact mem_takeWhile_isBlank _ c (List.mem_reverse.mp hc)
  · intro c hc
    -- the first character is the first one after the blanks in front
    have hhead : (s.dropWhile isBlank).head? = some c := by
      rw [← hback, List.head?_append, hc]
      rfl
    exact head?_dropWhile_isBlank s c hhead
  · intro c hc
    rw [trim, List.getLast?_reverse] at hc
    exact head?_dropWhile_isBlank _ c hc

theorem dropWhile_of_head? {s : List Char} (h : ∀ c, s.head? = some c → isBlank c = false) :
    s.dropWhile isBlank = s := by
  cases s with
  | nil => rfl
  | cons c s => exact List.dropWhile_cons_of_neg (by simp [h c rfl])

/-- The blanks at the ends can be taken off in one way only. -/
theorem Strips.eq_trim {t : List Char} (h : Strips s t) : t = trim s := by
  obtain ⟨early, late, rfl, hearly, hlate⟩ := h.around
  have hreversed : ∀ c ∈ late.reverse, isBlank c = true :=
    fun c hc => hlate c (List.mem_reverse.mp hc)
  rw [trim, List.append_assoc, List.dropWhile_append_of_pos hearly]
  cases t with
  | nil =>
    rw [List.nil_append, ← List.append_nil late, List.dropWhile_append_of_pos hlate]
    rfl
  | cons c t =>
    have hfront : (c :: t ++ late).dropWhile isBlank = c :: t ++ late :=
      dropWhile_of_head? fun d hd => h.first d hd
    have hback : (c :: t).reverse.dropWhile isBlank = (c :: t).reverse :=
      dropWhile_of_head? fun d hd => h.last d (List.head?_reverse ▸ hd)
    rw [hfront, List.reverse_append, List.dropWhile_append_of_pos hreversed, hback,
      List.reverse_reverse]

/-! ## Digits up to a bound -/

theorem readDigits_eq_ok_iff (h : value ≤ bound) :
    readDigits bound value s = .ok n ↔
      (∀ c ∈ s, c.isDigit = true) ∧ Nat.ofDigitChars 10 s value = n ∧ n ≤ bound := by
  induction s generalizing value with
  | nil =>
    have hnil : Nat.ofDigitChars 10 [] value = value := rfl
    rw [readDigits, hnil, Except.ok.injEq]
    exact ⟨fun hn => ⟨by simp, hn, by omega⟩, fun hn => hn.2.1⟩
  | cons c s ih =>
    rw [readDigits, digitValue?, Nat.ofDigitChars_cons, Nat.mul_comm 10 value, List.forall_mem_cons]
    by_cases hc : c.isDigit = true
    · rw [if_pos hc]
      dsimp only
      by_cases hnext : value * 10 + (c.toNat - '0'.toNat) ≤ bound
      · rw [if_pos hnext, ih hnext, and_iff_right hc]
      · -- the digits that follow only make the number larger
        have hle := le_ofDigitChars s (value * 10 + (c.toNat - '0'.toNat))
        rw [if_neg hnext]
        refine iff_of_false (by simp) fun hn => ?_
        omega
    · rw [if_neg hc]
      exact iff_of_false (by simp) fun hn => hc hn.1.1

/-- Some start of a text holds digits that, after those that make up `value`, go past a bound. -/
def Exceeds (bound value : Nat) (s : List Char) : Prop :=
  ∃ start, start <+: s ∧ (∀ c ∈ start, c.isDigit = true) ∧ bound < Nat.ofDigitChars 10 start value

theorem exceeds_nil (h : value ≤ bound) : ¬Exceeds bound value [] := by
  rintro ⟨start, hstart, -, hpast⟩
  rw [List.prefix_nil.mp hstart] at hpast
  have hnil : Nat.ofDigitChars 10 [] value = value := rfl
  omega

theorem exceeds_cons_iff (h : value ≤ bound) (c : Char) :
    Exceeds bound value (c :: s) ↔
      c.isDigit = true ∧ Exceeds bound (value * 10 + (c.toNat - '0'.toNat)) s := by
  constructor
  · rintro ⟨start, hstart, hdigits, hpast⟩
    rcases List.prefix_cons_iff.mp hstart with rfl | ⟨rest, rfl, hrest⟩
    · have hnil : Nat.ofDigitChars 10 [] value = value := rfl
      omega
    · obtain ⟨hc, hdigits⟩ := List.forall_mem_cons.mp hdigits
      rw [Nat.ofDigitChars_cons, Nat.mul_comm 10 value] at hpast
      exact ⟨hc, rest, hrest, hdigits, hpast⟩
  · rintro ⟨hc, start, hstart, hdigits, hpast⟩
    refine ⟨c :: start, (List.prefix_cons_inj c).mpr hstart, ?_, ?_⟩
    · exact List.forall_mem_cons.mpr ⟨hc, hdigits⟩
    · rw [Nat.ofDigitChars_cons, Nat.mul_comm 10 value]
      exact hpast

theorem readDigits_eq_outOfRange_iff (h : value ≤ bound) :
    readDigits bound value s = .error .outOfRange ↔ Exceeds bound value s := by
  induction s generalizing value with
  | nil => exact iff_of_false (by simp [readDigits]) (exceeds_nil h)
  | cons c s ih =>
    rw [exceeds_cons_iff h, readDigits, digitValue?]
    by_cases hc : c.isDigit = true
    · rw [if_pos hc, and_iff_right hc]
      dsimp only
      by_cases hnext : value * 10 + (c.toNat - '0'.toNat) ≤ bound
      · rw [if_pos hnext, ih hnext]
      · rw [if_neg hnext]
        refine iff_of_true rfl ⟨[], List.nil_prefix, by simp, ?_⟩
        exact Nat.lt_of_not_le hnext
    · rw [if_neg hc]
      exact iff_of_false (by simp) fun hn => hc hn.1

theorem readMagnitude_eq_ok_iff : readMagnitude bound s = .ok n ↔ Digits s n ∧ n ≤ bound := by
  cases s with
  | nil => exact iff_of_false (by simp [readMagnitude]) fun h => h.1.nonempty rfl
  | cons c s =>
    rw [readMagnitude, readDigits_eq_ok_iff (Nat.zero_le bound)]
    · constructor
      · rintro ⟨hdigits, hvalue, hle⟩
        exact ⟨⟨by simp, hdigits, hvalue⟩, hle⟩
      · rintro ⟨digits, hle⟩
        exact ⟨digits.digits, digits.value, hle⟩
    · simp

/-- A text without its sign is out of range when digits that it starts with are past the bound. -/
theorem readMagnitude_eq_outOfRange_iff :
    readMagnitude bound s = .error .outOfRange ↔
      ∃ start n, start <+: s ∧ Digits start n ∧ bound < n := by
  have hexceeds : Exceeds bound 0 s ↔ ∃ start n, start <+: s ∧ Digits start n ∧ bound < n := by
    constructor
    · rintro ⟨start, hstart, hdigits, hpast⟩
      refine ⟨start, _, hstart, ⟨?_, hdigits, rfl⟩, hpast⟩
      rintro rfl
      exact absurd hpast (Nat.not_lt_zero bound)
    · rintro ⟨start, n, hstart, digits, hpast⟩
      refine ⟨start, hstart, digits.digits, ?_⟩
      rw [digits.value]
      exact hpast
  rw [← hexceeds]
  cases s with
  | nil => exact iff_of_false (by simp [readMagnitude]) (exceeds_nil (Nat.zero_le bound))
  | cons c s =>
    rw [readMagnitude, readDigits_eq_outOfRange_iff (Nat.zero_le bound)]
    simp

/-! ## Numbers without a minus sign -/

/-- A text denotes a natural number when it has digits for it, with a plus sign before them or none. -/
inductive DenotesNat : List Char → Nat → Prop
  | unsigned {s : List Char} {n : Nat} (digits : Digits s n) : DenotesNat s n
  | positive {s : List Char} {n : Nat} (digits : Digits s n) : DenotesNat ('+' :: s) n

theorem denotesNat_positive_iff : DenotesNat ('+' :: s) n ↔ Digits s n := by
  constructor
  · intro h
    cases h with
    | unsigned digits => exact absurd (digits.digits '+' List.mem_cons_self) (by decide)
    | positive digits => exact digits
  · exact .positive

theorem denotesNat_unsigned_iff (h : ∀ t, s ≠ '+' :: t) : DenotesNat s n ↔ Digits s n := by
  constructor
  · intro hdenotes
    cases hdenotes with
    | unsigned digits => exact digits
    | positive digits => exact absurd rfl (h _)
  · exact .unsigned

theorem readNat_positive (bound : Nat) (s : List Char) :
    readNat bound ('+' :: s) = readMagnitude bound s := rfl

theorem readNat_unsigned (bound : Nat) (h : ∀ t, s ≠ '+' :: t) :
    readNat bound s = readMagnitude bound s := by
  rw [readNat]
  exact h

/-- A text is read as the natural number up to the bound that it denotes. -/
theorem readNat_eq_ok_iff : readNat bound s = .ok n ↔ DenotesNat s n ∧ n ≤ bound := by
  by_cases hplus : ∃ t, s = '+' :: t
  · obtain ⟨t, rfl⟩ := hplus
    rw [readNat_positive, readMagnitude_eq_ok_iff, denotesNat_positive_iff]
  · have hnone := not_exists.mp hplus
    rw [readNat_unsigned bound hnone, readMagnitude_eq_ok_iff, denotesNat_unsigned_iff hnone]

/-! ## Signed 64-bit numbers -/

/-- An integer is a 64-bit number. -/
def IsInt64 (z : Int) : Prop := Int64.minValue.toInt ≤ z ∧ z ≤ Int64.maxValue.toInt

instance (z : Int) : Decidable (IsInt64 z) :=
  inferInstanceAs (Decidable (Int64.minValue.toInt ≤ z ∧ z ≤ Int64.maxValue.toInt))

theorem isInt64_iff : IsInt64 z ↔ -2 ^ 63 ≤ z ∧ z < 2 ^ 63 := by
  unfold IsInt64
  rw [Int64.toInt_minValue, Int64.toInt_maxValue]
  omega

/-- One of the two directions in which 64-bit numbers are read: magnitudes go up to a limit, and up to
it they are turned into numbers exactly. -/
structure Direction (sign : Int) (limit : Nat) (toWord : Nat → Int64) : Prop where
  exact : ∀ n : Nat, n ≤ limit → (toWord n).toInt = sign * n
  fits : ∀ n : Nat, IsInt64 (sign * n) ↔ n ≤ limit

theorem upwards : Direction 1 (Int64.size / 2 - 1) Int64.ofNat where
  exact n hn := by
    unfold Int64.size at hn
    rw [Int64.toInt_ofNat_of_lt (by omega), Int.one_mul]
  fits n := by
    rw [isInt64_iff]
    unfold Int64.size
    omega

theorem downwards : Direction (-1) (Int64.size / 2) fun n => Int64.ofInt (-n) where
  exact n hn := by
    unfold Int64.size at hn
    rw [Int64.toInt_ofInt_of_le (by omega) (by omega)]
    omega
  fits n := by
    rw [isInt64_iff]
    unfold Int64.size
    omega

section Direction

variable {sign : Int} {limit : Nat} {toWord : Nat → Int64} (direction : Direction sign limit toWord)

include direction

theorem Direction.map_eq_ok_iff {word : Int64} :
    (readMagnitude limit s).map toWord = .ok word ↔
      ∃ n : Nat, Digits s n ∧ sign * n = word.toInt := by
  constructor
  · intro h
    cases hread : readMagnitude limit s with
    | error fault =>
      rw [hread] at h
      cases h
    | ok n =>
      rw [hread] at h
      obtain rfl := Except.ok.inj h
      obtain ⟨digits, hn⟩ := readMagnitude_eq_ok_iff.mp hread
      exact ⟨n, digits, (direction.exact n hn).symm⟩
  · rintro ⟨n, digits, hword⟩
    have hfits : IsInt64 (sign * n) := by
      rw [hword, isInt64_iff]
      exact ⟨word.le_toInt, word.toInt_lt⟩
    have hn := (direction.fits n).mp hfits
    rw [readMagnitude_eq_ok_iff.mpr ⟨digits, hn⟩]
    refine congrArg Except.ok (Int64.toInt_inj.mp ?_)
    rw [direction.exact n hn, hword]

theorem Direction.map_eq_outOfRange_iff :
    (readMagnitude limit s).map toWord = .error .outOfRange ↔
      ∃ start n, start <+: s ∧ Digits start n ∧ ¬IsInt64 (sign * n) := by
  have hmap : (readMagnitude limit s).map toWord = .error .outOfRange ↔
      readMagnitude limit s = .error .outOfRange := by
    cases readMagnitude limit s <;> simp [Except.map]
  rw [hmap, readMagnitude_eq_outOfRange_iff]
  simp only [direction.fits, Nat.not_le]

end Direction

theorem readInt64_positive (s : List Char) :
    readInt64 ('+' :: s) = (readMagnitude (Int64.size / 2 - 1) s).map Int64.ofNat := rfl

theorem readInt64_negative (s : List Char) :
    readInt64 ('-' :: s) =
      (readMagnitude (Int64.size / 2) s).map fun n : Nat => Int64.ofInt (-n) := by
  rw [readInt64]
  cases readMagnitude (Int64.size / 2) s <;> rfl

theorem readInt64_unsigned (hplus : ∀ t, s ≠ '+' :: t) (hminus : ∀ t, s ≠ '-' :: t) :
    readInt64 s = (readMagnitude (Int64.size / 2 - 1) s).map Int64.ofNat := by
  rw [readInt64]
  · exact hplus
  · exact hminus

/-- A text has a sign or none. -/
theorem sign_cases (s : List Char) :
    (∃ t, s = '+' :: t) ∨ (∃ t, s = '-' :: t) ∨ (∀ t, s ≠ '+' :: t) ∧ ∀ t, s ≠ '-' :: t := by
  by_cases hplus : ∃ t, s = '+' :: t
  · exact .inl hplus
  by_cases hminus : ∃ t, s = '-' :: t
  · exact .inr (.inl hminus)
  · exact .inr (.inr ⟨not_exists.mp hplus, not_exists.mp hminus⟩)

/-- A text is read as the 64-bit number that it denotes. -/
theorem readInt64_eq_ok_iff {word : Int64} : readInt64 s = .ok word ↔ Denotes s word.toInt := by
  rcases sign_cases s with ⟨t, rfl⟩ | ⟨t, rfl⟩ | ⟨hplus, hminus⟩
  · rw [readInt64_positive, upwards.map_eq_ok_iff, denotes_positive_iff]
  · rw [readInt64_negative, downwards.map_eq_ok_iff, denotes_negative_iff]
  · rw [readInt64_unsigned hplus hminus, upwards.map_eq_ok_iff, denotes_unsigned_iff hplus hminus]

/-- Some start of a text denotes an integer that is no 64-bit number. -/
def Overflows (s : List Char) : Prop := ∃ start z, start <+: s ∧ Denotes start z ∧ ¬IsInt64 z

/-- A start of a text with a sign denotes nothing unless it has the sign. -/
theorem overflows_cons_iff {c : Char} {sign : Int}
    (hsign : ∀ s z, Denotes (c :: s) z ↔ ∃ n : Nat, Digits s n ∧ sign * n = z) :
    Overflows (c :: s) ↔ ∃ start n, start <+: s ∧ Digits start n ∧ ¬IsInt64 (sign * n) := by
  constructor
  · rintro ⟨start, z, hstart, hdenotes, hz⟩
    rcases List.prefix_cons_iff.mp hstart with rfl | ⟨rest, rfl, hrest⟩
    · exact absurd hdenotes not_denotes_nil
    · obtain ⟨n, digits, rfl⟩ := (hsign rest z).mp hdenotes
      exact ⟨rest, n, hrest, digits, hz⟩
  · rintro ⟨start, n, hstart, digits, hn⟩
    have hdenotes := (hsign start _).mpr ⟨n, digits, rfl⟩
    exact ⟨c :: start, _, (List.prefix_cons_inj c).mpr hstart, hdenotes, hn⟩

theorem overflows_unsigned_iff (hplus : ∀ t, s ≠ '+' :: t) (hminus : ∀ t, s ≠ '-' :: t) :
    Overflows s ↔ ∃ start n, start <+: s ∧ Digits start n ∧ ¬IsInt64 (1 * (n : Int)) := by
  -- a start of a text without a sign has none either
  have hstarts : ∀ start, start <+: s → ∀ z,
      Denotes start z ↔ ∃ n : Nat, Digits start n ∧ 1 * (n : Int) = z := by
    rintro start ⟨more, rfl⟩ z
    refine denotes_unsigned_iff (fun t ht => ?_) fun t ht => ?_
    · exact hplus (t ++ more) (by rw [ht, List.cons_append])
    · exact hminus (t ++ more) (by rw [ht, List.cons_append])
  constructor
  · rintro ⟨start, z, hstart, hdenotes, hz⟩
    obtain ⟨n, digits, rfl⟩ := (hstarts start hstart z).mp hdenotes
    exact ⟨start, n, hstart, digits, hz⟩
  · rintro ⟨start, n, hstart, digits, hn⟩
    exact ⟨start, _, hstart, (hstarts start hstart _).mpr ⟨n, digits, rfl⟩, hn⟩

/-- A text is out of range when it starts with an integer that is. -/
theorem readInt64_eq_outOfRange_iff : readInt64 s = .error .outOfRange ↔ Overflows s := by
  rcases sign_cases s with ⟨t, rfl⟩ | ⟨t, rfl⟩ | ⟨hplus, hminus⟩
  · rw [readInt64_positive, upwards.map_eq_outOfRange_iff,
      overflows_cons_iff fun _ _ => denotes_positive_iff]
  · rw [readInt64_negative, downwards.map_eq_outOfRange_iff,
      overflows_cons_iff fun _ _ => denotes_negative_iff]
  · rw [readInt64_unsigned hplus hminus, upwards.map_eq_outOfRange_iff,
      overflows_unsigned_iff hplus hminus]

/-! ## A loop of checked operations -/

/-- An integer as a 64-bit number, if it is one. -/
def checked (z : Int) : Option Int64 := if IsInt64 z then some (Int64.ofInt z) else none

/-- Reads digits after those that make up `value`, adding or subtracting each of them by its sign; a
product or a sum that is no 64-bit number ends the reading. -/
def scanDigits (sign : Int) (value : Int64) : List Char → Except NumeralFault Int64
  | [] => .ok value
  | c :: rest =>
    match digitValue? c with
    | none => .error .malformed
    | some digit =>
      match (checked (value.toInt * 10)).bind fun tens => checked (tens.toInt + sign * digit) with
      | none => .error .outOfRange
      | some next => scanDigits sign next rest

/-- Reads one or more digits by checked operations. -/
def scanMagnitude (sign : Int) : List Char → Except NumeralFault Int64
  | [] => .error .malformed
  | digits => scanDigits sign 0 digits

/-- Reads a signed 64-bit number by checked operations. -/
def scanInt64 : List Char → Except NumeralFault Int64
  | '+' :: digits => scanMagnitude 1 digits
  | '-' :: digits => scanMagnitude (-1) digits
  | digits => scanMagnitude 1 digits

section Direction

variable {sign : Int} {limit : Nat} {toWord : Nat → Int64} (direction : Direction sign limit toWord)

include direction

theorem Direction.checked_eq (n : Nat) :
    checked (sign * n) = if n ≤ limit then some (toWord n) else none := by
  have hfits := direction.fits n
  by_cases hn : n ≤ limit
  · have hz := hfits.mpr hn
    have hword := direction.exact n hn
    rw [if_pos hn, checked, if_pos hz, ← hword, Int64.ofInt_toInt]
  · rw [if_neg hn, checked, if_neg fun hz => hn (hfits.mp hz)]

/-- What a step of the checked loop comes to. -/
theorem Direction.step_eq {value : Nat} (hvalue : value ≤ limit) (digit : Nat) :
    ((checked ((toWord value).toInt * 10)).bind fun tens => checked (tens.toInt + sign * digit)) =
      if value * 10 + digit ≤ limit then some (toWord (value * 10 + digit)) else none := by
  have htens : (toWord value).toInt * 10 = sign * (value * 10 : Nat) := by
    rw [direction.exact value hvalue, Int.mul_assoc]
    rfl
  rw [htens, direction.checked_eq]
  by_cases hproduct : value * 10 ≤ limit
  · have hsum : (toWord (value * 10)).toInt + sign * digit = sign * (value * 10 + digit : Nat) := by
      rw [direction.exact _ hproduct, ← Int.mul_add]
      rfl
    rw [if_pos hproduct, Option.bind_some, hsum, direction.checked_eq]
  · rw [if_neg hproduct, Option.bind_none, if_neg (by omega)]

/-- The loop of checked operations is the loop on magnitudes. -/
theorem Direction.scanDigits_eq {value : Nat} (hvalue : value ≤ limit) (s : List Char) :
    scanDigits sign (toWord value) s = (readDigits limit value s).map toWord := by
  induction s generalizing value with
  | nil => rfl
  | cons c s ih =>
    rw [scanDigits, readDigits]
    cases digitValue? c with
    | none => rfl
    | some digit =>
      dsimp only
      rw [direction.step_eq hvalue digit]
      by_cases hnext : value * 10 + digit ≤ limit
      · rw [if_pos hnext, if_pos hnext]
        exact ih hnext
      · rw [if_neg hnext, if_neg hnext]
        rfl

theorem Direction.scanMagnitude_eq (hzero : toWord 0 = 0) (s : List Char) :
    scanMagnitude sign s = (readMagnitude limit s).map toWord := by
  cases s with
  | nil => rfl
  | cons c s =>
    have hscan := direction.scanDigits_eq (Nat.zero_le limit) (c :: s)
    rw [hzero] at hscan
    exact hscan

end Direction

/-- Checked operations on 64-bit numbers read what is read here. -/
theorem scanInt64_eq (s : List Char) : scanInt64 s = readInt64 s := by
  rcases sign_cases s with ⟨t, rfl⟩ | ⟨t, rfl⟩ | ⟨hplus, hminus⟩
  · rw [readInt64_positive]
    exact upwards.scanMagnitude_eq rfl t
  · rw [readInt64_negative]
    exact downwards.scanMagnitude_eq rfl t
  · rw [readInt64_unsigned hplus hminus, scanInt64]
    · exact upwards.scanMagnitude_eq rfl s
    · exact hplus
    · exact hminus

end PolicyStore.Text
