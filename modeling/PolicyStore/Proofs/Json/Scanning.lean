import PolicyStore.Json.Skip
import PolicyStore.Proofs.Json.Spelling
import PolicyStore.Proofs.Text.Numerals

/-!
# Scanners on spelled tokens

On the spelling of a token a scanner gives what was spelled and leaves the rest of the text. For a
number the rest has to begin with something that cannot belong to the number.
-/

namespace PolicyStore.Json

/-! ## Gaps -/

theorem afterGap_append {gap : List Char} (h : IsGap gap) (s : List Char) :
    afterGap (gap ++ s) = afterGap s :=
  List.dropWhile_append_of_pos h

theorem afterGap_cons {c : Char} (h : isGap c = false) (s : List Char) :
    afterGap (c :: s) = c :: s := by
  simp [afterGap, h]

theorem afterGap_gap {gap : List Char} (h : IsGap gap) : afterGap gap = [] := by
  simpa [afterGap] using afterGap_append h []

/-- A gap before a character that is none is passed over. -/
theorem afterGap_append_cons {gap : List Char} {c : Char} (hg : IsGap gap) (hc : isGap c = false)
    (s : List Char) : afterGap (gap ++ c :: s) = c :: s := by
  rw [afterGap_append hg, afterGap_cons hc]

theorem isGap_nil : IsGap [] := by simp [IsGap]

theorem scanWord_append (word rest : List Char) : scanWord word (word ++ rest) = .ok rest := by
  induction word with
  | nil => rfl
  | cons w word ih => simp [scanWord, ih]

/-! ## Escapes -/

theorem hexValue?_hexDigit :
    ∀ k < 16, Text.hexValue? (Nat.digitChar k) = some k ∧
      Text.hexValue? (Nat.digitChar k).toUpper = some k := by
  decide

theorem hexValue?_of_isHexDigit {n : Nat} {c : Char} (h : IsHexDigit n c) :
    Text.hexValue? c = some (n % 16) := by
  have hk := hexValue?_hexDigit (n % 16) (Nat.mod_lt n (by decide))
  rcases h with rfl | rfl
  · exact hk.1
  · exact hk.2

theorem fourDigits?_of_isHexDigit {n : Nat} (hn : n < 0x10000) {a b c d : Char}
    (ha : IsHexDigit (n / 4096) a) (hb : IsHexDigit (n / 256) b) (hc : IsHexDigit (n / 16) c)
    (hd : IsHexDigit n d) : fourDigits? a b c d = some n := by
  simp only [fourDigits?, hexValue?_of_isHexDigit ha, hexValue?_of_isHexDigit hb,
    hexValue?_of_isHexDigit hc, hexValue?_of_isHexDigit hd, Option.bind_eq_bind, Option.bind_some,
    Option.pure_def, Option.some.injEq]
  omega

/-- The escape of a unit is a backslash and `u`, and the scanner reads the unit from the digits. -/
theorem SpellsUnit.scanFourDigits {n : Nat} (hn : n < 0x10000) {s : List Char}
    (h : SpellsUnit n s) :
    ∃ t, s = '\\' :: 'u' :: t ∧ ∀ rest, scanFourDigits (t ++ rest) = .ok (n, rest) := by
  cases h with
  | digits ha hb hc hd =>
    refine ⟨_, rfl, fun rest => ?_⟩
    simp [Json.scanFourDigits, fourDigits?_of_isHexDigit hn ha hb hc hd]

theorem shortEscape?_of_mem {letter c : Char} (h : (letter, c) ∈ shortEscapes) :
    shortEscape? letter = some c ∧ letter ≠ 'u' := by
  simp only [shortEscapes, List.mem_cons, Prod.mk.injEq, List.not_mem_nil, or_false] at h
  rcases h with ⟨rfl, rfl⟩ | ⟨rfl, rfl⟩ | ⟨rfl, rfl⟩ | ⟨rfl, rfl⟩ | ⟨rfl, rfl⟩ | ⟨rfl, rfl⟩ |
    ⟨rfl, rfl⟩ | ⟨rfl, rfl⟩ <;> decide

/-- A character is no surrogate. -/
theorem toNat_not_surrogate (c : Char) : c.toNat < 0xD800 ∨ 0xE000 ≤ c.toNat := by
  have h := c.valid
  simp only [UInt32.isValidChar, Nat.isValidChar] at h
  have : c.val.toNat = c.toNat := rfl
  omega

theorem toNat_lt_top (c : Char) : c.toNat < 0x110000 := by
  have h := c.valid
  simp only [UInt32.isValidChar, Nat.isValidChar] at h
  have : c.val.toNat = c.toNat := rfl
  omega

theorem joinSurrogates_units {c : Char} (h : 0x10000 ≤ c.toNat) :
    joinSurrogates (highUnit c) (lowUnit c) = c := by
  have hn : (highUnit c - 0xD800) * 0x400 + (lowUnit c - 0xDC00) + 0x10000 = c.toNat := by
    simp only [highUnit, lowUnit]; omega
  rw [joinSurrogates, hn, Char.ofNat_toNat]

theorem scanEscape_unit {c : Char} (h : c.toNat < 0x10000) {t rest : List Char}
    (ht : scanFourDigits t = .ok (c.toNat, rest)) : scanEscape ('u' :: t) = .ok (c, rest) := by
  have hs := toNat_not_surrogate c
  have hl : isLowSurrogate c.toNat = false := by
    simp only [isLowSurrogate, Bool.and_eq_false_iff, decide_eq_false_iff_not]
    omega
  have hh : isHighSurrogate c.toNat = false := by
    simp only [isHighSurrogate, Bool.and_eq_false_iff, decide_eq_false_iff_not]
    omega
  simp [scanEscape, ht, hl, hh]

theorem highUnit_range (c : Char) : 0xD800 ≤ highUnit c ∧ highUnit c ≤ 0xDBFF := by
  have := toNat_lt_top c
  unfold highUnit
  omega

theorem lowUnit_range (c : Char) : 0xDC00 ≤ lowUnit c ∧ lowUnit c ≤ 0xDFFF := by
  unfold lowUnit
  omega

theorem scanEscape_pair {c : Char} (h : 0x10000 ≤ c.toNat) {s t rest : List Char}
    (hs : scanFourDigits s = .ok (highUnit c, '\\' :: 'u' :: t))
    (ht : scanFourDigits t = .ok (lowUnit c, rest)) : scanEscape ('u' :: s) = .ok (c, rest) := by
  have hhigh := highUnit_range c
  have hlow := lowUnit_range c
  have hl : ¬ 0xDC00 ≤ highUnit c := by omega
  simp [scanEscape, hs, hl, isHighSurrogate, hhigh, scanLowSurrogate, ht, isLowSurrogate, hlow,
    joinSurrogates_units h]

theorem highUnit_lt (c : Char) : highUnit c < 0x10000 := by
  have := highUnit_range c
  omega

theorem lowUnit_lt (c : Char) : lowUnit c < 0x10000 := by
  have := lowUnit_range c
  omega

/-! ## Strings -/

theorem scanText_cons_escape {read rest rest' : List Char} {c : Char}
    (h : scanEscape rest = .ok (c, rest')) :
    scanText read ('\\' :: rest) = scanText (c :: read) rest' := by
  rw [scanText]
  split
  · simp_all
  · simp_all

theorem scanText_cons_plain {read rest : List Char} {c : Char} (hp : 0x20 ≤ c.toNat)
    (hq : c ≠ '"') (hb : c ≠ '\\') : scanText read (c :: rest) = scanText (c :: read) rest := by
  rw [scanText.eq_4 _ _ _ hq hb, if_neg (by omega)]

theorem SpellsChar.scanText {c : Char} {s : List Char} (h : SpellsChar c s)
    (read rest : List Char) :
    scanText read (s ++ rest) = scanText (c :: read) rest := by
  cases h with
  | plain hp hq hb => exact scanText_cons_plain hp hq hb
  | short h =>
    obtain ⟨he, hu⟩ := shortEscape?_of_mem h
    exact scanText_cons_escape (by simp [scanEscape, he])
  | unit hc h =>
    obtain ⟨t, rfl, ht⟩ := h.scanFourDigits hc
    exact scanText_cons_escape (scanEscape_unit hc (ht rest))
  | pair hc high low =>
    obtain ⟨s, rfl, hs⟩ := high.scanFourDigits (highUnit_lt c)
    obtain ⟨t, rfl, ht⟩ := low.scanFourDigits (lowUnit_lt c)
    have hs' := hs ('\\' :: 'u' :: (t ++ rest))
    simpa using scanText_cons_escape (scanEscape_pair hc hs' (ht rest))

theorem SpellsChars.scanText {cs s : List Char} (h : SpellsChars cs s) (read rest : List Char) :
    scanText read (s ++ '"' :: rest) = .ok (read.reverse ++ cs, rest) := by
  induction h generalizing read with
  | nil => simp [Json.scanText]
  | cons head _ ih => rw [List.append_assoc, head.scanText, ih]; simp

/-! ## Numbers -/

/-- A text that does not go on with a character of a number. -/
def EndsNumber (rest : List Char) : Prop :=
  ∀ c ∈ rest.head?, c.isDigit = false ∧ c ≠ '.' ∧ c ≠ 'e' ∧ c ≠ 'E'

theorem endsNumber_nil : EndsNumber [] := by simp [EndsNumber]

theorem endsNumber_cons {c : Char} {s : List Char} (hd : c.isDigit = false) (hp : c ≠ '.')
    (he : c ≠ 'e') (hE : c ≠ 'E') : EndsNumber (c :: s) := by
  simp [EndsNumber, hd, hp, he, hE]

/-- A text whose first character is no digit. -/
def EndsDigits (rest : List Char) : Prop := ∀ c ∈ rest.head?, c.isDigit = false

theorem EndsNumber.endsDigits {rest : List Char} (h : EndsNumber rest) : EndsDigits rest :=
  fun c hc => (h c hc).1

theorem takeWhile_digits {digits rest : List Char} (hd : ∀ c ∈ digits, c.isDigit = true)
    (hr : EndsDigits rest) : (digits ++ rest).takeWhile Char.isDigit = digits := by
  rw [List.takeWhile_append_of_pos hd]
  cases rest with
  | nil => simp
  | cons c rest => simp [hr c (by simp)]

theorem dropWhile_digits {digits rest : List Char} (hd : ∀ c ∈ digits, c.isDigit = true)
    (hr : EndsDigits rest) : (digits ++ rest).dropWhile Char.isDigit = rest := by
  rw [List.dropWhile_append_of_pos hd]
  cases rest with
  | nil => simp
  | cons c rest => simp [hr c (by simp)]

theorem scanWhole_digits {n : Numeral} (hn : n.WellFormed) (ending : Cause) {rest : List Char}
    (hr : EndsDigits rest) : scanWhole ending (n.whole ++ rest) = .ok (n.whole, rest) := by
  cases hw : n.whole with
  | nil => exact absurd hw hn.nonempty
  | cons d ds =>
    have hd := hn.digits
    rw [hw] at hd
    by_cases hz : d = '0'
    · have hds : ds = [] := by simpa [hw, hz] using hn.leading (by simp [hw, hz])
      subst hz hds
      cases rest with
      | nil => rfl
      | cons c rest => simp [scanWhole, hr c (by simp)]
    · have hds : ∀ c ∈ ds, c.isDigit = true := fun c hc => hd c (by simp [hc])
      simp [scanWhole, hd d (by simp), takeWhile_digits hds hr, dropWhile_digits hds hr]

theorem scanFraction_digits {fraction : List Char} (hf : ∀ c ∈ fraction, c.isDigit = true)
    (ending : Cause) {rest : List Char} (hr : EndsDigits rest) (hp : rest.head? ≠ some '.') :
    scanFraction ending ((if fraction.isEmpty then [] else '.' :: fraction) ++ rest) =
      .ok (fraction, rest) := by
  cases hc : fraction with
  | nil =>
    cases rest with
    | nil => rfl
    | cons c rest =>
      have hc : c ≠ '.' := by simpa using hp
      simp [scanFraction, hc]
  | cons d ds =>
    rw [hc] at hf
    have ht := takeWhile_digits hf hr
    have hw := dropWhile_digits hf hr
    rw [List.cons_append] at ht hw
    simp [scanFraction, ht, hw]

theorem scanExponentDigits_digits {digits : List Char} (hn : digits ≠ [])
    (hd : ∀ c ∈ digits, c.isDigit = true) (ending : Cause) (mark : Char) (sign : Option Char)
    {rest : List Char} (hr : EndsDigits rest) :
    scanExponentDigits ending mark sign (digits ++ rest) =
      .ok (some ⟨mark, sign, digits⟩, rest) := by
  cases hc : digits with
  | nil => exact absurd hc hn
  | cons d ds =>
    rw [hc] at hd
    have hds : ∀ c ∈ ds, c.isDigit = true := fun c hc => hd c (by simp [hc])
    simp [scanExponentDigits, hd d (by simp), takeWhile_digits hds hr, dropWhile_digits hds hr]

theorem scanExponent_chars {e : Exponent} (he : e.WellFormed) (ending : Cause) {rest : List Char}
    (hr : EndsDigits rest) : scanExponent ending (e.chars ++ rest) = .ok (some e, rest) := by
  obtain ⟨mark, sign, digits⟩ := e
  have hm : mark = 'e' ∨ mark = 'E' := he.mark
  have hd := scanExponentDigits_digits he.nonempty he.digits ending mark
  rcases he.sign with hs | hs | hs
  · obtain ⟨d, ds, hds⟩ := List.exists_cons_of_ne_nil he.nonempty
    dsimp only at hs hds
    subst hs hds
    have hdig : d.isDigit = true := he.digits d (by simp)
    have hplus : d ≠ '+' := by rintro rfl; exact absurd hdig (by decide)
    have hminus : d ≠ '-' := by rintro rfl; exact absurd hdig (by decide)
    simpa [scanExponent, Exponent.chars, hm, hplus, hminus] using hd none hr
  · dsimp only at hs
    subst hs
    simpa [scanExponent, Exponent.chars, hm] using hd (some '+') hr
  · dsimp only at hs
    subst hs
    simpa [scanExponent, Exponent.chars, hm] using hd (some '-') hr

/-- What stands after the digits before the point cannot be taken for more of them. -/
theorem endsDigits_exponent {n : Numeral} (hn : n.WellFormed) {rest : List Char}
    (hr : EndsNumber rest) :
    EndsDigits ((n.exponent.map Exponent.chars).getD [] ++ rest) ∧
      ((n.exponent.map Exponent.chars).getD [] ++ rest).head? ≠ some '.' := by
  cases he : n.exponent with
  | none => exact ⟨hr.endsDigits, fun h => (hr '.' (by simpa using h)).2.1 rfl⟩
  | some e =>
    have hm := (hn.exponent e (by simp [he])).mark
    constructor
    · intro c hc
      obtain rfl : e.mark = c := by simpa [Exponent.chars] using hc
      rcases hm with h | h <;> rw [h] <;> decide
    · simp only [Option.map_some, Option.getD_some, Exponent.chars, List.cons_append,
        List.head?_cons, ne_eq, Option.some.injEq]
      rcases hm with h | h <;> rw [h] <;> decide

theorem scanUnsigned_chars {n : Numeral} (hn : n.WellFormed) (ending : Cause) (negative : Bool)
    {rest : List Char} (hr : EndsNumber rest) :
    scanUnsigned ending negative
      (n.whole ++ ((if n.fraction.isEmpty then [] else '.' :: n.fraction) ++
        ((n.exponent.map Exponent.chars).getD [] ++ rest))) =
      .ok ({ n with negative := negative }, rest) := by
  obtain ⟨hdig, hpoint⟩ := endsDigits_exponent hn hr
  have hfrac : EndsDigits ((if n.fraction.isEmpty then [] else '.' :: n.fraction) ++
      ((n.exponent.map Exponent.chars).getD [] ++ rest)) := by
    split
    · exact hdig
    · intro c hc
      obtain rfl : '.' = c := by simpa using hc
      decide
  have hexp : scanExponent ending ((n.exponent.map Exponent.chars).getD [] ++ rest) =
      .ok (n.exponent, rest) := by
    cases he : n.exponent with
    | none =>
      cases rest with
      | nil => rfl
      | cons c rest =>
        obtain ⟨-, -, hc, hC⟩ := hr c (by simp)
        simp [scanExponent, hc, hC]
    | some e => exact scanExponent_chars (hn.exponent e (by simp [he])) ending hr.endsDigits
  simp only [scanUnsigned, scanWhole_digits hn ending hfrac,
    scanFraction_digits hn.fraction ending hdig hpoint, hexp, bind, Except.bind, pure, Except.pure]

/-- A number begins with a minus or a digit. -/
theorem Numeral.WellFormed.exists_cons {n : Numeral} (hn : n.WellFormed) :
    ∃ c s, n.chars = c :: s ∧ (c = '-' ∨ c.isDigit = true) := by
  obtain ⟨d, ds, hd⟩ := List.exists_cons_of_ne_nil hn.nonempty
  cases hneg : n.negative with
  | false =>
    refine ⟨d, _, by simp [Numeral.chars, hneg, hd]; rfl, .inr (hn.digits d (by simp [hd]))⟩
  | true => exact ⟨'-', _, by simp [Numeral.chars, hneg]; rfl, .inl rfl⟩

/-- The first character of a number is none that is neither a minus nor a digit. -/
theorem ne_of_begins_number {c d : Char} (hc : c = '-' ∨ c.isDigit = true) (hm : d ≠ '-')
    (hd : d.isDigit = false) : c ≠ d := by
  rintro rfl
  rcases hc with h | h
  · exact hm h
  · exact absurd h (by simp [hd])

theorem scanNumeral_chars {n : Numeral} (hn : n.WellFormed) (ending : Cause) {rest : List Char}
    (hr : EndsNumber rest) : scanNumeral ending (n.chars ++ rest) = .ok (n, rest) := by
  obtain ⟨negative, whole, fraction, exponent⟩ := n
  cases negative with
  | true => simpa [Numeral.chars, scanNumeral] using scanUnsigned_chars hn ending true hr
  | false =>
    have h := scanUnsigned_chars hn ending false hr
    obtain ⟨d, ds, hd⟩ := List.exists_cons_of_ne_nil hn.nonempty
    dsimp only at hd
    subst hd
    have hdig : d.isDigit = true := hn.digits d (by simp)
    have hminus : d ≠ '-' := by rintro rfl; exact absurd hdig (by decide)
    simpa [Numeral.chars, scanNumeral, hminus] using h

/-! ## Values of numbers -/

/-- Digits are gathered to the end exactly when their value fits 64 bits. -/
theorem gather_eq (digits : List Char) (value : Nat) (hv : value < UInt64.size) :
    (Nat.ofDigitChars 10 digits value < UInt64.size →
      gather value digits = (Nat.ofDigitChars 10 digits value, [])) ∧
    (UInt64.size ≤ Nat.ofDigitChars 10 digits value → (gather value digits).2 ≠ []) := by
  induction digits generalizing value with
  | nil => exact ⟨fun _ => by simp [gather], fun h => by simp at h; omega⟩
  | cons d digits ih =>
    rw [Nat.ofDigitChars_cons, gather, Nat.mul_comm]
    by_cases hn : value * 10 + (d.toNat - '0'.toNat) < UInt64.size
    · simpa only [if_pos hn] using ih _ hn
    · have := Text.le_ofDigitChars digits (value * 10 + (d.toNat - '0'.toNat))
      simp only [if_neg hn]
      exact ⟨fun h => by omega, fun _ => by simp⟩

theorem double_not_natural (n : Numeral) (k : Nat) : n.double ≠ .ok (.natural k) := by
  intro h
  simp only [Numeral.double] at h
  split at h
  · split at h <;> simp at h
  · split at h
    · split at h <;> simp at h
    · split at h <;> simp at h

/-- A numeral has a natural number for its value exactly when it is written with digits alone and
fits 64 bits. -/
theorem value_eq_natural_iff (n : Numeral) (k : Nat) :
    n.value = .ok (.natural k) ↔
      n.negative = false ∧ n.fraction = [] ∧ n.exponent = none ∧
        Nat.ofDigitChars 10 n.whole 0 = k ∧ k < UInt64.size := by
  obtain ⟨hfit, hover⟩ := gather_eq n.whole 0 (by decide)
  -- every other numeral is rounded to a double, and a double is never taken for a natural number
  by_cases hplain : n.fraction = [] ∧ n.exponent = none ∧
      Nat.ofDigitChars 10 n.whole 0 < UInt64.size
  · obtain ⟨hf, he, hlt⟩ := hplain
    cases hneg : n.negative with
    | false =>
      simp only [Numeral.value, hfit hlt, hf, he, hneg, List.isEmpty_nil, Option.isNone_none,
        and_self, Bool.false_eq_true, not_false_eq_true, if_true, Except.ok.injEq,
        Number.natural.injEq, true_and]
      exact ⟨fun h => ⟨h, by omega⟩, fun h => h.1⟩
    | true =>
      simp only [Numeral.value, hfit hlt, hf, he, hneg, List.isEmpty_nil, Option.isNone_none,
        and_self, not_true_eq_false, if_false, if_true, Bool.true_eq_false, false_and, iff_false]
      split <;> simp
  · have hdouble : n.value = n.double := by
      rw [Numeral.value]
      refine if_neg fun h => hplain ?_
      obtain ⟨hd, hf, he⟩ := h
      refine ⟨by simpa using hf, by simpa using he, ?_⟩
      exact Nat.lt_of_not_le fun hle => hover hle (by simpa using hd)
    rw [hdouble]
    refine ⟨fun h => absurd h (double_not_natural n k), ?_⟩
    rintro ⟨-, hf, he, hk, hlt⟩
    exact absurd ⟨hf, he, by omega⟩ hplain

end PolicyStore.Json
