import PolicyStore.Text.Blank
import PolicyStore.Text.Numeral

/-!
# Decimal text read back

Reading the decimal text of a number gives the number, as long as it stays within the bound. The
text of a signed number has no blanks, so trimming leaves it as it is.
-/

namespace PolicyStore.Text

/-! ## Digits -/

theorem le_ofDigitChars (digits : List Char) (value : Nat) :
    value ≤ Nat.ofDigitChars 10 digits value := by
  induction digits generalizing value with
  | nil => simp
  | cons d digits ih =>
    have := ih (10 * value + (d.toNat - '0'.toNat))
    rw [Nat.ofDigitChars_cons]
    omega

/-- Digits whose value stays within the bound are read as that value. -/
theorem readDigits_digits {bound : Nat} {digits : List Char}
    (hdigits : ∀ c ∈ digits, c.isDigit = true) {value : Nat}
    (hbound : Nat.ofDigitChars 10 digits value ≤ bound) :
    readDigits bound value digits = .ok (Nat.ofDigitChars 10 digits value) := by
  induction digits generalizing value with
  | nil => rfl
  | cons c digits ih =>
    obtain ⟨hc, hdigits⟩ := List.forall_mem_cons.mp hdigits
    rw [Nat.ofDigitChars_cons, Nat.mul_comm] at hbound ⊢
    -- what has been read on the way is no more than what is read in the end
    have hfirst := le_ofDigitChars digits (value * 10 + (c.toNat - '0'.toNat))
    rw [readDigits, digitValue?, if_pos hc]
    dsimp only
    rw [if_pos (Nat.le_trans hfirst hbound), ih hdigits hbound]

theorem isDigit_of_mem_toDigits {n : Nat} : ∀ c ∈ Nat.toDigits 10 n, c.isDigit = true :=
  fun _ hc => Nat.isDigit_of_mem_toDigits (by decide) (by decide) hc

theorem readMagnitude_toDigits {bound n : Nat} (h : n ≤ bound) :
    readMagnitude bound (Nat.toDigits 10 n) = .ok n := by
  have hvalue : Nat.ofDigitChars 10 (Nat.toDigits 10 n) 0 = n := Nat.ofDigitChars_ten_toDigits
  have hread : readDigits bound 0 (Nat.toDigits 10 n) = .ok n := by
    rw [readDigits_digits isDigit_of_mem_toDigits (by rw [hvalue]; exact h), hvalue]
  obtain ⟨c, digits, hcons⟩ := List.exists_cons_of_ne_nil (Nat.toDigits_ne_nil (n := n) (b := 10))
  rw [hcons] at hread ⊢
  exact hread

/-! ## Signed numbers -/

/-- The decimal text of a number: its digits, after a minus sign when it is negative. -/
theorem toList_toString_int64 (n : Int64) :
    (toString n).toList =
      if 0 ≤ n.toInt then Nat.toDigits 10 n.toInt.natAbs
      else '-' :: Nat.toDigits 10 n.toInt.natAbs := by
  change (toString n.toInt).toList = _
  cases n.toInt with
  | ofNat m => simp [toString, Int.repr]
  | negSucc m => simp [toString, Int.repr]

theorem readInt64_digits {digits : List Char} (h : ∀ c ∈ digits, c.isDigit = true) :
    readInt64 digits = (readMagnitude (Int64.size / 2 - 1) digits).map Int64.ofNat := by
  cases digits with
  | nil => rfl
  | cons c digits =>
    have hc := h c List.mem_cons_self
    have hplus : c ≠ '+' := by rintro rfl; exact absurd hc (by decide)
    have hminus : c ≠ '-' := by rintro rfl; exact absurd hc (by decide)
    rw [readInt64] <;> simp [hplus, hminus]

theorem readInt64_toString (n : Int64) : readInt64 (toString n).toList = .ok n := by
  have hlow := n.le_toInt
  have hhigh := n.toInt_lt
  rw [toList_toString_int64]
  split
  next hn =>
    have hfits : n.toInt.natAbs ≤ Int64.size / 2 - 1 := by
      simp only [Int64.size]
      omega
    rw [readInt64_digits isDigit_of_mem_toDigits, readMagnitude_toDigits hfits]
    refine congrArg Except.ok (Int64.toInt.inj ?_)
    rw [Int64.toInt_ofNat_of_lt (by omega)]
    omega
  next hn =>
    have hfits : n.toInt.natAbs ≤ Int64.size / 2 := by
      simp only [Int64.size]
      omega
    rw [readInt64, readMagnitude_toDigits hfits]
    have hneg : -(n.toInt.natAbs : Int) = n.toInt := by omega
    refine congrArg Except.ok ?_
    dsimp only
    rw [hneg, Int64.ofInt_toInt]

/-! ## Blanks -/

theorem trim_of_not_blank {s : List Char} (h : ∀ c ∈ s, isBlank c = false) : trim s = s := by
  have hkeep : ∀ t : List Char, (∀ c ∈ t, isBlank c = false) → t.dropWhile isBlank = t := by
    intro t ht
    cases t with
    | nil => rfl
    | cons c t => rw [List.dropWhile_cons, if_neg (by simp [ht c List.mem_cons_self])]
  rw [trim, hkeep s h, hkeep s.reverse fun c hc => h c (List.mem_reverse.mp hc), List.reverse_reverse]

theorem isBlank_of_isDigit {c : Char} (h : c.isDigit = true) : isBlank c = false := by
  simp only [Char.isDigit, Bool.and_eq_true, decide_eq_true_eq] at h
  have hlow : 48 ≤ c.toNat := h.1
  have hhigh : c.toNat ≤ 57 := h.2
  simp only [isBlank, Bool.or_eq_false_iff, Bool.and_eq_false_iff, decide_eq_false_iff_not,
    beq_eq_false_iff_ne]
  omega

theorem trim_toString_int64 (n : Int64) : trim (toString n).toList = (toString n).toList := by
  refine trim_of_not_blank fun c hc => ?_
  have hdigit : ∀ d ∈ Nat.toDigits 10 n.toInt.natAbs, isBlank d = false :=
    fun d hd => isBlank_of_isDigit (isDigit_of_mem_toDigits d hd)
  rw [toList_toString_int64] at hc
  split at hc
  · exact hdigit c hc
  · rcases List.mem_cons.mp hc with rfl | hc
    · decide
    · exact hdigit c hc

/-! ## Bytes -/

theorem utf8ByteSize_of_ascii {s : List Char} (h : ∀ c ∈ s, c.utf8Size = 1) :
    (String.ofList s).utf8ByteSize = s.length := by
  induction s with
  | nil => rfl
  | cons c s ih =>
    obtain ⟨hc, hs⟩ := List.forall_mem_cons.mp h
    rw [← List.singleton_append, String.ofList_append, String.utf8ByteSize_append, ih hs,
      ← String.singleton_eq_ofList, String.utf8ByteSize_singleton, hc, List.length_append]
    rfl

theorem utf8Size_of_isDigit {c : Char} (h : c.isDigit = true) : c.utf8Size = 1 := by
  simp only [Char.isDigit, Bool.and_eq_true, decide_eq_true_eq] at h
  have hhigh : c.val ≤ 57 := h.2
  rw [Char.utf8Size, if_pos (UInt32.le_trans hhigh (by decide))]

/-- A signed 64-bit number takes a sign and nineteen digits at most. -/
theorem utf8ByteSize_toString_int64 (n : Int64) : (toString n).utf8ByteSize ≤ 20 := by
  have hlow := n.le_toInt
  have hhigh := n.toInt_lt
  have hdigits : (Nat.toDigits 10 n.toInt.natAbs).length ≤ 19 :=
    (Nat.length_toDigits_le_iff (by decide) (by decide)).mpr (by omega)
  have hascii : ∀ c ∈ Nat.toDigits 10 n.toInt.natAbs, c.utf8Size = 1 :=
    fun c hc => utf8Size_of_isDigit (isDigit_of_mem_toDigits c hc)
  rw [← String.ofList_toList (s := toString n), toList_toString_int64]
  split
  · rw [utf8ByteSize_of_ascii hascii]
    omega
  · rw [utf8ByteSize_of_ascii (List.forall_mem_cons.mpr ⟨by decide, hascii⟩), List.length_cons]
    omega

end PolicyStore.Text
