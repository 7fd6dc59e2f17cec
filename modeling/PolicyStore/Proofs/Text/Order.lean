import Mathlib.Algebra.Group.Nat.Defs
import PolicyStore.Text.Bytes

/-!
# The order of texts and the order of their bytes

Texts are compared character by character here, and a store may compare their encodings byte by byte
instead. The two orders are one, and a text starts with another just when its bytes do. For at the
first place where the encodings of two characters differ, the larger character has the larger byte.
-/

namespace PolicyStore.Text

/-! ## Characters -/

/-- The number of bytes that follow the first one in the encoding of a code point. -/
def followers (v : Nat) : Nat :=
  if v ≤ 127 then 0 else if v ≤ 2047 then 1 else if v ≤ 65535 then 2 else 3

/-- What the first byte says of the number of bytes that follow it. -/
def marker : Nat → Nat
  | 0 => 0
  | 1 => 192
  | 2 => 224
  | _ => 240

/-- The first byte in the encoding of a code point. -/
def leadByte (v : Nat) : Nat := marker (followers v) + v / 64 ^ followers v

/-- The last digits of a code point to the base 64, a byte each. -/
def following : Nat → Nat → List UInt8
  | 0, _ => []
  | n + 1, v => UInt8.ofNat (v / 64 ^ n % 64 + 128) :: following n v

/-- The four ranges of code points. -/
theorem followers_cases (v : Nat) :
    v ≤ 127 ∧ followers v = 0 ∨ 127 < v ∧ v ≤ 2047 ∧ followers v = 1 ∨
      2047 < v ∧ v ≤ 65535 ∧ followers v = 2 ∨ 65535 < v ∧ followers v = 3 := by
  unfold followers
  by_cases h1 : v ≤ 127
  · rw [if_pos h1]
    omega
  rw [if_neg h1]
  by_cases h2 : v ≤ 2047
  · rw [if_pos h2]
    omega
  rw [if_neg h2]
  by_cases h3 : v ≤ 65535
  · rw [if_pos h3]
    omega
  · rw [if_neg h3]
    omega

theorem toNat_lt_limit (c : Char) : c.val.toNat < 1114112 := by
  have hvalid := c.valid
  unfold UInt32.isValidChar Nat.isValidChar at hvalid
  omega

theorem utf8EncodeChar_eq (c : Char) :
    String.utf8EncodeChar c =
      UInt8.ofNat (leadByte c.val.toNat) :: following (followers c.val.toNat) c.val.toNat := by
  have hlimit := toNat_lt_limit c
  unfold String.utf8EncodeChar leadByte
  generalize c.val.toNat = v at hlimit ⊢
  dsimp only
  rcases followers_cases v with ⟨h1, hn⟩ | ⟨h1, h2, hn⟩ | ⟨h2, h3, hn⟩ | ⟨h3, hn⟩
  · rw [hn, if_pos h1]
    simp [marker, following]
  · have hdigit : v / 64 % 32 = v / 64 := Nat.mod_eq_of_lt (by omega)
    rw [hn, if_neg (by omega), if_pos h2, hdigit]
    simp [marker, following, Nat.add_comm]
  · have hdigit : v / 4096 % 16 = v / 4096 := Nat.mod_eq_of_lt (by omega)
    rw [hn, if_neg (by omega), if_neg (by omega), if_pos h3, hdigit]
    simp [marker, following, Nat.add_comm]
  · have hdigit : v / 262144 % 8 = v / 262144 := Nat.mod_eq_of_lt (by omega)
    rw [hn, if_neg (by omega), if_neg (by omega), if_neg (by omega), hdigit]
    simp [marker, following, Nat.add_comm]

/-- The first bytes of encodings of different lengths do not overlap. -/
theorem leadByte_cases (v : Nat) :
    followers v = 0 ∧ leadByte v < 128 ∨ followers v = 1 ∧ 192 ≤ leadByte v ∧ leadByte v < 224 ∨
      followers v = 2 ∧ 224 ≤ leadByte v ∧ leadByte v < 240 ∨
      followers v = 3 ∧ 240 ≤ leadByte v := by
  unfold leadByte
  rcases followers_cases v with ⟨h1, hn⟩ | ⟨h1, h2, hn⟩ | ⟨h2, h3, hn⟩ | ⟨h3, hn⟩ <;>
    rw [hn, marker] <;> omega

theorem leadByte_lt_size {v : Nat} (hlimit : v < 1114112) : leadByte v < 256 := by
  unfold leadByte
  rcases followers_cases v with ⟨h1, hn⟩ | ⟨h1, h2, hn⟩ | ⟨h2, h3, hn⟩ | ⟨h3, hn⟩ <;>
    rw [hn, marker] <;> omega

theorem followers_le {v w : Nat} (h : v < w) : followers v ≤ followers w := by
  have hv := followers_cases v
  have hw := followers_cases w
  omega

/-- Of two code points the larger one has the larger first byte, or the first bytes say the same. -/
theorem leadByte_lt_or {v w : Nat} (h : v < w) :
    leadByte v < leadByte w ∨ leadByte v = leadByte w ∧ followers v = followers w ∧
      v / 64 ^ followers w = w / 64 ^ followers w := by
  have hle := followers_le h
  by_cases hn : followers v = followers w
  · have hquot : v / 64 ^ followers w ≤ w / 64 ^ followers w :=
      Nat.div_le_div_right (Nat.le_of_lt h)
    unfold leadByte
    rw [hn]
    omega
  · have hv := leadByte_cases v
    have hw := leadByte_cases w
    omega

theorem following_lt {n v w : Nat} (h : v < w) (hsame : v / 64 ^ n = w / 64 ^ n)
    (more rest : List UInt8) : following n v ++ more < following n w ++ rest := by
  induction n with
  | zero =>
    rw [Nat.pow_zero, Nat.div_one, Nat.div_one] at hsame
    omega
  | succ n ih =>
    -- the numbers without their last n digits differ in the next digit at most
    have hdigit : v / 64 ^ n / 64 = w / 64 ^ n / 64 := by
      rw [Nat.div_div_eq_div_mul, Nat.div_div_eq_div_mul, ← Nat.pow_succ]
      exact hsame
    have hle : v / 64 ^ n ≤ w / 64 ^ n := Nat.div_le_div_right (Nat.le_of_lt h)
    unfold following
    rw [List.cons_append, List.cons_append, List.cons_lt_cons_iff]
    by_cases heq : v / 64 ^ n = w / 64 ^ n
    · exact .inr ⟨by rw [heq], ih heq⟩
    · refine .inl ?_
      rw [UInt8.lt_iff_toNat_lt, UInt8.toNat_ofNat', UInt8.toNat_ofNat']
      omega

/-- Of two characters the larger one has the larger encoding, whatever follows. -/
theorem utf8EncodeChar_lt {c d : Char} (h : c < d) (more rest : List UInt8) :
    String.utf8EncodeChar c ++ more < String.utf8EncodeChar d ++ rest := by
  have hlt : c.val.toNat < d.val.toNat := UInt32.lt_iff_toNat_lt.mp (Char.lt_def.mp h)
  have hbyte := leadByte_lt_size (toNat_lt_limit d)
  rw [utf8EncodeChar_eq, utf8EncodeChar_eq, List.cons_append, List.cons_append,
    List.cons_lt_cons_iff]
  rcases leadByte_lt_or hlt with hlead | ⟨hlead, hfollowers, hsame⟩
  · refine .inl ?_
    rw [UInt8.lt_iff_toNat_lt, UInt8.toNat_ofNat', UInt8.toNat_ofNat']
    omega
  · rw [hlead, hfollowers]
    exact .inr ⟨rfl, following_lt hlt hsame more rest⟩

/-! ## Texts -/

variable {s t : List Char}

theorem utf8_cons (c : Char) (s : List Char) : utf8 (c :: s) = String.utf8EncodeChar c ++ utf8 s :=
  List.flatMap_cons

theorem utf8_lt (h : s < t) : utf8 s < utf8 t := by
  induction s generalizing t with
  | nil =>
    cases t with
    | nil => exact absurd h (List.not_lt_nil [])
    | cons d t =>
      rw [utf8_cons, utf8EncodeChar_eq]
      exact List.nil_lt_cons _ _
  | cons c s ih =>
    cases t with
    | nil => exact absurd h (List.not_lt_nil _)
    | cons d t =>
      rw [utf8_cons, utf8_cons]
      rcases List.cons_lt_cons_iff.mp h with hchar | ⟨rfl, hrest⟩
      · exact utf8EncodeChar_lt hchar _ _
      · exact List.append_left_lt (ih hrest)

/-- The order of texts is the order of their bytes. -/
theorem utf8_lt_iff : utf8 s < utf8 t ↔ s < t := by
  constructor
  · intro h
    by_cases hst : s < t
    · exact hst
    by_cases hts : t < s
    · exact absurd h (List.lt_asymm (utf8_lt hts))
    · have hsame : s = t := List.le_antisymm hts hst
      rw [hsame] at h
      exact absurd h (List.lt_irrefl _)
  · exact utf8_lt

/-- A text starts with another one just when its bytes do. -/
theorem utf8_prefix_iff : utf8 s <+: utf8 t ↔ s <+: t := by
  constructor
  · intro h
    induction s generalizing t with
    | nil => exact List.nil_prefix
    | cons c s ih =>
      rw [utf8_cons] at h
      obtain ⟨more, hmore⟩ := h
      cases t with
      | nil =>
        rw [utf8EncodeChar_eq] at hmore
        cases hmore
      | cons d t =>
        rw [utf8_cons, List.append_assoc] at hmore
        -- encodings that are equal with what follows are not in order
        have hcd : ¬c < d := by
          intro hlt
          have hbytes := utf8EncodeChar_lt hlt (utf8 s ++ more) (utf8 t)
          rw [hmore] at hbytes
          exact List.lt_irrefl _ hbytes
        have hdc : ¬d < c := by
          intro hlt
          have hbytes := utf8EncodeChar_lt hlt (utf8 t) (utf8 s ++ more)
          rw [hmore] at hbytes
          exact List.lt_irrefl _ hbytes
        have hsame : c = d := Char.le_antisymm (Char.not_lt.mp hdc) (Char.not_lt.mp hcd)
        rw [hsame] at hmore ⊢
        have hrest : utf8 s ++ more = utf8 t := List.append_cancel_left hmore
        exact (List.prefix_cons_inj d).mpr (ih ⟨more, hrest⟩)
  · rintro ⟨more, rfl⟩
    rw [utf8, utf8, List.flatMap_append]
    exact List.prefix_append _ _

end PolicyStore.Text
