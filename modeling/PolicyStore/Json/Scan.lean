import PolicyStore.Json.Fault
import PolicyStore.Text.Hex

/-!
# Tokens of a JSON text

Scanners take a token from the front of a text and leave the rest. A scanner that succeeds has
consumed at least one character; the `_length` lemmas say so, and the readers built on the scanners
end because of them.
-/

namespace PolicyStore.Json

/-- The characters that may stand between tokens. -/
def isGap (c : Char) : Bool :=
  c == ' ' || c == '\n' || c == '\t' || c == '\r'

def afterGap (s : List Char) : List Char :=
  s.dropWhile isGap

theorem length_dropWhile_le {α : Type} (p : α → Bool) (s : List α) :
    (s.dropWhile p).length ≤ s.length :=
  (List.dropWhile_sublist p).length_le

theorem afterGap_length (s : List Char) : (afterGap s).length ≤ s.length :=
  length_dropWhile_le isGap s

theorem afterGap_cons_length {s rest : List Char} {c : Char} (h : afterGap s = c :: rest) :
    rest.length < s.length := by
  have := afterGap_length s
  rw [h, List.length_cons] at this
  omega

def scanWord : List Char → List Char → Except Fault (List Char)
  | [], s => .ok s
  | _ :: _, [] => .error (.here .endInValue [])
  | w :: word, c :: s =>
    if c = w then scanWord word s else .error (.peek .literalBroken (c :: s))

theorem scanWord_length {word s r : List Char} (h : scanWord word s = .ok r) :
    r.length ≤ s.length := by
  induction word generalizing s with
  | nil => simp only [scanWord, Except.ok.injEq] at h; simp [h]
  | cons w word ih =>
    cases s with
    | nil => simp [scanWord] at h
    | cons c s =>
      simp only [scanWord] at h
      split at h
      · have := ih h; simp only [List.length_cons]; omega
      · simp at h

/-! ## Escapes -/

def fourDigits? (a b c d : Char) : Option Nat := do
  let a ← Text.hexValue? a
  let b ← Text.hexValue? b
  let c ← Text.hexValue? c
  let d ← Text.hexValue? d
  return ((a * 16 + b) * 16 + c) * 16 + d

/-- Takes the four digits of a numeric escape; four bytes have to be there to be looked at. -/
def scanFourDigits (s : List Char) : Except Fault (Nat × List Char) :=
  match s with
  | a :: b :: c :: d :: rest =>
    match fourDigits? a b c d with
    | some n => .ok (n, rest)
    | none => .error ⟨.invalidEscape, s, 4⟩
  | _ => if 4 ≤ Text.byteLength s then .error ⟨.invalidEscape, s, 4⟩ else .error (.here .endInText [])

theorem scanFourDigits_length {s r : List Char} {n : Nat} (h : scanFourDigits s = .ok (n, r)) :
    r.length < s.length := by
  unfold scanFourDigits at h
  split at h
  · split at h
    · simp only [Except.ok.injEq, Prod.mk.injEq] at h
      simp only [← h.2, List.length_cons]; omega
    · simp at h
  · split at h <;> simp at h

/-- The character that a backslash and `c` stand for, where that is a single letter or sign. -/
def shortEscape? (c : Char) : Option Char :=
  if c = '"' ∨ c = '\\' ∨ c = '/' then some c
  else if c = 'b' then some '\x08'
  else if c = 'f' then some '\x0c'
  else if c = 'n' then some '\n'
  else if c = 'r' then some '\r'
  else if c = 't' then some '\t'
  else none

def isHighSurrogate (n : Nat) : Bool := 0xD800 ≤ n && n ≤ 0xDBFF

def isLowSurrogate (n : Nat) : Bool := 0xDC00 ≤ n && n ≤ 0xDFFF

def joinSurrogates (high low : Nat) : Char :=
  Char.ofNat ((high - 0xD800) * 0x400 + (low - 0xDC00) + 0x10000)

def scanLowSurrogate (high : Nat) : List Char → Except Fault (Char × List Char)
  | [] => .error (.here .endInText [])
  | '\\' :: [] => .error (.here .endInText [])
  | '\\' :: 'u' :: rest =>
    match scanFourDigits rest with
    | .error fault => .error fault
    | .ok (low, rest) =>
      if isLowSurrogate low then .ok (joinSurrogates high low, rest)
      else .error (.here .loneSurrogate rest)
  | '\\' :: rest => .error (.peek .surrogatePairBroken rest)
  | rest => .error (.peek .surrogatePairBroken rest)

theorem scanLowSurrogate_length {high : Nat} {s r : List Char} {c : Char}
    (h : scanLowSurrogate high s = .ok (c, r)) : r.length < s.length := by
  unfold scanLowSurrogate at h
  split at h
  · simp at h
  · simp at h
  · split at h
    · simp at h
    · rename_i hd
      have := scanFourDigits_length hd
      split at h
      · simp only [Except.ok.injEq, Prod.mk.injEq] at h
        simp only [← h.2, List.length_cons]; omega
      · simp at h
  · simp at h
  · simp at h

/-- Takes an escape after its backslash, as the character it stands for. Surrogates have to come in
pairs. -/
def scanEscape : List Char → Except Fault (Char × List Char)
  | [] => .error (.here .endInText [])
  | 'u' :: rest =>
    match scanFourDigits rest with
    | .error fault => .error fault
    | .ok (n, rest) =>
      if isLowSurrogate n then .error (.here .loneSurrogate rest)
      else if isHighSurrogate n then scanLowSurrogate n rest
      else .ok (Char.ofNat n, rest)
  | c :: rest =>
    match shortEscape? c with
    | some meant => .ok (meant, rest)
    | none => .error (.peek .invalidEscape (c :: rest))

theorem scanEscape_length {s r : List Char} {c : Char} (h : scanEscape s = .ok (c, r)) :
    r.length < s.length := by
  unfold scanEscape at h
  split at h
  · simp at h
  · split at h
    · simp at h
    · rename_i hd
      have := scanFourDigits_length hd
      split at h
      · simp at h
      · split at h
        · have := scanLowSurrogate_length h
          simp only [List.length_cons]; omega
        · simp only [Except.ok.injEq, Prod.mk.injEq] at h
          simp only [← h.2, List.length_cons]; omega
  · split at h
    · simp only [Except.ok.injEq, Prod.mk.injEq] at h
      simp only [← h.2, List.length_cons]; omega
    · simp at h

/-- Passes over an escape after its backslash. What a numeric escape stands for does not matter. -/
def skipEscape : List Char → Except Fault (List Char)
  | [] => .error (.here .endInText [])
  | 'u' :: rest => (scanFourDigits rest).map (·.2)
  | c :: rest =>
    match shortEscape? c with
    | some _ => .ok rest
    | none => .error (.peek .invalidEscape (c :: rest))

theorem skipEscape_length {s r : List Char} (h : skipEscape s = .ok r) : r.length < s.length := by
  unfold skipEscape at h
  split at h
  · simp at h
  · rename_i rest
    cases hd : scanFourDigits rest with
    | error fault => simp [hd, Except.map] at h
    | ok p =>
      have := scanFourDigits_length (n := p.1) (r := p.2) hd
      simp only [hd, Except.map, Except.ok.injEq] at h
      simp only [← h, List.length_cons]; omega
  · split at h
    · simp only [Except.ok.injEq] at h
      simp [h]
    · simp at h

/-! ## Strings -/

/-- Takes a string after its opening quote; `read` holds the characters so far, last one first. A
control character is taken before it is refused. -/
def scanText (read : List Char) (s : List Char) : Except Fault (List Char × List Char) :=
  match s with
  | [] => .error (.here .endInText [])
  | '"' :: rest => .ok (read.reverse, rest)
  | '\\' :: rest =>
    match h : scanEscape rest with
    | .error fault => .error fault
    | .ok (c, rest') =>
      have : rest'.length < rest.length := scanEscape_length h
      scanText (c :: read) rest'
  | c :: rest =>
    if c.toNat < 0x20 then .error (.here .controlCharacter rest)
    else scanText (c :: read) rest
termination_by s.length

theorem scanText_length {read s t r : List Char} (h : scanText read s = .ok (t, r)) :
    r.length < s.length := by
  fun_induction scanText read s with
  | case1 => simp at h
  | case2 read rest =>
    simp only [Except.ok.injEq, Prod.mk.injEq] at h
    simp [h.2]
  | case3 => simp at h
  | case4 read rest c rest' he hl ih =>
    have := ih h
    simp only [List.length_cons]; omega
  | case5 => simp at h
  | case6 read c rest _ _ _ ih =>
    have := ih h
    simp only [List.length_cons]; omega

/-- Passes over a string after its opening quote. A control character is refused where it stands. -/
def skipText (s : List Char) : Except Fault (List Char) :=
  match s with
  | [] => .error (.here .endInText [])
  | '"' :: rest => .ok rest
  | '\\' :: rest =>
    match h : skipEscape rest with
    | .error fault => .error fault
    | .ok rest' =>
      have : rest'.length < rest.length := skipEscape_length h
      skipText rest'
  | c :: rest =>
    if c.toNat < 0x20 then .error (.here .controlCharacter (c :: rest))
    else skipText rest
termination_by s.length

theorem skipText_length {s r : List Char} (h : skipText s = .ok r) : r.length < s.length := by
  fun_induction skipText s with
  | case1 => simp at h
  | case2 rest =>
    simp only [Except.ok.injEq] at h
    simp [h]
  | case3 => simp at h
  | case4 rest rest' he hl ih =>
    have := ih h
    simp only [List.length_cons]; omega
  | case5 => simp at h
  | case6 c rest _ _ _ ih =>
    have := ih h
    simp only [List.length_cons]; omega

end PolicyStore.Json
