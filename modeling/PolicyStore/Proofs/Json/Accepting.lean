import PolicyStore.Proofs.Json.Skipping

/-!
# What scanners accept

Whatever a scanner takes from the front of a text is a token of the grammar, and whatever the skipper
passes over is a value. With its stack of open lists and objects the skipper has gone part of the way
through a value: `Closes` says what is left of the way, and each step of the skipper goes along it.
-/

namespace PolicyStore.Json

open Grammar

variable {s r rest : List Char}

theorem exists_of_map_eq_ok {ε α β : Type} {result : Except ε α} {f : α → β} {b : β}
    (h : result.map f = .ok b) : ∃ a, result = .ok a ∧ f a = b := by
  cases result with
  | error e => cases h
  | ok a => exact ⟨a, rfl, Except.ok.inj h⟩

/-! ## Gaps and words -/

theorem exists_gap (s : List Char) : ∃ gap, IsGap gap ∧ s = gap ++ afterGap s :=
  ⟨s.takeWhile isGap, List.all_eq_true.mp List.all_takeWhile,
    List.takeWhile_append_dropWhile.symm⟩

theorem exists_gap_of_eq (h : afterGap s = rest) : ∃ gap, IsGap gap ∧ s = gap ++ rest :=
  h ▸ exists_gap s

theorem isGap_append {gap more : List Char} (hg : IsGap gap) (hm : IsGap more) :
    IsGap (gap ++ more) :=
  List.forall_mem_append.mpr ⟨hg, hm⟩

theorem scanWord_takes {word : List Char} (h : scanWord word s = .ok r) : s = word ++ r := by
  induction word generalizing s with
  | nil => exact Except.ok.inj h
  | cons w word ih =>
    cases s with
    | nil => cases h
    | cons c s =>
      rw [scanWord] at h
      split at h
      next hc => rw [hc, ih h, List.cons_append]
      next => cases h

/-! ## Strings -/

theorem fourDigits?_takes {a b c d : Char} {n : Nat} (h : fourDigits? a b c d = some n) :
    IsHex a ∧ IsHex b ∧ IsHex c ∧ IsHex d := by
  simp only [fourDigits?, Option.bind_eq_bind, Option.bind_eq_some_iff] at h
  obtain ⟨_, ha, _, hb, _, hc, _, hd, -⟩ := h
  exact ⟨hexValue?_isSome_iff.mp (Option.isSome_of_eq_some ha),
    hexValue?_isSome_iff.mp (Option.isSome_of_eq_some hb),
    hexValue?_isSome_iff.mp (Option.isSome_of_eq_some hc),
    hexValue?_isSome_iff.mp (Option.isSome_of_eq_some hd)⟩

theorem scanFourDigits_takes {n : Nat} (h : scanFourDigits s = .ok (n, r)) :
    ∃ digits, Character ('\\' :: 'u' :: digits) ∧ s = digits ++ r := by
  rw [scanFourDigits.eq_def] at h
  split at h
  next a b c d rest =>
    split at h
    next m hm =>
      obtain ⟨-, rfl⟩ := Prod.mk.inj (Except.ok.inj h)
      obtain ⟨ha, hb, hc, hd⟩ := fourDigits?_takes hm
      exact ⟨[a, b, c, d], .numeric ha hb hc hd, rfl⟩
    next => cases h
  next => split at h <;> cases h

theorem shortEscape?_takes {c meant : Char} (h : shortEscape? c = some meant) :
    Character ['\\', c] := by
  refine .short ?_
  simp only [shortEscape?] at h
  simp only [escapeLetters, List.mem_cons]
  grind

theorem scanLowSurrogate_takes {high : Nat} {c : Char} (h : scanLowSurrogate high s = .ok (c, r)) :
    ∃ low, Character low ∧ s = low ++ r := by
  rw [scanLowSurrogate.eq_def] at h
  split at h
  next => cases h
  next => cases h
  next rest =>
    split at h
    next => cases h
    next low after hlow =>
      split at h
      next =>
        obtain ⟨-, rfl⟩ := Prod.mk.inj (Except.ok.inj h)
        obtain ⟨digits, hdigits, rfl⟩ := scanFourDigits_takes hlow
        exact ⟨_, hdigits, rfl⟩
      next => cases h
  next => cases h
  next => cases h

theorem scanEscape_takes {c : Char} (h : scanEscape s = .ok (c, r)) :
    ∃ escape, Characters ('\\' :: escape) ∧ s = escape ++ r := by
  rw [scanEscape.eq_def] at h
  split at h
  next => cases h
  next rest =>
    split at h
    next => cases h
    next n after hn =>
      obtain ⟨digits, hdigits, rfl⟩ := scanFourDigits_takes hn
      split at h
      next => cases h
      next =>
        split at h
        next =>
          obtain ⟨low, hlow, rfl⟩ := scanLowSurrogate_takes h
          exact ⟨'u' :: (digits ++ low), .cons hdigits (.singleton hlow), by simp⟩
        next =>
          obtain ⟨-, rfl⟩ := Prod.mk.inj (Except.ok.inj h)
          exact ⟨'u' :: digits, .singleton hdigits, rfl⟩
  next letter rest hletter =>
    split at h
    next meant hmeant =>
      obtain ⟨-, rfl⟩ := Prod.mk.inj (Except.ok.inj h)
      exact ⟨[letter], .singleton (shortEscape?_takes hmeant), rfl⟩
    next => cases h

theorem skipEscape_takes (h : skipEscape s = .ok r) :
    ∃ escape, Characters ('\\' :: escape) ∧ s = escape ++ r := by
  rw [skipEscape.eq_def] at h
  split at h
  next => cases h
  next rest =>
    obtain ⟨⟨n, after⟩, hscan, rfl⟩ := exists_of_map_eq_ok h
    obtain ⟨digits, hdigits, rfl⟩ := scanFourDigits_takes hscan
    exact ⟨'u' :: digits, .singleton hdigits, rfl⟩
  next letter rest hletter =>
    split at h
    next meant hmeant =>
      obtain rfl := Except.ok.inj h
      exact ⟨[letter], .singleton (shortEscape?_takes hmeant), rfl⟩
    next => cases h

/-- A string without its quotes, of which the first part has been taken. -/
theorem characters_escape {escape t : List Char} (he : Characters ('\\' :: escape))
    (ht : ∃ v, Characters v ∧ t = v ++ '"' :: r) :
    ∃ v, Characters v ∧ '\\' :: (escape ++ t) = v ++ '"' :: r := by
  obtain ⟨v, hv, rfl⟩ := ht
  exact ⟨_, he.append hv, by simp⟩

theorem characters_plain {c : Char} {t : List Char} (hc : ¬c.toNat < 0x20) (hq : c ≠ '"')
    (hb : c ≠ '\\') (ht : ∃ v, Characters v ∧ t = v ++ '"' :: r) :
    ∃ v, Characters v ∧ c :: t = v ++ '"' :: r := by
  obtain ⟨v, hv, rfl⟩ := ht
  exact ⟨_, .cons (.plain (Nat.le_of_not_lt hc) hq hb) hv, rfl⟩

theorem scanText_takes {read t : List Char} (h : scanText read s = .ok (t, r)) :
    ∃ v, Characters v ∧ s = v ++ '"' :: r := by
  fun_induction scanText read s with
  | case1 => cases h
  | case2 read rest =>
    obtain ⟨-, rfl⟩ := Prod.mk.inj (Except.ok.inj h)
    exact ⟨[], .nil, rfl⟩
  | case3 => cases h
  | case4 read rest c after hescape hlength ih =>
    obtain ⟨escape, he, rfl⟩ := scanEscape_takes hescape
    exact characters_escape he (ih h)
  | case5 => cases h
  | case6 read c rest hq hb hc ih =>
    exact characters_plain hc hq hb (ih h)

theorem skipText_takes (h : skipText s = .ok r) : ∃ v, Characters v ∧ s = v ++ '"' :: r := by
  fun_induction skipText s with
  | case1 => cases h
  | case2 rest =>
    obtain rfl := Except.ok.inj h
    exact ⟨[], .nil, rfl⟩
  | case3 => cases h
  | case4 rest after hescape hlength ih =>
    obtain ⟨escape, he, rfl⟩ := skipEscape_takes hescape
    exact characters_escape he (ih h)
  | case5 => cases h
  | case6 c rest hq hb hc ih =>
    exact characters_plain hc hq hb (ih h)

/-! ## Numbers -/

theorem digits_takeWhile (s : List Char) : ∀ c ∈ s.takeWhile Char.isDigit, c.isDigit = true :=
  List.all_eq_true.mp List.all_takeWhile

/-- What stands before the point: digits, of which the first is no zero unless it is the only one. -/
structure IsWhole (whole : List Char) : Prop where
  nonempty : whole ≠ []
  digits : ∀ c ∈ whole, c.isDigit = true
  leading : whole.head? = some '0' → whole = ['0']

theorem scanWhole_takes {ending : Cause} {whole : List Char}
    (h : scanWhole ending s = .ok (whole, r)) : IsWhole whole ∧ s = whole ++ r := by
  have hzero : IsWhole ['0'] := ⟨by simp, by simp, fun _ => rfl⟩
  rw [scanWhole.eq_def] at h
  split at h
  next => cases h
  next rest =>
    split at h
    next =>
      obtain ⟨rfl, rfl⟩ := Prod.mk.inj (Except.ok.inj h)
      exact ⟨hzero, rfl⟩
    next c more =>
      split at h
      next => cases h
      next =>
        obtain ⟨rfl, rfl⟩ := Prod.mk.inj (Except.ok.inj h)
        exact ⟨hzero, rfl⟩
  next c rest hc =>
    split at h
    next hdigit =>
      obtain ⟨rfl, rfl⟩ := Prod.mk.inj (Except.ok.inj h)
      refine ⟨⟨by simp, ?_, fun hfirst => ?_⟩, by simp⟩
      · exact List.forall_mem_cons.mpr ⟨hdigit, digits_takeWhile rest⟩
      · exact absurd (Option.some.inj hfirst) hc
    next => cases h

theorem scanFraction_takes {ending : Cause} {fraction : List Char}
    (h : scanFraction ending s = .ok (fraction, r)) :
    (∀ c ∈ fraction, c.isDigit = true) ∧
      s = (if fraction.isEmpty then [] else '.' :: fraction) ++ r := by
  rw [scanFraction.eq_def] at h
  split at h
  next rest =>
    split at h
    next => cases h
    next hsome =>
      obtain ⟨rfl, rfl⟩ := Prod.mk.inj (Except.ok.inj h)
      refine ⟨digits_takeWhile rest, ?_⟩
      rw [if_neg hsome, List.cons_append, List.takeWhile_append_dropWhile]
  next =>
    obtain ⟨rfl, rfl⟩ := Prod.mk.inj (Except.ok.inj h)
    exact ⟨by simp, rfl⟩

theorem scanExponentDigits_takes {ending : Cause} {mark : Char} {sign : Option Char}
    {exponent : Option Exponent} (h : scanExponentDigits ending mark sign s = .ok (exponent, r)) :
    ∃ digits, exponent = some ⟨mark, sign, digits⟩ ∧ digits ≠ [] ∧
      (∀ c ∈ digits, c.isDigit = true) ∧ s = digits ++ r := by
  rw [scanExponentDigits.eq_def] at h
  split at h
  next => cases h
  next c rest =>
    split at h
    next hdigit =>
      obtain ⟨rfl, rfl⟩ := Prod.mk.inj (Except.ok.inj h)
      refine ⟨_, rfl, by simp, ?_, by simp⟩
      exact List.forall_mem_cons.mpr ⟨hdigit, digits_takeWhile rest⟩
    next => cases h

theorem scanExponent_marked {ending : Cause} {mark : Char} {sign : Option Char}
    {exponent : Option Exponent} (hmark : mark = 'e' ∨ mark = 'E')
    (hsign : sign = none ∨ sign = some '+' ∨ sign = some '-')
    (h : scanExponentDigits ending mark sign s = .ok (exponent, r)) :
    (∀ e ∈ exponent, e.WellFormed) ∧
      mark :: (sign.toList ++ s) = (exponent.map Exponent.chars).getD [] ++ r := by
  obtain ⟨digits, rfl, hnonempty, hdigits, rfl⟩ := scanExponentDigits_takes h
  refine ⟨?_, by simp [Exponent.chars]⟩
  rintro e ⟨⟩
  exact ⟨hmark, hsign, hnonempty, hdigits⟩

theorem scanExponent_takes {ending : Cause} {exponent : Option Exponent}
    (h : scanExponent ending s = .ok (exponent, r)) :
    (∀ e ∈ exponent, e.WellFormed) ∧ s = (exponent.map Exponent.chars).getD [] ++ r := by
  rw [scanExponent.eq_def] at h
  split at h
  next =>
    obtain ⟨rfl, rfl⟩ := Prod.mk.inj (Except.ok.inj h)
    exact ⟨by simp, rfl⟩
  next mark rest =>
    split at h
    next hmark =>
      split at h
      next => exact scanExponent_marked hmark (.inr (.inl rfl)) h
      next => exact scanExponent_marked hmark (.inr (.inr rfl)) h
      next => exact scanExponent_marked hmark (.inl rfl) h
    next =>
      obtain ⟨rfl, rfl⟩ := Prod.mk.inj (Except.ok.inj h)
      exact ⟨by simp, rfl⟩

theorem scanUnsigned_takes {ending : Cause} {negative : Bool} {n : Numeral}
    (h : scanUnsigned ending negative s = .ok (n, r)) :
    n.WellFormed ∧ (if negative then ['-'] else []) ++ s = n.chars ++ r := by
  rw [scanUnsigned] at h
  cases hwhole : scanWhole ending s with
  | error fault => simp [hwhole, bind, Except.bind] at h
  | ok first =>
    cases hfraction : scanFraction ending first.2 with
    | error fault => simp [hwhole, hfraction, bind, Except.bind] at h
    | ok second =>
      cases hexponent : scanExponent ending second.2 with
      | error fault => simp [hwhole, hfraction, hexponent, bind, Except.bind] at h
      | ok third =>
        simp only [hwhole, hfraction, hexponent, bind, Except.bind, pure, Except.pure,
          Except.ok.injEq, Prod.mk.injEq] at h
        obtain ⟨rfl, rfl⟩ := h
        obtain ⟨hw, hs⟩ := scanWhole_takes hwhole
        obtain ⟨hf, hfirst⟩ := scanFraction_takes hfraction
        obtain ⟨he, hsecond⟩ := scanExponent_takes hexponent
        refine ⟨⟨hw.nonempty, hw.digits, hw.leading, hf, he⟩, ?_⟩
        rw [hs, hfirst, hsecond, Numeral.chars]
        simp only [List.append_assoc]

theorem scanNumeral_takes {ending : Cause} {n : Numeral} (h : scanNumeral ending s = .ok (n, r)) :
    n.WellFormed ∧ s = n.chars ++ r := by
  rw [scanNumeral.eq_def] at h
  split at h
  next => exact scanUnsigned_takes h
  next => exact scanUnsigned_takes h

/-! ## Scalars, colons and keys -/

theorem quoted_of_characters {t : List Char} (h : ∃ v, Characters v ∧ t = v ++ '"' :: r) :
    ∃ v, Quoted v ∧ '"' :: t = v ++ r := by
  obtain ⟨v, hv, rfl⟩ := h
  exact ⟨_, .quoted hv, by simp⟩

theorem skipScalar_takes (h : skipScalar s = .ok r) : ∃ v, Value v ∧ s = v ++ r := by
  rw [skipScalar.eq_def] at h
  split at h
  next rest => exact ⟨_, .null, by rw [scanWord_takes h]; rfl⟩
  next rest => exact ⟨_, .flag true, by rw [scanWord_takes h]; rfl⟩
  next rest => exact ⟨_, .flag false, by rw [scanWord_takes h]; rfl⟩
  next rest =>
    obtain ⟨v, hv, heq⟩ := quoted_of_characters (skipText_takes h)
    exact ⟨v, .quoted hv, heq⟩
  next =>
    split at h
    next =>
      obtain ⟨⟨n, after⟩, hscan, rfl⟩ := exists_of_map_eq_ok h
      obtain ⟨hwell, heq⟩ := scanNumeral_takes hscan
      exact ⟨_, .number hwell, heq⟩
    next => cases h

theorem scanColon_takes (h : scanColon s = .ok r) : ∃ gap, IsGap gap ∧ s = gap ++ ':' :: r := by
  rw [scanColon] at h
  split at h
  next rest hgap =>
    obtain rfl := Except.ok.inj h
    exact exists_gap_of_eq hgap
  next => cases h
  next => cases h

theorem skipKey_takes (h : skipKey s = .ok r) :
    ∃ gap k before, IsGap gap ∧ Quoted k ∧ IsGap before ∧
      s = gap ++ (k ++ (before ++ ':' :: r)) := by
  rw [skipKey] at h
  split at h
  next rest hgap =>
    split at h
    next => cases h
    next after htext =>
      obtain ⟨gap, hg, rfl⟩ := exists_gap_of_eq hgap
      obtain ⟨k, hk, heq⟩ := quoted_of_characters (skipText_takes htext)
      obtain ⟨before, hb, rfl⟩ := scanColon_takes h
      exact ⟨gap, k, before, hg, hk, hb, by rw [heq]⟩
  next => cases h
  next => cases h

end PolicyStore.Json
