import PolicyStore.Proofs.Json.Grammar
import PolicyStore.Proofs.Json.Scanning

/-!
# Passing over values

The skipper keeps a stack of open lists and objects and looks at no tree, yet it ends exactly where a
value ends, whatever is nested in it and whether or not its strings stand for anything. The induction
is on the grammar; the frames that are open around the value are arbitrary.
-/

namespace PolicyStore.Json

/-! ## The first character of a value -/

theorem isGap_not_number {c : Char} (h : isGap c = true) :
    c.isDigit = false ∧ c ≠ '.' ∧ c ≠ 'e' ∧ c ≠ 'E' := by
  simp only [isGap, Bool.or_eq_true, beq_iff_eq] at h
  rcases h with ((rfl | rfl) | rfl) | rfl <;> decide

namespace Grammar

/-- A value begins with a character that is neither a gap nor a sign between values. -/
theorem Value.exists_cons {s : List Char} (h : Value s) :
    ∃ c r, s = c :: r ∧ isGap c = false ∧ c ≠ ']' ∧ c ≠ '}' := by
  cases h with
  | null => exact ⟨'n', _, rfl, by decide⟩
  | flag value => cases value <;> exact ⟨_, _, rfl, by decide⟩
  | number hn =>
    obtain ⟨c, r, hs, hc⟩ := hn.exists_cons
    refine ⟨c, r, hs, ?_⟩
    rcases hc with rfl | hc
    · decide
    · refine ⟨?_, ?_, ?_⟩
      · cases hg : isGap c with
        | false => rfl
        | true => exact absurd (isGap_not_number hg).1 (by simp [hc])
      · rintro rfl; exact absurd hc (by decide)
      · rintro rfl; exact absurd hc (by decide)
  | quoted ht => cases ht; exact ⟨'"', _, rfl, by decide⟩
  | emptyList => exact ⟨'[', _, rfl, by decide⟩
  | list => exact ⟨'[', _, rfl, by decide⟩
  | emptyObject => exact ⟨'{', _, rfl, by decide⟩
  | object => exact ⟨'{', _, rfl, by decide⟩

/-- The gap before a value is passed over. -/
theorem Value.afterGap {gap s : List Char} (h : Value s) (hg : IsGap gap) (rest : List Char) :
    afterGap (gap ++ (s ++ rest)) = s ++ rest := by
  obtain ⟨c, r, rfl, hc, -⟩ := h.exists_cons
  exact afterGap_append_cons hg hc _

theorem Member.exists_cons {s : List Char} (h : Member s) : ∃ r, s = '"' :: r := by
  cases h with
  | colon hk => cases hk; exact ⟨_, rfl⟩

end Grammar

/-- A spelling begins as a value does. -/
theorem Spells.exists_cons {t : Tree} {s : List Char} (h : Spells t s) :
    ∃ c r, s = c :: r ∧ isGap c = false ∧ c ≠ ']' ∧ c ≠ '}' :=
  (Grammar.Value.of_spelled h).exists_cons

/-- The gap before a spelling is passed over. -/
theorem afterGap_spells {gap s : List Char} {t : Tree} (hg : IsGap gap) (h : Spells t s)
    (rest : List Char) : afterGap (gap ++ (s ++ rest)) = s ++ rest :=
  (Grammar.Value.of_spelled h).afterGap hg rest

/-! ## What follows a value -/

/-- A gap does not go on with a number, nor does what follows it unless that itself does. -/
theorem endsNumber_append {gap rest : List Char} (hg : IsGap gap) (hr : EndsNumber rest) :
    EndsNumber (gap ++ rest) := by
  cases gap with
  | nil => exact hr
  | cons c gap =>
    obtain ⟨hd, hp, he, hE⟩ := isGap_not_number (hg c (by simp))
    exact endsNumber_cons hd hp he hE

theorem endsNumber_comma (s : List Char) : EndsNumber (',' :: s) :=
  endsNumber_cons (by decide) (by decide) (by decide) (by decide)

theorem endsNumber_bracket (s : List Char) : EndsNumber (']' :: s) :=
  endsNumber_cons (by decide) (by decide) (by decide) (by decide)

theorem endsNumber_brace (s : List Char) : EndsNumber ('}' :: s) :=
  endsNumber_cons (by decide) (by decide) (by decide) (by decide)

theorem Grammar.Items.endsNumber {s : List Char} (h : Grammar.Items s) (rest : List Char) :
    EndsNumber (s ++ rest) := by
  cases h with
  | nil hg => simpa using endsNumber_append hg (endsNumber_bracket rest)
  | cons hb => simpa using endsNumber_append hb (endsNumber_comma _)

theorem Grammar.Members.endsNumber {s : List Char} (h : Grammar.Members s) (rest : List Char) :
    EndsNumber (s ++ rest) := by
  cases h with
  | nil hg => simpa using endsNumber_append hg (endsNumber_brace rest)
  | cons hb => simpa using endsNumber_append hb (endsNumber_comma _)

theorem SpellsItems.endsNumber {items : List Tree} {s : List Char} (h : SpellsItems items s)
    (rest : List Char) : EndsNumber (s ++ rest) :=
  (Grammar.Items.of_spelled h).endsNumber rest

theorem SpellsMembers.endsNumber {members : List (String × Tree)} {s : List Char}
    (h : SpellsMembers members s) (rest : List Char) : EndsNumber (s ++ rest) :=
  (Grammar.Members.of_spelled h).endsNumber rest

/-! ## The steps of the skipper -/

variable {frames : List Frame} {s rest after : List Char} {c : Char}

theorem skipFrom_due (frames : List Frame) (s : List Char) :
    skipFrom .due frames s =
      match afterGap s with
      | [] => .error (.here .endInValue [])
      | c :: rest =>
        if c = '[' then skipFrom (.opened .list) frames rest
        else if c = '{' then skipFrom (.opened .object) frames rest
        else
          match skipScalar (c :: rest) with
          | .error fault => .error fault
          | .ok after => skipFrom .ended frames after := by
  -- the unfolded skipper remembers of what each match is, so the cases are taken on its side first
  conv => lhs; rw [skipFrom]
  split
  next h => simp only [h]
  next c rest h =>
    simp only [h]
    split
    · rfl
    split
    · rfl
    split <;> next hs => simp only [hs]

theorem skipFrom_opened (frame : Frame) (frames : List Frame) (s : List Char) :
    skipFrom (.opened frame) frames s =
      match afterGap s with
      | [] => .error (.here frame.ending [])
      | c :: rest =>
        if c = frame.closer then skipFrom .ended frames rest
        else
          match frame with
          | .list => skipFrom .due (.list :: frames) (c :: rest)
          | .object =>
            match skipKey (c :: rest) with
            | .error fault => .error fault
            | .ok after => skipFrom .due (.object :: frames) after := by
  conv => lhs; rw [skipFrom]
  split
  next h => simp only [h]
  next c rest h =>
    simp only [h]
    split
    · rfl
    cases frame with
    | list => rfl
    | object =>
      dsimp only
      split <;> next hk => simp only [hk]

theorem skipFrom_ended (frame : Frame) (frames : List Frame) (s : List Char) :
    skipFrom .ended (frame :: frames) s =
      match afterGap s with
      | [] => .error (.here frame.ending [])
      | c :: rest =>
        if c = frame.closer then skipFrom .ended frames rest
        else if c = ',' then
          match frame with
          | .list => skipFrom .due (.list :: frames) rest
          | .object =>
            match skipKey rest with
            | .error fault => .error fault
            | .ok after => skipFrom .due (.object :: frames) after
        else .error (.peek frame.separatorDue (c :: rest)) := by
  conv => lhs; rw [skipFrom]
  split
  next h => simp only [h]
  next c rest h =>
    simp only [h]
    split
    · rfl
    split
    · cases frame with
      | list => rfl
      | object =>
        dsimp only
        split <;> next hk => simp only [hk]
    · rfl

theorem skipFrom_due_scalar (hg : afterGap s = c :: rest) (hl : c ≠ '[') (ho : c ≠ '{')
    (hs : skipScalar (c :: rest) = .ok after) :
    skipFrom .due frames s = skipFrom .ended frames after := by
  simp [skipFrom_due, hg, hl, ho, hs]

theorem skipFrom_due_list (hg : afterGap s = '[' :: rest) :
    skipFrom .due frames s = skipFrom (.opened .list) frames rest := by
  simp [skipFrom_due, hg]

theorem skipFrom_due_object (hg : afterGap s = '{' :: rest) :
    skipFrom .due frames s = skipFrom (.opened .object) frames rest := by
  simp [skipFrom_due, hg]

theorem skipFrom_opened_close {frame : Frame} (hg : afterGap s = frame.closer :: rest) :
    skipFrom (.opened frame) frames s = skipFrom .ended frames rest := by
  simp [skipFrom_opened, hg]

theorem skipFrom_opened_item (hg : afterGap s = c :: rest) (hc : c ≠ ']') :
    skipFrom (.opened .list) frames s = skipFrom .due (.list :: frames) (c :: rest) := by
  simp [skipFrom_opened, hg, Frame.closer, hc]

theorem skipFrom_opened_member (hg : afterGap s = c :: rest) (hc : c ≠ '}')
    (hk : skipKey (c :: rest) = .ok after) :
    skipFrom (.opened .object) frames s = skipFrom .due (.object :: frames) after := by
  simp [skipFrom_opened, hg, Frame.closer, hc, hk]

theorem skipFrom_ended_close {frame : Frame} (hg : afterGap s = frame.closer :: rest) :
    skipFrom .ended (frame :: frames) s = skipFrom .ended frames rest := by
  simp [skipFrom_ended, hg]

theorem skipFrom_ended_item (hg : afterGap s = ',' :: rest) :
    skipFrom .ended (.list :: frames) s = skipFrom .due (.list :: frames) rest := by
  simp [skipFrom_ended, hg, Frame.closer]

theorem skipFrom_ended_member (hg : afterGap s = ',' :: rest) (hk : skipKey rest = .ok after) :
    skipFrom .ended (.object :: frames) s = skipFrom .due (.object :: frames) after := by
  simp [skipFrom_ended, hg, Frame.closer, hk]

/-! ## Strings -/

theorem hexValue?_isSome_iff {c : Char} :
    (Text.hexValue? c).isSome = true ↔ Grammar.IsHex c := by
  have hdigit : c.isDigit = true ↔ '0' ≤ c ∧ c ≤ '9' := by
    rw [Char.isDigit, Bool.and_eq_true, decide_eq_true_eq, decide_eq_true_eq]
    exact Iff.rfl
  rw [Grammar.IsHex, ← hdigit, Text.hexValue?]
  split
  next h => simp [h]
  next h =>
    split
    next hlower => simp [hlower]
    next hlower => split <;> simp [*]

theorem scanFourDigits_numeric {a b c d : Char} (ha : Grammar.IsHex a)
    (hb : Grammar.IsHex b) (hc : Grammar.IsHex c) (hd : Grammar.IsHex d)
    (rest : List Char) : ∃ n, scanFourDigits (a :: b :: c :: d :: rest) = .ok (n, rest) := by
  obtain ⟨a', ha⟩ := Option.isSome_iff_exists.mp (hexValue?_isSome_iff.mpr ha)
  obtain ⟨b', hb⟩ := Option.isSome_iff_exists.mp (hexValue?_isSome_iff.mpr hb)
  obtain ⟨c', hc⟩ := Option.isSome_iff_exists.mp (hexValue?_isSome_iff.mpr hc)
  obtain ⟨d', hd⟩ := Option.isSome_iff_exists.mp (hexValue?_isSome_iff.mpr hd)
  refine ⟨((a' * 16 + b') * 16 + c') * 16 + d', ?_⟩
  simp [scanFourDigits, fourDigits?, ha, hb, hc, hd]

theorem skipText_cons_escape {rest rest' : List Char} (h : skipEscape rest = .ok rest') :
    skipText ('\\' :: rest) = skipText rest' := by
  rw [skipText]
  split <;> simp_all

theorem skipEscape_short {letter : Char} (h : letter ∈ Grammar.escapeLetters) (rest : List Char) :
    skipEscape (letter :: rest) = .ok rest := by
  simp only [Grammar.escapeLetters, List.mem_cons, List.not_mem_nil, or_false] at h
  rcases h with rfl | rfl | rfl | rfl | rfl | rfl | rfl | rfl <;> rfl

namespace Grammar

theorem Character.skipText {s : List Char} (h : Character s) (rest : List Char) :
    skipText (s ++ rest) = Json.skipText rest := by
  cases h with
  | plain hp hq hb => exact (Json.skipText.eq_4 _ _ hq hb).trans (if_neg (by omega))
  | short h => exact skipText_cons_escape (skipEscape_short h rest)
  | numeric ha hb hc hd =>
    obtain ⟨n, hn⟩ := scanFourDigits_numeric ha hb hc hd rest
    exact skipText_cons_escape (by simp [skipEscape, hn, Except.map])

theorem Characters.skipText {s : List Char} (h : Characters s) (rest : List Char) :
    Json.skipText (s ++ '"' :: rest) = .ok rest := by
  induction h with
  | nil => simp [Json.skipText]
  | cons head _ ih => rw [List.append_assoc, head.skipText, ih]

/-! ## Values -/

theorem Quoted.skipScalar {s : List Char} (h : Quoted s) (rest : List Char) :
    Json.skipScalar (s ++ rest) = .ok rest := by
  cases h with
  | quoted h => simpa [Json.skipScalar] using h.skipText rest

end Grammar

theorem skipScalar_number {n : Numeral} (hn : n.WellFormed) {rest : List Char}
    (hr : EndsNumber rest) : skipScalar (n.chars ++ rest) = .ok rest := by
  obtain ⟨c, r, hs, hc⟩ := hn.exists_cons
  have hscan := scanNumeral_chars hn .invalidNumber hr
  rw [hs, List.cons_append] at hscan ⊢
  have hne {d : Char} (hm : d ≠ '-') (hd : d.isDigit = false) : c ≠ d :=
    ne_of_begins_number hc hm hd
  rw [skipScalar.eq_5 _ (by simp [hne]) (by simp [hne]) (by simp [hne]) (by simp [hne])]
  simp [hc, hscan, Except.map]

/-- A number does not begin with a character that is neither a minus nor a digit. -/
theorem Numeral.WellFormed.head?_ne {n : Numeral} (hn : n.WellFormed) {d : Char} (hm : d ≠ '-')
    (hd : d.isDigit = false) : n.chars.head? ≠ some d := by
  obtain ⟨c, r, hs, hc⟩ := hn.exists_cons
  simpa [hs] using ne_of_begins_number hc hm hd

theorem scanColon_spelled {before : List Char} (hb : IsGap before) (rest : List Char) :
    scanColon (before ++ ':' :: rest) = .ok rest := by
  rw [scanColon, afterGap_append_cons hb (by decide)]
  rfl

namespace Grammar

/-- A value without items is passed over by the scanner of its kind. -/
theorem Value.skipFrom_scalar {s gap rest : List Char} (h : Value s) (hg : IsGap gap)
    (hs : Json.skipScalar (s ++ rest) = .ok rest)
    (hc : s.head? ≠ some '[' ∧ s.head? ≠ some '{') (frames : List Frame) :
    Json.skipFrom .due frames (gap ++ (s ++ rest)) = Json.skipFrom .ended frames rest := by
  obtain ⟨c, r, rfl, -⟩ := h.exists_cons
  exact skipFrom_due_scalar (h.afterGap hg rest) (by simpa using hc.1) (by simpa using hc.2) hs

theorem Quoted.skipKey {k gap before : List Char} (hk : Quoted k) (hg : IsGap gap)
    (hb : IsGap before) (rest : List Char) :
    Json.skipKey (gap ++ (k ++ (before ++ ':' :: rest))) = .ok rest := by
  cases hk with
  | quoted h =>
    simp only [List.cons_append, List.append_assoc, List.nil_append]
    rw [Json.skipKey, afterGap_append_cons hg (by decide)]
    simp only [h.skipText, scanColon_spelled hb]

mutual

/-- After a value the skipper stands right behind it, with the same frames open. -/
theorem Value.skipFrom {s : List Char} (h : Value s) {gap rest : List Char} (hg : IsGap gap)
    (hr : Bracketed s ∨ EndsNumber rest) (frames : List Frame) :
    Json.skipFrom .due frames (gap ++ (s ++ rest)) = Json.skipFrom .ended frames rest := by
  match h with
  | .null => exact Value.null.skipFrom_scalar hg (scanWord_append _ rest) (by decide) frames
  | .flag value =>
    have hs : skipScalar (flagChars value ++ rest) = .ok rest := by
      cases value <;> exact scanWord_append _ rest
    exact (Value.flag value).skipFrom_scalar hg hs (by cases value <;> decide) frames
  | .number hn =>
    have hl : _ ≠ some '[' := hn.head?_ne (by decide) (by decide)
    have ho : _ ≠ some '{' := hn.head?_ne (by decide) (by decide)
    have hends := hr.resolve_left fun hbracket => hbracket.elim hl ho
    exact (Value.number hn).skipFrom_scalar hg (skipScalar_number hn hends) ⟨hl, ho⟩ frames
  | .quoted ht =>
    refine (Value.quoted ht).skipFrom_scalar hg (ht.skipScalar rest) ?_ frames
    cases ht
    simp
  | .emptyList hi =>
    simp only [List.cons_append, List.append_assoc, List.nil_append]
    rw [skipFrom_due_list (afterGap_append_cons hg (by decide) _)]
    exact skipFrom_opened_close (afterGap_append_cons hi (by decide) rest)
  | .list hi first others =>
    -- no comma stands before the first item, so it is passed over as a value of its own
    have hitem := first.skipFrom isGap_nil (.inr (others.endsNumber rest)) (.list :: frames)
    have hitems := others.skipFrom rest frames
    obtain ⟨c, r, rfl, -, hc, -⟩ := first.exists_cons
    have hopen := first.afterGap hi
    simp only [List.cons_append, List.append_assoc, List.nil_append] at hopen hitem ⊢
    rw [skipFrom_due_list (afterGap_append_cons hg (by decide) _),
      skipFrom_opened_item (hopen _) hc, hitem, hitems]
  | .emptyObject hi =>
    simp only [List.cons_append, List.append_assoc, List.nil_append]
    rw [skipFrom_due_object (afterGap_append_cons hg (by decide) _)]
    exact skipFrom_opened_close (afterGap_append_cons hi (by decide) rest)
  | .object hi first others =>
    obtain ⟨after, hk, hmember⟩ := first.skipFrom isGap_nil (others.endsNumber rest) frames
    have hmembers := others.skipFrom rest frames
    obtain ⟨r, rfl⟩ := first.exists_cons
    simp only [List.cons_append, List.append_assoc, List.nil_append] at hk ⊢
    rw [skipFrom_due_object (afterGap_append_cons hg (by decide) _),
      skipFrom_opened_member (afterGap_append_cons hi (by decide) _) (by decide) hk, hmember,
      hmembers]

theorem Items.skipFrom {s : List Char} (h : Items s) (rest : List Char) (frames : List Frame) :
    Json.skipFrom .ended (.list :: frames) (s ++ rest) = Json.skipFrom .ended frames rest := by
  match h with
  | .nil hg =>
    simp only [List.cons_append, List.append_assoc, List.nil_append]
    exact skipFrom_ended_close (afterGap_append_cons hg (by decide) rest)
  | .cons hb ha head tail =>
    simp only [List.cons_append, List.append_assoc]
    rw [skipFrom_ended_item (afterGap_append_cons hb (by decide) _),
      head.skipFrom ha (.inr (tail.endsNumber rest)), tail.skipFrom]

theorem Member.skipFrom {s : List Char} (h : Member s) {gap rest : List Char} (hg : IsGap gap)
    (hr : EndsNumber rest) (frames : List Frame) :
    ∃ after, skipKey (gap ++ (s ++ rest)) = .ok after ∧
      Json.skipFrom .due (.object :: frames) after =
        Json.skipFrom .ended (.object :: frames) rest := by
  match h with
  | .colon hk hb ha hv =>
    simp only [List.cons_append, List.append_assoc]
    exact ⟨_, hk.skipKey hg hb _, hv.skipFrom ha (.inr hr) (.object :: frames)⟩

theorem Members.skipFrom {s : List Char} (h : Members s) (rest : List Char) (frames : List Frame) :
    Json.skipFrom .ended (.object :: frames) (s ++ rest) = Json.skipFrom .ended frames rest := by
  match h with
  | .nil hg =>
    simp only [List.cons_append, List.append_assoc, List.nil_append]
    exact skipFrom_ended_close (afterGap_append_cons hg (by decide) rest)
  | .cons hb ha head tail =>
    obtain ⟨after, hk, hmember⟩ := head.skipFrom ha (tail.endsNumber rest) frames
    simp only [List.cons_append, List.append_assoc]
    rw [skipFrom_ended_member (afterGap_append_cons hb (by decide) _) hk, hmember, tail.skipFrom]

end

/-- Passing over a value leaves what follows it, which must not go on with a number if the value is
one. -/
theorem Value.skipValue {s : List Char} (h : Value s) {gap rest : List Char} (hg : IsGap gap)
    (hr : Bracketed s ∨ EndsNumber rest) : Json.skipValue (gap ++ (s ++ rest)) = .ok rest := by
  rw [Json.skipValue, h.skipFrom hg hr, Json.skipFrom]

end Grammar

/-- Passing over a spelled value leaves what follows it. -/
theorem Spells.skipValue {t : Tree} {s : List Char} (h : Spells t s) {gap rest : List Char}
    (hg : IsGap gap) (hr : EndsNumber rest) : skipValue (gap ++ (s ++ rest)) = .ok rest :=
  (Grammar.Value.of_spelled h).skipValue hg (.inr hr)

end PolicyStore.Json
