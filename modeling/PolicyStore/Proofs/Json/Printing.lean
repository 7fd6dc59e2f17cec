import PolicyStore.Proofs.Json.Scanning

/-!
# The printer spells its tree

What is written for a tree, without blanks or with one item a line, is one of the spellings of the
tree, provided that its numbers are numbers. The numerals of integers are.
-/

namespace PolicyStore.Json

/-! ## Strings -/

theorem isHexDigit_hexDigit (n : Nat) : IsHexDigit n (Text.hexDigit n) := .inl rfl

theorem hexDigit_zero {n : Nat} (h : n % 16 = 0) : Text.hexDigit n = '0' := by
  rw [Text.hexDigit, h]
  rfl

/-- A control character is written as the escape of its one unit. -/
theorem spellsUnit_control {n : Nat} (h : n < 0x20) :
    SpellsUnit n ['\\', 'u', '0', '0', Text.hexDigit (n / 16), Text.hexDigit n] := by
  have hhigh := isHexDigit_hexDigit (n / 4096)
  have hlow := isHexDigit_hexDigit (n / 256)
  rw [hexDigit_zero (by omega)] at hhigh hlow
  exact .digits hhigh hlow (isHexDigit_hexDigit _) (isHexDigit_hexDigit _)

theorem spellsChar_escapeChar (c : Char) : SpellsChar c (escapeChar c) := by
  unfold escapeChar
  split
  · next h => subst h; exact .short (by decide)
  split
  · next h => subst h; exact .short (by decide)
  split
  · next h => subst h; exact .short (by decide)
  split
  · next h => subst h; exact .short (by decide)
  split
  · next h => subst h; exact .short (by decide)
  split
  · next h => subst h; exact .short (by decide)
  split
  · next h => subst h; exact .short (by decide)
  split
  · next hc => exact .unit (by omega) (spellsUnit_control hc)
  · next hq hb _ _ _ _ _ hc => exact .plain (by omega) hq hb

theorem spellsChars_escapeChar (cs : List Char) : SpellsChars cs (cs.flatMap escapeChar) := by
  induction cs with
  | nil => exact .nil
  | cons c cs ih => exact .cons (spellsChar_escapeChar c) ih

theorem spellsText_textChars (text : String) : SpellsText text (textChars text) :=
  .quoted (spellsChars_escapeChar text.toList)

/-! ## Numbers -/

/-- Decimal digits have no leading zero, zero itself apart. -/
theorem toDigits_leading (n : Nat) :
    (Nat.toDigits 10 n).head? = some '0' → Nat.toDigits 10 n = ['0'] := by
  induction n using Nat.strongRecOn with
  | ind n ih =>
    by_cases h : n < 10
    · rw [Nat.toDigits_of_lt_base h]
      simp
    · rw [Nat.toDigits_of_base_le (by decide) (by omega)]
      intro hzero
      have hhead : (Nat.toDigits 10 (n / 10)).head? = some '0' := by
        rw [List.head?_append, List.head?_eq_some_head Nat.toDigits_ne_nil] at hzero
        rw [List.head?_eq_some_head Nat.toDigits_ne_nil]
        exact hzero
      have hdigits := ih (n / 10) (by omega) hhead
      have hvalue : n / 10 = 0 := by
        rw [← Nat.ofDigitChars_ten_toDigits (n := n / 10), hdigits]
        rfl
      omega

theorem Numeral.wellFormed_digits (negative : Bool) (n : Nat) :
    (⟨negative, Nat.toDigits 10 n, [], none⟩ : Numeral).WellFormed where
  nonempty := Nat.toDigits_ne_nil
  digits _ hc := Nat.isDigit_of_mem_toDigits (by decide) (by decide) hc
  leading := toDigits_leading n
  fraction := by simp
  exponent := by simp

theorem Numeral.wellFormed_ofNat (n : Nat) : (Numeral.ofNat n).WellFormed :=
  wellFormed_digits false n

theorem Numeral.wellFormed_ofInt (n : Int) : (Numeral.ofInt n).WellFormed :=
  wellFormed_digits _ n.natAbs

/-! ## Documents -/

namespace Tree

mutual

/-- Every number of the tree is one. -/
def WellFormed : Tree → Prop
  | .null => True
  | .flag _ => True
  | .number n => n.WellFormed
  | .text _ => True
  | .list items => ItemsWellFormed items
  | .object members => MembersWellFormed members

/-- Every number of a list of trees is one. -/
def ItemsWellFormed : List Tree → Prop
  | [] => True
  | item :: items => item.WellFormed ∧ ItemsWellFormed items

/-- Every number of the values of an object is one. -/
def MembersWellFormed : List (String × Tree) → Prop
  | [] => True
  | member :: members => member.2.WellFormed ∧ MembersWellFormed members

end

theorem itemsWellFormed_iff (items : List Tree) :
    ItemsWellFormed items ↔ ∀ item ∈ items, item.WellFormed := by
  induction items with
  | nil => simp [ItemsWellFormed]
  | cons item items ih => simp [ItemsWellFormed, ih]

theorem membersWellFormed_iff (members : List (String × Tree)) :
    MembersWellFormed members ↔ ∀ member ∈ members, member.2.WellFormed := by
  induction members with
  | nil => simp [MembersWellFormed]
  | cons member members ih => simp [MembersWellFormed, ih]

/-! ### Without blanks -/

theorem spellsMember_compact (key : String) {value : Tree} {s : List Char}
    (hv : Spells value s) : SpellsMember key value (textChars key ++ ':' :: s) :=
  .colon (spellsText_textChars key) isGap_nil isGap_nil hv

mutual

theorem spells_compactChars (tree : Tree) (h : tree.WellFormed) :
    Spells tree tree.compactChars := by
  match tree, h with
  | .null, _ =>
    rw [compactChars]
    exact .null
  | .flag value, _ =>
    rw [compactChars]
    exact .flag value
  | .number n, h =>
    rw [compactChars]
    exact .number h
  | .text value, _ =>
    rw [compactChars]
    exact .text (spellsText_textChars value)
  | .list [], _ =>
    rw [compactChars]
    exact .emptyList isGap_nil
  | .list (item :: items), h =>
    rw [compactChars]
    exact .list isGap_nil (spells_compactChars item h.1) (spellsItems_compactItems items h.2)
  | .object [], _ =>
    rw [compactChars]
    exact .emptyObject isGap_nil
  | .object ((key, value) :: members), h =>
    have hfirst := spellsMember_compact key (spells_compactChars value h.1)
    have hothers := spellsMembers_compactMembers members h.2
    rw [compactChars]
    simpa using Spells.object isGap_nil hfirst hothers

theorem spellsItems_compactItems (items : List Tree) (h : ItemsWellFormed items) :
    SpellsItems items (compactItems items) := by
  match items, h with
  | [], _ =>
    rw [compactItems]
    exact .nil isGap_nil
  | item :: items, h =>
    rw [compactItems]
    exact .cons isGap_nil isGap_nil (spells_compactChars item h.1)
      (spellsItems_compactItems items h.2)

theorem spellsMembers_compactMembers (members : List (String × Tree))
    (h : MembersWellFormed members) :
    SpellsMembers members (compactMembers members) := by
  match members, h with
  | [], _ =>
    rw [compactMembers]
    exact .nil isGap_nil
  | (key, value) :: members, h =>
    have hfirst := spellsMember_compact key (spells_compactChars value h.1)
    have hothers := spellsMembers_compactMembers members h.2
    rw [compactMembers]
    simpa using SpellsMembers.cons isGap_nil isGap_nil hfirst hothers

end

/-- The text without blanks is a document of the tree. -/
theorem spellsDocument_compact (tree : Tree) (h : tree.WellFormed) :
    SpellsDocument tree tree.compact.toList := by
  have hs := SpellsDocument.spaced isGap_nil (spells_compactChars tree h) isGap_nil
  simpa [compact] using hs

theorem newline_ne_hexDigit (n : Nat) : '\n' ≠ Text.hexDigit n := by
  have hdigits : ∀ k < 16, '\n' ≠ Nat.digitChar k := by decide
  exact hdigits _ (Nat.mod_lt n (by decide))

theorem newline_not_mem_escapeChar (c : Char) : '\n' ∉ escapeChar c := by
  by_cases hc : c = '\n'
  · subst hc
    decide
  · unfold escapeChar
    repeat' split
    all_goals simp [Ne.symm hc, newline_ne_hexDigit]

theorem newline_not_mem_textChars (text : String) : '\n' ∉ textChars text := by
  simp [textChars, newline_not_mem_escapeChar]

theorem newline_not_mem_digits {s : List Char} (h : ∀ c ∈ s, c.isDigit = true) : '\n' ∉ s :=
  fun hmem => absurd (h _ hmem) (by decide)

theorem newline_not_mem_exponent {e : Exponent} (h : e.WellFormed) : '\n' ∉ e.chars := by
  have hdigits := newline_not_mem_digits h.digits
  have hmark : '\n' ≠ e.mark := by rcases h.mark with hm | hm <;> rw [hm] <;> decide
  have hsign : '\n' ∉ e.sign.toList := by
    rcases h.sign with hs | hs | hs <;> rw [hs] <;> simp
  simp [Exponent.chars, hmark, hsign, hdigits]

theorem newline_not_mem_numeral {n : Numeral} (h : n.WellFormed) : '\n' ∉ n.chars := by
  have hwhole := newline_not_mem_digits h.digits
  have hfraction := newline_not_mem_digits h.fraction
  have hexponent : '\n' ∉ (n.exponent.map Exponent.chars).getD [] := by
    cases he : n.exponent with
    | none => simp
    | some e => exact newline_not_mem_exponent (h.exponent e he)
  rw [Numeral.chars]
  cases n.negative <;> cases n.fraction.isEmpty <;> simp [hwhole, hfraction, hexponent]

mutual

theorem newline_not_mem_compactChars (tree : Tree) (h : tree.WellFormed) :
    '\n' ∉ tree.compactChars := by
  match tree, h with
  | .null, _ => simp [compactChars]
  | .flag value, _ => cases value <;> simp [compactChars, flagChars]
  | .number n, h => exact newline_not_mem_numeral h
  | .text value, _ => exact newline_not_mem_textChars value
  | .list [], _ => simp [compactChars]
  | .list (item :: items), h =>
    have hfirst := newline_not_mem_compactChars item h.1
    have hothers := newline_not_mem_compactItems items h.2
    simp [compactChars, hfirst, hothers]
  | .object [], _ => simp [compactChars]
  | .object ((key, value) :: members), h =>
    have hkey := newline_not_mem_textChars key
    have hvalue := newline_not_mem_compactChars value h.1
    have hothers := newline_not_mem_compactMembers members h.2
    simp [compactChars, hkey, hvalue, hothers]

theorem newline_not_mem_compactItems (items : List Tree) (h : ItemsWellFormed items) :
    '\n' ∉ compactItems items := by
  match items, h with
  | [], _ => simp [compactItems]
  | item :: items, h =>
    have hfirst := newline_not_mem_compactChars item h.1
    have hothers := newline_not_mem_compactItems items h.2
    simp [compactItems, hfirst, hothers]

theorem newline_not_mem_compactMembers (members : List (String × Tree))
    (h : MembersWellFormed members) : '\n' ∉ compactMembers members := by
  match members, h with
  | [], _ => simp [compactMembers]
  | (key, value) :: members, h =>
    have hkey := newline_not_mem_textChars key
    have hvalue := newline_not_mem_compactChars value h.1
    have hothers := newline_not_mem_compactMembers members h.2
    simp [compactMembers, hkey, hvalue, hothers]

end

/-- The text without blanks is a single line. -/
theorem newline_not_mem_compact (tree : Tree) (h : tree.WellFormed) :
    '\n' ∉ tree.compact.toList := by
  rw [compact, String.toList_ofList]
  exact newline_not_mem_compactChars tree h

/-! ### One item a line -/

theorem isGap_lineStart (level : Nat) : IsGap (lineStart level) := by
  intro c hc
  rcases List.mem_cons.mp hc with rfl | hblank
  · rfl
  · rw [List.eq_of_mem_replicate hblank]
    rfl

theorem isGap_blank : IsGap [' '] := by
  simp [IsGap, isGap]

theorem spellsMember_indented (key : String) {value : Tree} {s : List Char}
    (hv : Spells value s) : SpellsMember key value (textChars key ++ ':' :: ' ' :: s) :=
  .colon (spellsText_textChars key) isGap_nil isGap_blank hv

mutual

theorem spells_indentedChars (level : Nat) (tree : Tree) (h : tree.WellFormed) :
    Spells tree (tree.indentedChars level) := by
  match tree, h with
  | .null, _ =>
    rw [indentedChars]
    exact .null
  | .flag value, _ =>
    rw [indentedChars]
    exact .flag value
  | .number n, h =>
    rw [indentedChars]
    exact .number h
  | .text value, _ =>
    rw [indentedChars]
    exact .text (spellsText_textChars value)
  | .list [], _ =>
    rw [indentedChars]
    exact .emptyList isGap_nil
  | .list (item :: items), h =>
    have hfirst := spells_indentedChars (level + 1) item h.1
    have hothers := spellsItems_indentedItems level items h.2
    rw [indentedChars, List.append_assoc]
    exact .list (isGap_lineStart (level + 1)) hfirst hothers
  | .object [], _ =>
    rw [indentedChars]
    exact .emptyObject isGap_nil
  | .object ((key, value) :: members), h =>
    have hfirst := spellsMember_indented key (spells_indentedChars (level + 1) value h.1)
    have hothers := spellsMembers_indentedMembers level members h.2
    rw [indentedChars]
    simpa using Spells.object (isGap_lineStart (level + 1)) hfirst hothers

theorem spellsItems_indentedItems (level : Nat) (items : List Tree) (h : ItemsWellFormed items) :
    SpellsItems items (indentedItems level items) := by
  match items, h with
  | [], _ =>
    rw [indentedItems]
    exact .nil (isGap_lineStart level)
  | item :: items, h =>
    have hfirst := spells_indentedChars (level + 1) item h.1
    have hothers := spellsItems_indentedItems level items h.2
    rw [indentedItems, List.append_assoc]
    exact .cons isGap_nil (isGap_lineStart (level + 1)) hfirst hothers

theorem spellsMembers_indentedMembers (level : Nat) (members : List (String × Tree))
    (h : MembersWellFormed members) :
    SpellsMembers members (indentedMembers level members) := by
  match members, h with
  | [], _ =>
    rw [indentedMembers]
    exact .nil (isGap_lineStart level)
  | (key, value) :: members, h =>
    have hfirst := spellsMember_indented key (spells_indentedChars (level + 1) value h.1)
    have hothers := spellsMembers_indentedMembers level members h.2
    rw [indentedMembers]
    simpa using SpellsMembers.cons isGap_nil (isGap_lineStart (level + 1)) hfirst hothers

end

/-- The text with one item a line is a document of the tree. -/
theorem spellsDocument_indented (tree : Tree) (h : tree.WellFormed) :
    SpellsDocument tree tree.indented.toList := by
  have hs := SpellsDocument.spaced isGap_nil (spells_indentedChars 0 tree h) isGap_nil
  simpa [indented] using hs

end Tree

end PolicyStore.Json
