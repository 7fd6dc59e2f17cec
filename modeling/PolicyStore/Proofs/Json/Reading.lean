import PolicyStore.Json.Reader
import PolicyStore.Proofs.Json.Skipping

/-!
# Readers agree with trees

A shape says of a tree which value it stands for, if any; it knows nothing of text. A reader reads a
shape when on every spelling of a tree it gives the value of the tree and leaves what follows, and
fails when the tree has no value. The text of the fault is left open.
-/

namespace PolicyStore.Json

/-- Which value a tree stands for. -/
abbrev Shape (α : Type) := Tree → Option α

/-! ## Shapes -/

namespace Shape

/-- A truth value. -/
def flag : Shape Bool
  | .flag value => some value
  | _ => none

/-- A string. -/
def text : Shape String
  | .text value => some value
  | _ => none

/-- A number written with digits alone that is at most `bound`. -/
def natural (bound : Nat) : Shape Nat
  | .number n =>
    if n.negative = false ∧ n.fraction = [] ∧ n.exponent = none ∧
      Nat.ofDigitChars 10 n.whole 0 ≤ bound then some (Nat.ofDigitChars 10 n.whole 0) else none
  | _ => none

/-- A list of which every item has the given shape. -/
def list {α : Type} (item : Shape α) : Shape (List α)
  | .list items => items.mapM item
  | _ => none

/-- The members of an object of which every value has the given shape. -/
def table {α : Type} (value : Shape α) : Shape (List (String × α))
  | .object members => members.mapM fun member => (value member.2).map (member.1, ·)
  | _ => none

end Shape

theorem mapM_eq_some_self {α : Type} {f : α → Option α} {as : List α}
    (h : ∀ a ∈ as, f a = some a) : as.mapM f = some as := by
  induction as with
  | nil => rfl
  | cons a as ih =>
    obtain ⟨ha, has⟩ := List.forall_mem_cons.mp h
    simp [ha, ih has]

/-- The reader gives on every spelling of a tree what the shape makes of the tree. -/
def Reader.Reads {α : Type} (reader : Reader α) (shape : Shape α) : Prop :=
  ∀ ⦃t : Tree⦄ ⦃s gap rest : List Char⦄, Spells t s → IsGap gap → EndsNumber rest →
    (reader.read (gap ++ (s ++ rest))).toOption = (shape t).map (·, rest)

@[simp] theorem toOption_ok {ε α : Type} (a : α) : (Except.ok a : Except ε α).toOption = some a :=
  rfl

@[simp] theorem toOption_error {ε α : Type} (e : ε) :
    (Except.error e : Except ε α).toOption = none := rfl

theorem toOption_map {ε α β : Type} (f : α → β) (r : Except ε α) :
    (r.map f).toOption = r.toOption.map f := by
  cases r <;> rfl

theorem toOption_eq_some {ε α : Type} {r : Except ε α} {a : α} (h : r.toOption = some a) :
    r = .ok a := by
  cases r with
  | error e => simp at h
  | ok b => simpa using h

theorem toOption_eq_none {ε α : Type} {r : Except ε α} (h : r.toOption = none) :
    ∃ e, r = .error e := by
  cases r with
  | error e => exact ⟨e, rfl⟩
  | ok b => simp at h

theorem eq_ok_of_map {ε α β : Type} {r : Except ε β} {o : Option α} {f : α → β}
    (h : r.toOption = o.map f) {a : α} (ho : o = some a) : r = .ok (f a) := by
  rw [ho] at h
  exact toOption_eq_some h

theorem eq_error_of_map {ε α β : Type} {r : Except ε β} {o : Option α} {f : α → β}
    (h : r.toOption = o.map f) (ho : o = none) : ∃ e, r = .error e := by
  rw [ho] at h
  exact toOption_eq_none h

namespace Reader

variable {α β : Type}

theorem Reads.map {reader : Reader α} {shape : Shape α} (h : reader.Reads shape) (f : α → β) :
    (reader.map f).Reads fun t => (shape t).map f := by
  intro t s gap rest hs hg hr
  rw [Reader.map, toOption_map, h hs hg hr]
  cases ht : shape t <;> simp [ht]

/-! ## Scalars -/

theorem reads_flag : flag.Reads Shape.flag := by
  intro t s gap rest hs hg hr
  simp only [flag, readFlag]
  rw [afterGap_spells hg hs]
  cases hs with
  | flag value =>
    cases value <;>
      simp [flagChars, scanWord, Except.map, Shape.flag]
  | number hn =>
    obtain ⟨c, r, hs, hc⟩ := hn.exists_cons
    have ht : c ≠ 't' := ne_of_begins_number hc (by decide) (by decide)
    have hf : c ≠ 'f' := ne_of_begins_number hc (by decide) (by decide)
    simp [hs, ht, hf, Shape.flag]
  | text h => cases h; rfl
  | null => rfl
  | emptyList => rfl
  | list => rfl
  | emptyObject => rfl
  | object => rfl

theorem readText_spelled {text : String} {s gap : List Char} (h : SpellsText text s)
    (hg : IsGap gap) (expected : String) (rest : List Char) :
    readText expected (gap ++ (s ++ rest)) = .ok (text, rest) := by
  rw [readText, afterGap_spells hg (.text h)]
  cases h with
  | quoted h => simp [h.scanText, Except.map]

theorem readText_not_text {t : Tree} {s gap : List Char} (hs : Spells t s) (hg : IsGap gap)
    (ht : Shape.text t = none) (expected : String) (rest : List Char) :
    (readText expected (gap ++ (s ++ rest))).toOption = none := by
  rw [readText, afterGap_spells hg hs]
  cases hs with
  | text => simp [Shape.text] at ht
  | flag value => cases value <;> rfl
  | number hn =>
    obtain ⟨c, r, hs, hc⟩ := hn.exists_cons
    have hq : c ≠ '"' := ne_of_begins_number hc (by decide) (by decide)
    simp [hs, hq]
  | null => rfl
  | emptyList => rfl
  | list => rfl
  | emptyObject => rfl
  | object => rfl

theorem reads_text : text.Reads Shape.text := by
  intro t s gap rest hs hg hr
  cases ht : Shape.text t with
  | none => exact readText_not_text hs hg ht _ _
  | some value =>
    cases hs with
    | text h =>
      obtain rfl : _ = value := by simpa [Shape.text] using ht
      simp [text, readText_spelled h hg]
    | _ => simp [Shape.text] at ht

/-- The shape of a natural number agrees with the value that is computed of the numeral. -/
theorem natural_number {bound : Nat} (hb : bound < UInt64.size) (n : Numeral) :
    Shape.natural bound (.number n) =
      match n.value with
      | .ok (.natural k) => if k ≤ bound then some k else none
      | _ => none := by
  have hv := value_eq_natural_iff n
  split
  next k h =>
    obtain ⟨hneg, hf, he, rfl, -⟩ := (hv k).1 h
    simp [Shape.natural, hneg, hf, he]
  next h =>
    refine if_neg ?_
    rintro ⟨hneg, hf, he, hk⟩
    exact h _ ((hv _).2 ⟨hneg, hf, he, rfl, Nat.lt_of_le_of_lt hk hb⟩)

theorem reads_natural {bound : Nat} (hb : bound < UInt64.size) (expected : String) :
    (natural bound expected).Reads (Shape.natural bound) := by
  intro t s gap rest hs hg hr
  simp only [natural, readNatural]
  rw [afterGap_spells hg hs]
  cases hs with
  | @number n hn =>
    obtain ⟨c, r, hs, hc⟩ := hn.exists_cons
    have hscan := scanNumeral_chars hn .endInValue hr
    rw [natural_number hb n]
    rw [hs, List.cons_append] at hscan ⊢
    simp only [hc, if_true, scanNumber, hscan]
    cases n.value with
    | error unseen => rfl
    | ok number =>
      cases number with
      | natural k => by_cases hk : k ≤ bound <;> simp [hk]
      | negated k => rfl
      | fractional negative x => rfl
  | text h => cases h; rfl
  | flag value => cases value <;> rfl
  | null => rfl
  | emptyList => rfl
  | list => rfl
  | emptyObject => rfl
  | object => rfl

/-! ## Lists -/

variable {item : Reader α} {shape : Shape α} {read : List α} {s rest more : List Char} {c : Char}

theorem readItems_eq (item : Reader α) (first : Bool) (read : List α) (s : List Char) :
    readItems item first read s =
      match afterGap s with
      | [] => .error (.here .endInList [])
      | c :: rest =>
        if c = ']' then .ok (read.reverse, c :: rest)
        else if first then
          match item.read (c :: rest) with
          | .error fault => .error fault
          | .ok (a, after) => readItems item false (a :: read) after
        else if c = ',' then
          match afterGap rest with
          | [] => .error (.here .endInValue [])
          | ']' :: more => .error (.peek .trailingComma (']' :: more))
          | _ =>
            match item.read rest with
            | .error fault => .error fault
            | .ok (a, after) => readItems item false (a :: read) after
        else .error (.peek .listCommaOrEndDue (c :: rest)) := by
  conv => lhs; rw [readItems]
  split
  next h => simp only [h]
  next c rest h =>
    simp only [h]
    split
    · rfl
    split
    · split <;> next hi => simp only [hi]
    split
    · split
      next => simp only [*]
      next => simp only [*]
      next => split <;> next hi => simp only [hi]
    · rfl

theorem readItems_end (hg : afterGap s = ']' :: rest) (first : Bool) :
    readItems item first read s = .ok (read.reverse, ']' :: rest) := by
  simp [readItems_eq, hg]

theorem readItems_first (hg : afterGap s = c :: rest) (hc : c ≠ ']') :
    readItems item true read s =
      (item.read (c :: rest)).bind fun p => readItems item false (p.1 :: read) p.2 := by
  simp only [readItems_eq item true, hg, hc, if_false, if_true]
  cases item.read (c :: rest) <;> rfl

theorem readItems_next (hg : afterGap s = ',' :: rest) (hr : afterGap rest = c :: more)
    (hc : c ≠ ']') :
    readItems item false read s =
      (item.read rest).bind fun p => readItems item false (p.1 :: read) p.2 := by
  have hcomma : ',' ≠ ']' := by decide
  simp only [readItems_eq item false read s, hg, hr, hcomma, Bool.false_eq_true, if_false, if_true]
  split
  next h => exact absurd h (by simp)
  next h => exact absurd (List.cons.inj h).1 hc
  next => cases item.read rest <;> rfl

/-- The items after the first one are read up to the closing bracket, which is left. -/
theorem readItems_spelled (hi : item.Reads shape) {items : List Tree} (h : SpellsItems items s)
    (read : List α) (rest : List Char) :
    (readItems item false read (s ++ rest)).toOption =
      (items.mapM shape).map fun as => (read.reverse ++ as, ']' :: rest) := by
  induction items generalizing s read with
  | nil =>
    cases h with
    | nil hg =>
      simp only [List.append_assoc, List.cons_append, List.nil_append]
      rw [readItems_end (afterGap_append_cons hg (by decide) rest)]
      simp
  | cons t items ih =>
    cases h with
    | @cons before after v w _ _ hb ha head tail =>
      obtain ⟨c, r, hv, -, hc, -⟩ := head.exists_cons
      have hread := hi head ha (tail.endsNumber rest)
      have hafter := afterGap_spells ha head (w ++ rest)
      simp only [List.append_assoc, List.cons_append]
      rw [hv, List.cons_append] at hafter
      rw [hv, List.cons_append] at hread ⊢
      rw [readItems_next (afterGap_append_cons hb (by decide) _) hafter hc]
      cases ht : shape t with
      | none =>
        obtain ⟨fault, hf⟩ := eq_error_of_map hread ht
        simp [hf, Except.bind, ht]
      | some a =>
        have hok := eq_ok_of_map hread ht
        simp only [hok, Except.bind, List.mapM_cons, ht, ih tail]
        cases items.mapM shape <;> simp

theorem endList_bracket (rest : List Char) : endList (']' :: rest) = .ok rest := rfl

theorem Reads.list (hi : item.Reads shape) : (list item).Reads (Shape.list shape) := by
  intro t s gap rest hs hg hr
  simp only [Reader.list, readList]
  rw [afterGap_spells hg hs]
  cases hs with
  | emptyList hi =>
    simp [readItems_end (afterGap_append_cons hi (by decide) rest), endList_bracket, Except.map,
      Shape.list]
  | @list inner v w first items hin head tail =>
    obtain ⟨c, r, hv, -, hc, -⟩ := head.exists_cons
    have hread := hi head isGap_nil (tail.endsNumber rest)
    have hafter := afterGap_spells hin head (w ++ rest)
    simp only [List.append_assoc, List.cons_append]
    rw [hv, List.cons_append] at hafter
    rw [hv, List.cons_append, List.nil_append] at hread
    rw [hv, List.cons_append, readItems_first hafter hc]
    cases ht : shape first with
    | none =>
      obtain ⟨fault, hf⟩ := eq_error_of_map hread ht
      simp [hf, Except.bind, Shape.list, ht]
    | some a =>
      have hok := eq_ok_of_map hread ht
      have hitems := readItems_spelled hi tail [a] rest
      simp only [hok, Except.bind, Shape.list, List.mapM_cons, ht]
      cases hm : items.mapM shape with
      | none =>
        obtain ⟨fault, hf⟩ := eq_error_of_map hitems hm
        simp [hf]
      | some as =>
        have hok := eq_ok_of_map hitems hm
        simp [hok, endList_bracket, Except.map]
  | flag value => cases value <;> rfl
  | number hn =>
    obtain ⟨c, r, hs, hc⟩ := hn.exists_cons
    have hb : c ≠ '[' := ne_of_begins_number hc (by decide) (by decide)
    simp [hs, hb, Shape.list]
  | text h => cases h; rfl
  | null => rfl
  | emptyObject => rfl
  | object => rfl

/-! ## Objects -/

theorem readKey_end (hg : afterGap s = '}' :: rest) (first : Bool) :
    readKey first s = .ok (none, '}' :: rest) := by
  simp [readKey, hg]

theorem readKey_first {key : String} {k gap : List Char} (hk : SpellsText key k) (hg : IsGap gap)
    (rest : List Char) : readKey true (gap ++ (k ++ rest)) = .ok (some key, rest) := by
  cases hk with
  | quoted h =>
    simp only [List.cons_append, List.append_assoc, List.nil_append]
    rw [readKey, afterGap_append_cons hg (by decide)]
    simp [readKey.key, h.scanText, Except.map]

theorem readKey_next {key : String} {k before after : List Char} (hk : SpellsText key k)
    (hb : IsGap before) (ha : IsGap after) (rest : List Char) :
    readKey false (before ++ ',' :: (after ++ (k ++ rest))) = .ok (some key, rest) := by
  cases hk with
  | quoted h =>
    simp only [List.cons_append, List.append_assoc, List.nil_append]
    rw [readKey, afterGap_append_cons hb (by decide)]
    simp only [afterGap_append_cons ha (by decide : isGap '"' = false)]
    simp [readKey.key, h.scanText, Except.map]

theorem endObject_brace (rest : List Char) : endObject ('}' :: rest) = .ok rest := rfl

theorem readMembers_eq (value : Reader α) (first : Bool) (read : List (String × α))
    (s : List Char) :
    readMembers value first read s =
      match readKey first s with
      | .error fault => .error fault
      | .ok (none, rest) => .ok (read.reverse, rest)
      | .ok (some key, rest) =>
        match scanColon rest with
        | .error fault => .error fault
        | .ok rest' =>
          match value.read rest' with
          | .error fault => .error fault
          | .ok (a, after) => readMembers value false ((key, a) :: read) after := by
  conv => lhs; rw [readMembers]
  split
  next h => simp only [h]
  next h => simp only [h]
  next h =>
    simp only [h]
    split
    next hc => simp only [hc]
    next hc =>
      simp only [hc]
      split <;> next hv => simp only [hv]

theorem readMembers_end (value : Reader α) (read : List (String × α)) {first : Bool}
    (hk : readKey first s = .ok (none, rest)) :
    readMembers value first read s = .ok (read.reverse, rest) := by
  simp [readMembers_eq value first read s, hk]

theorem readMembers_member {value : Reader α} {read : List (String × α)} {first : Bool}
    {key : String} (hk : readKey first s = .ok (some key, rest)) (hc : scanColon rest = .ok more) :
    readMembers value first read s =
      (value.read more).bind fun p => readMembers value false ((key, p.1) :: read) p.2 := by
  simp only [readMembers_eq value first read s, hk, hc]
  cases value.read more <;> rfl

/-- The members after the first one are read up to the closing brace, which is left. -/
theorem readMembers_spelled {value : Reader α} (hi : value.Reads shape)
    {members : List (String × Tree)} (h : SpellsMembers members s) (read : List (String × α))
    (rest : List Char) :
    (readMembers value false read (s ++ rest)).toOption =
      (members.mapM fun member => (shape member.2).map (member.1, ·)).map fun as =>
        (read.reverse ++ as, '}' :: rest) := by
  induction members generalizing s read with
  | nil =>
    cases h with
    | nil hg =>
      simp only [List.append_assoc, List.cons_append, List.nil_append]
      rw [readMembers_end value _ (readKey_end (afterGap_append_cons hg (by decide) rest) false)]
      simp
  | cons member members ih =>
    cases h with
    | @cons before after v w key t _ hb ha head tail =>
      cases head with
      | @colon before' after' k v _ _ hk hb' ha' hv =>
        have hread := hi hv ha' (tail.endsNumber rest)
        simp only [List.append_assoc, List.cons_append]
        rw [readMembers_member (readKey_next hk hb ha _) (scanColon_spelled hb' _)]
        cases ht : shape t with
        | none =>
          obtain ⟨fault, hf⟩ := eq_error_of_map hread ht
          simp [hf, Except.bind, ht]
        | some a =>
          have hok := eq_ok_of_map hread ht
          simp only [hok, Except.bind, List.mapM_cons, ht, ih tail]
          cases members.mapM fun member => (shape member.2).map (member.1, ·) <;> simp

theorem Reads.table {value : Reader α} (hi : value.Reads shape) :
    (table value).Reads (Shape.table shape) := by
  intro t s gap rest hs hg hr
  simp only [Reader.table, readTable]
  rw [afterGap_spells hg hs]
  cases hs with
  | emptyObject hi =>
    have hend := readMembers_end value []
      (readKey_end (afterGap_append_cons hi (by decide) rest) true)
    simp [hend, endObject_brace, Except.map, Shape.table]
  | @object inner _ w key t members hin head tail =>
    cases head with
    | @colon before after k v _ _ hk hb ha hv =>
      have hread := hi hv ha (tail.endsNumber rest)
      simp only [List.append_assoc, List.cons_append]
      rw [readMembers_member (readKey_first hk hin _) (scanColon_spelled hb _)]
      cases ht : shape t with
      | none =>
        obtain ⟨fault, hf⟩ := eq_error_of_map hread ht
        simp [hf, Except.bind, Shape.table, ht]
      | some a =>
        have hok := eq_ok_of_map hread ht
        have hmembers := readMembers_spelled hi tail [(key, a)] rest
        simp only [hok, Except.bind, Shape.table, List.mapM_cons, ht]
        cases hm : members.mapM fun member => (shape member.2).map (member.1, ·) with
        | none =>
          obtain ⟨fault, hf⟩ := eq_error_of_map hmembers hm
          simp [hf]
        | some as =>
          have hok := eq_ok_of_map hmembers hm
          simp [hok, endObject_brace, Except.map]
  | flag value => cases value <;> rfl
  | number hn =>
    obtain ⟨c, r, hs, hc⟩ := hn.exists_cons
    have hb : c ≠ '{' := ne_of_begins_number hc (by decide) (by decide)
    simp [hs, hb, Shape.table]
  | text h => cases h; rfl
  | null => rfl
  | emptyList => rfl
  | list => rfl

end Reader

end PolicyStore.Json
