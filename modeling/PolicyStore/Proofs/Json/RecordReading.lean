import PolicyStore.Json.Choice
import PolicyStore.Json.RecordReader
import PolicyStore.Proofs.Json.Reading

/-!
# Record readers agree with trees

A record is read into a draft in the order of the text. What the tree says of it does not depend on
that order: every field has a place in the draft, and reading an object puts into the places what
`Shape.fill` puts there from the members of the tree.
-/

namespace PolicyStore.Json

/-- A field together with where it is kept in a draft and the shape that its reader reads. -/
structure Place (σ : Type) where
  Value : Type
  name : String
  required : Bool
  get : σ → Option Value
  set : σ → Value → σ
  reader : Reader Value
  shape : Shape Value
  reads : reader.Reads shape

namespace Place

variable {σ : Type}

/-- The field of a place. -/
def field (place : Place σ) : Field σ :=
  .of place.name place.required place.get place.set place.reader

theorem field_update_read (place : Place σ) (s : List Char) :
    place.field.update.read s =
      (place.reader.read s).map fun p => ((fun draft => place.set draft p.1), p.2) := rfl

end Place

namespace Shape

variable {σ : Type}

/-- Puts the members of an object into their places one by one. A member without a place is left
out, one whose place is taken is refused, and required places have to be taken in the end. -/
def fill (places : List (Place σ)) : σ → List (String × Tree) → Option σ
  | draft, [] =>
    if places.all fun place => !place.required || (place.get draft).isSome then some draft else none
  | draft, (key, t) :: members =>
    match places.find? fun place => place.name == key with
    | none => fill places draft members
    | some place =>
      if (place.get draft).isSome then none
      else (place.shape t).bind fun a => fill places (place.set draft a) members

/-- Puts the items of a list into the places in order. Places left over may not be required. -/
def fillInOrder : List (Place σ) → σ → List Tree → Option σ
  | places, draft, [] => if places.any Place.required then none else some draft
  | [], _, _ :: _ => none
  | place :: places, draft, t :: items =>
    (place.shape t).bind fun a => fillInOrder places (place.set draft a) items

/-- A record, written as an object or as the list of its fields. -/
def record (places : List (Place σ)) (blank : σ) : Shape σ
  | .object members => fill places blank members
  | .list items => fillInOrder places blank items
  | _ => none

/-- One of several names, written as a string or as the one key of an object whose value is null. -/
def choice {α : Type} (names : List (String × α)) : Shape α
  | .text name => names.lookup name
  | .object [(name, .null)] => names.lookup name
  | _ => none

end Shape

namespace Layout

variable {σ : Type} {layout : Layout σ} {places : List (Place σ)} {draft : σ}
  {s rest more : List Char}

/-! ## Objects -/

theorem readMembers_eq (layout : Layout σ) (first : Bool) (draft : σ) (s : List Char) :
    layout.readMembers first draft s =
      match Reader.readKey first s with
      | .error fault => .error fault
      | .ok (none, rest) =>
        match layout.missing? draft with
        | some field => .error (.here (.missingField field.name) (pastObject rest))
        | none => .ok (draft, rest)
      | .ok (some key, rest) =>
        match layout.field? key with
        | some field =>
          if field.isSet draft then .error (.here (.repeatedField field.name) (pastObject rest))
          else
            match scanColon rest with
            | .error fault => .error fault
            | .ok rest' =>
              match field.update.read rest' with
              | .error fault => .error fault
              | .ok (update, after) => layout.readMembers false (update draft) after
        | none =>
          match scanColon rest with
          | .error fault => .error fault
          | .ok rest' =>
            match skipValue rest' with
            | .error fault => .error fault
            | .ok after => layout.readMembers false draft after := by
  conv => lhs; rw [readMembers]
  split
  next h => simp only [h]
  next h => cases layout.missing? draft <;> simp only [h]
  next key rest h =>
    simp only [h]
    cases layout.field? key with
    | some field =>
      by_cases hset : field.isSet draft = true
      · simp only [hset, if_true]
      · simp only [hset, if_false, Bool.false_eq_true]
        split
        next hc => simp only [hc]
        next hc =>
          simp only [hc]
          split <;> next hv => simp only [hv]
    | none =>
      dsimp only
      split
      next hc => simp only [hc]
      next hc =>
        simp only [hc]
        split <;> next hv => simp only [hv]

theorem field?_places (hl : layout.fields = places.map Place.field) (key : String) :
    layout.field? key = (places.find? fun place => place.name == key).map Place.field := by
  rw [field?, hl, List.find?_map]
  rfl

theorem missing?_places (hl : layout.fields = places.map Place.field) (draft : σ) :
    (layout.missing? draft).isNone =
      places.all fun place => !place.required || (place.get draft).isSome := by
  rw [missing?, hl, List.find?_map, Option.isNone_map, Bool.eq_iff_iff, Option.isNone_iff_eq_none,
    List.find?_eq_none, List.all_eq_true]
  refine forall_congr' fun place => forall_congr' fun _ => ?_
  cases hr : place.required <;>
    simp [Place.field, Field.of, hr, Option.isSome_iff_ne_none]

theorem readMembers_end (hl : layout.fields = places.map Place.field) {first : Bool}
    (hk : Reader.readKey first s = .ok (none, rest)) :
    (layout.readMembers first draft s).toOption = (Shape.fill places draft []).map (·, rest) := by
  have hm := missing?_places hl draft
  simp only [readMembers_eq layout first, hk, Shape.fill]
  cases h : layout.missing? draft with
  | none => simp [← hm, h]
  | some field => simp [← hm, h]

/-- A member whose place is free goes there, one without a place is passed over. -/
theorem readMembers_member (hl : layout.fields = places.map Place.field) {first : Bool}
    {key : String} {t : Tree} {before after v : List Char} {members : List (String × Tree)}
    (hk : Reader.readKey first s = .ok (some key, before ++ ':' :: (after ++ (v ++ more))))
    (hb : IsGap before) (ha : IsGap after) (hv : Spells t v) (hm : EndsNumber more)
    (hn : ∀ draft, (layout.readMembers false draft more).toOption =
      (Shape.fill places draft members).map (·, rest)) :
    (layout.readMembers first draft s).toOption =
      (Shape.fill places draft ((key, t) :: members)).map (·, rest) := by
  simp only [readMembers_eq layout first, hk, scanColon_spelled hb, field?_places hl, Shape.fill]
  cases hp : places.find? fun place => place.name == key with
  | none => simp only [Option.map_none, hv.skipValue ha hm, hn]
  | some place =>
    have hread := place.reads hv ha hm
    simp only [Option.map_some, Place.field_update_read]
    by_cases hset : (place.get draft).isSome = true
    · simp [hset, Place.field, Field.of]
    · cases ht : place.shape t with
      | none =>
        obtain ⟨fault, hf⟩ := eq_error_of_map hread ht
        simp [hset, Place.field, Field.of, hf, Except.map]
      | some a =>
        have hok := eq_ok_of_map hread ht
        simp [hset, Place.field, Field.of, hok, Except.map, hn]

theorem readMembers_spelled (hl : layout.fields = places.map Place.field)
    {members : List (String × Tree)} (h : SpellsMembers members s) (draft : σ) (rest : List Char) :
    (layout.readMembers false draft (s ++ rest)).toOption =
      (Shape.fill places draft members).map (·, '}' :: rest) := by
  induction members generalizing s draft with
  | nil =>
    cases h with
    | nil hg =>
      simp only [List.append_assoc, List.cons_append, List.nil_append]
      exact readMembers_end hl (Reader.readKey_end (afterGap_append_cons hg (by decide) rest) false)
  | cons member members ih =>
    cases h with
    | cons hb ha head tail =>
      cases head with
      | colon hk hb' ha' hv =>
        simp only [List.append_assoc, List.cons_append]
        exact readMembers_member hl (Reader.readKey_next hk hb ha _) hb' ha' hv
          (tail.endsNumber rest) fun draft => ih tail draft

/-! ## Lists -/

/-- Takes the end of the list after the elements that were read. -/
def thenEndList (read : Except Fault (σ × List Char)) : Except Fault (σ × List Char) :=
  match read with
  | .error fault => .error fault
  | .ok (draft, rest) => (Reader.endList rest).map (draft, ·)

theorem readElements_end (hg : afterGap s = ']' :: rest) (index : Nat) (places : List (Place σ)) :
    (thenEndList (layout.readElements index draft (places.map Place.field) s)).toOption =
      (Shape.fillInOrder places draft []).map (·, rest) := by
  cases places with
  | nil => simp [readElements, thenEndList, Reader.endList, hg, Except.map, Shape.fillInOrder]
  | cons place places =>
    have hany : (((place :: places).map Place.field).findIdx? Field.required).isSome =
        (place :: places).any Place.required := by
      simp [List.findIdx?_isSome, List.any_map, Place.field, Field.of, Function.comp_def]
    rw [List.map_cons] at hany ⊢
    simp only [readElements, hg, if_true, Shape.fillInOrder]
    cases hi : (place.field :: places.map Place.field).findIdx? Field.required with
    | none =>
      have hreq : (place :: places).any Place.required = false := by simpa [hi] using hany.symm
      simp [hreq, thenEndList, Reader.endList_bracket, Except.map]
    | some lacking =>
      have hreq : (place :: places).any Place.required = true := by simpa [hi] using hany.symm
      simp [hreq, thenEndList]

theorem readElements_element (layout : Layout σ) (place : Place σ) (draft : σ) (index : Nat)
    {t : Tree} {items : List Tree} {gap v : List Char} (hv : Spells t v) (hg : IsGap gap)
    (hm : EndsNumber more)
    (hn : ∀ draft, (thenEndList (layout.readElements (index + 1) draft (places.map Place.field)
      more)).toOption = (Shape.fillInOrder places draft items).map (·, rest)) :
    (thenEndList (readElements.element layout index draft place.field (places.map Place.field)
      (gap ++ (v ++ more)))).toOption =
      (Shape.fillInOrder (place :: places) draft (t :: items)).map (·, rest) := by
  have hread := place.reads hv hg hm
  simp only [readElements.element, Place.field_update_read, Shape.fillInOrder]
  cases ht : place.shape t with
  | none =>
    obtain ⟨fault, hf⟩ := eq_error_of_map hread ht
    simp [hf, Except.map, thenEndList]
  | some a =>
    have hok := eq_ok_of_map hread ht
    simp [hok, Except.map, hn]

theorem readElements_spelled {items : List Tree} (h : SpellsItems items s)
    (places : List (Place σ)) (index : Nat) (draft : σ) (rest : List Char) :
    (thenEndList (layout.readElements (index + 1) draft (places.map Place.field)
      (s ++ rest))).toOption = (Shape.fillInOrder places draft items).map (·, rest) := by
  induction items generalizing s places index draft with
  | nil =>
    cases h with
    | nil hg =>
      simp only [List.append_assoc, List.cons_append, List.nil_append]
      exact readElements_end (afterGap_append_cons hg (by decide) rest) _ places
  | cons t items ih =>
    cases h with
    | @cons before after v w _ _ hb ha head tail =>
      obtain ⟨c, r, hv, -, hc, -⟩ := head.exists_cons
      have hcomma := afterGap_append_cons hb (by decide : isGap ',' = false)
        (after ++ (v ++ (w ++ rest)))
      have hafter := afterGap_spells ha head (w ++ rest)
      simp only [List.append_assoc, List.cons_append]
      cases places with
      | nil =>
        simp only [List.map_nil, readElements, thenEndList, Reader.endList, hcomma,
          Shape.fillInOrder]
        split <;> rfl
      | cons place places =>
        have helement := readElements_element layout place draft (index + 1) head ha
          (tail.endsNumber rest) fun draft => ih tail places (index + 1) draft
        simp only [List.map_cons, readElements, hcomma]
        rw [if_neg (by decide), if_neg (by omega), if_pos trivial]
        rw [hv, List.cons_append] at hafter helement ⊢
        simpa [hafter, hc] using helement

/-- The first item of a list is read without a comma before it. -/
theorem readElements_first {t : Tree} {items : List Tree} {gap v w : List Char} (hg : IsGap gap)
    (head : Spells t v) (tail : SpellsItems items w) (places : List (Place σ)) (draft : σ)
    (rest : List Char) :
    (thenEndList (layout.readElements 0 draft (places.map Place.field)
      (gap ++ (v ++ (w ++ rest))))).toOption =
      (Shape.fillInOrder places draft (t :: items)).map (·, rest) := by
  obtain ⟨c, r, hv, -, hc, -⟩ := head.exists_cons
  have hafter := afterGap_spells hg head (w ++ rest)
  cases places with
  | nil =>
    rw [hv, List.cons_append] at hafter ⊢
    simp only [List.map_nil, readElements, thenEndList, Reader.endList, hafter, Shape.fillInOrder]
    split
    next h => exact absurd (List.cons.inj h).1 hc
    next => split <;> rfl
    next => rfl
    next => rfl
  | cons place places =>
    have helement := readElements_element layout place draft 0 head isGap_nil
      (tail.endsNumber rest) fun draft => readElements_spelled tail places 0 draft rest
    rw [hv, List.cons_append] at hafter helement ⊢
    simpa [readElements, hafter, hc] using helement

theorem readRecord_list (hl : layout.fields = places.map Place.field) {gap : List Char}
    (hg : IsGap gap) (blank : σ) (s : List Char) :
    layout.readRecord blank (gap ++ '[' :: s) =
      thenEndList (layout.readElements 0 blank (places.map Place.field) s) := by
  rw [readRecord, afterGap_append_cons hg (by decide), hl]
  rfl

theorem readRecord_object {gap : List Char} (hg : IsGap gap) (blank : σ) {members : Option σ}
    (hm : (layout.readMembers true blank s).toOption = members.map (·, '}' :: rest)) :
    (layout.readRecord blank (gap ++ '{' :: s)).toOption = members.map (·, rest) := by
  rw [readRecord, afterGap_append_cons hg (by decide)]
  cases members with
  | none =>
    obtain ⟨fault, hf⟩ := toOption_eq_none hm
    simp [hf]
  | some draft =>
    have hok := toOption_eq_some hm
    simp [hok, Reader.endObject_brace, Except.map]

end Layout

theorem Reader.reads_record {σ : Type} {layout : Layout σ} {places : List (Place σ)}
    (hl : layout.fields = places.map Place.field) (blank : σ) :
    (Reader.record layout blank).Reads (Shape.record places blank) := by
  intro t s gap rest hs hg hr
  change (layout.readRecord blank _).toOption = _
  cases hs with
  | emptyList hin =>
    simp only [List.append_assoc, List.cons_append, List.nil_append]
    rw [Layout.readRecord_list hl hg]
    exact Layout.readElements_end (afterGap_append_cons hin (by decide) rest) 0 places
  | list hin head tail =>
    simp only [List.append_assoc, List.cons_append]
    rw [Layout.readRecord_list hl hg]
    exact Layout.readElements_first hin head tail places blank rest
  | emptyObject hin =>
    simp only [List.append_assoc, List.cons_append, List.nil_append]
    exact Layout.readRecord_object hg blank (Layout.readMembers_end hl
      (readKey_end (afterGap_append_cons hin (by decide) rest) true))
  | object hin head tail =>
    cases head with
    | colon hk hb ha hv =>
      simp only [List.append_assoc, List.cons_append]
      exact Layout.readRecord_object hg blank (Layout.readMembers_member hl
        (readKey_first hk hin _) hb ha hv (tail.endsNumber rest) fun draft =>
          Layout.readMembers_spelled hl tail draft rest)
  | flag value =>
    rw [Layout.readRecord, afterGap_spells hg (.flag value)]
    cases value <;> rfl
  | number hn =>
    obtain ⟨c, r, hs, hc⟩ := hn.exists_cons
    have hb : c ≠ '{' := ne_of_begins_number hc (by decide) (by decide)
    have hb' : c ≠ '[' := ne_of_begins_number hc (by decide) (by decide)
    rw [Layout.readRecord, afterGap_spells hg (.number hn)]
    simp [hs, hb, hb', Shape.record]
  | text h =>
    rw [Layout.readRecord, afterGap_spells hg (.text h)]
    cases h; rfl
  | null =>
    rw [Layout.readRecord, afterGap_spells hg .null]
    rfl

/-! ## Choices -/

namespace Reader

variable {α : Type} {gap s rest : List Char}

theorem readName_spelled {name : String} (h : SpellsText name s) (hg : IsGap gap)
    (names : List (String × α)) (rest : List Char) :
    (readName names (gap ++ (s ++ rest))).toOption = (names.lookup name).map (·, rest) := by
  rw [readName, readText_spelled h hg]
  cases hn : names.lookup name <;> simp [hn]

theorem readNull_null (hg : IsGap gap) (rest : List Char) :
    readNull (gap ++ ('n' :: 'u' :: 'l' :: 'l' :: rest)) = .ok rest := by
  rw [readNull, afterGap_append_cons hg (by decide)]
  exact scanWord_append ['u', 'l', 'l'] rest

theorem readNull_other {t : Tree} (hs : Spells t s) (hg : IsGap gap) (ht : t ≠ .null)
    (rest : List Char) : (readNull (gap ++ (s ++ rest))).toOption = none := by
  rw [readNull, afterGap_spells hg hs]
  cases hs with
  | null => exact absurd rfl ht
  | flag value => cases value <;> rfl
  | number hn =>
    obtain ⟨c, r, hs, hc⟩ := hn.exists_cons
    have hb : c ≠ 'n' := ne_of_begins_number hc (by decide) (by decide)
    simp [hs, hb]
  | text h => cases h; rfl
  | emptyList => rfl
  | list => rfl
  | emptyObject => rfl
  | object => rfl

theorem endChoice_spelled {members : List (String × Tree)} (h : SpellsMembers members s)
    (rest : List Char) :
    (endChoice (s ++ rest)).toOption = if members = [] then some rest else none := by
  cases h with
  | nil hg =>
    simp only [List.append_assoc, List.cons_append, List.nil_append]
    rw [endChoice, afterGap_append_cons hg (by decide)]
    rfl
  | cons hb =>
    simp only [List.append_assoc, List.cons_append]
    rw [endChoice, afterGap_append_cons hb (by decide)]
    rfl

theorem readChoice_object {key : String} {t : Tree} {members : List (String × Tree)}
    {inner v w : List Char} (hg : IsGap gap) (hin : IsGap inner) (head : SpellsMember key t v)
    (tail : SpellsMembers members w) (names : List (String × α)) (rest : List Char) :
    (readChoice names (gap ++ '{' :: (inner ++ (v ++ (w ++ rest))))).toOption =
      (Shape.choice names (.object ((key, t) :: members))).map (·, rest) := by
  rw [readChoice, afterGap_append_cons hg (by decide)]
  cases head with
  | @colon before after k v _ _ hk hb ha hv =>
    simp only [List.append_assoc, List.cons_append, bind, Except.bind, pure, Except.pure]
    have hname := readName_spelled hk hin names (before ++ ':' :: (after ++ (v ++ (w ++ rest))))
    cases hn : names.lookup key with
    | none =>
      obtain ⟨fault, hf⟩ := eq_error_of_map hname hn
      cases t <;> cases members <;> simp [hf, Shape.choice, hn]
    | some a =>
      have hok := eq_ok_of_map hname hn
      simp only [hok, scanColon_spelled hb]
      by_cases ht : t = .null
      · subst ht
        cases hv with
        | null =>
          have hend := endChoice_spelled tail rest
          simp only [List.cons_append, List.nil_append, readNull_null ha]
          cases members with
          | nil => simp [toOption_eq_some hend, Shape.choice, hn]
          | cons member members =>
            obtain ⟨fault, hf⟩ := toOption_eq_none (hend.trans (if_neg (by simp)))
            simp [hf, Shape.choice]
      · obtain ⟨fault, hf⟩ := toOption_eq_none (readNull_other hv ha ht (w ++ rest))
        cases t <;> simp_all [Shape.choice]

theorem reads_choice (names : List (String × α)) : (choice names).Reads (Shape.choice names) := by
  intro t s gap rest hs hg hr
  change (readChoice names _).toOption = _
  cases hs with
  | text h =>
    have hname := readName_spelled h isGap_nil names rest
    rw [readChoice, afterGap_spells hg (.text h)]
    cases h with
    | quoted h => simpa [Shape.choice] using hname
  | object hin head tail =>
    simp only [List.append_assoc, List.cons_append]
    exact readChoice_object hg hin head tail names rest
  | emptyObject hin =>
    simp only [List.append_assoc, List.cons_append, List.nil_append]
    rw [readChoice, afterGap_append_cons hg (by decide)]
    simp only [bind, Except.bind, readName, readText]
    rw [afterGap_append_cons hin (by decide)]
    rfl
  | flag value =>
    rw [readChoice, afterGap_spells hg (.flag value)]
    cases value <;> rfl
  | number hn =>
    obtain ⟨c, r, hs, hc⟩ := hn.exists_cons
    have hq : c ≠ '"' := ne_of_begins_number hc (by decide) (by decide)
    have hb : c ≠ '{' := ne_of_begins_number hc (by decide) (by decide)
    rw [readChoice, afterGap_spells hg (.number hn)]
    simp [hs, hq, hb, Shape.choice]
  | null =>
    rw [readChoice, afterGap_spells hg .null]
    rfl
  | emptyList hi =>
    rw [readChoice, afterGap_spells hg (.emptyList hi)]
    rfl
  | list hi head tail =>
    rw [readChoice, afterGap_spells hg (.list hi head tail)]
    rfl

/-! ## Whole texts -/

/-- On a document a reader that reads a shape succeeds with the value of the tree or fails. -/
theorem Reads.readWhole {reader : Reader α} {shape : Shape α} (h : reader.Reads shape) {t : Tree}
    (hs : SpellsDocument t s) : (reader.readWhole s).toOption = shape t := by
  cases hs with
  | spaced hb value ha =>
    have hr : EndsNumber _ := endsNumber_append ha endsNumber_nil
    rw [List.append_nil] at hr
    have hread := h value hb hr
    rw [Reader.readWhole]
    cases ht : shape t with
    | none =>
      obtain ⟨fault, hf⟩ := eq_error_of_map hread ht
      simp [hf]
    | some a =>
      have hok := eq_ok_of_map hread ht
      simp [hok, afterGap_gap ha]

end Reader

end PolicyStore.Json
