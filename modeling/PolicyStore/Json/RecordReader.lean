import PolicyStore.Json.Reader

/-!
# Reading records

A record has named fields, some of which have to be there. It is read into a draft, field by field,
in the order of the text. As an object its members may come in any order; one with another name is
passed over, one that comes twice is refused. As a list its fields come in the order of the layout.
-/

namespace PolicyStore.Json

/-- A field of a record that is being read into a draft. -/
structure Field (σ : Type) where
  name : String
  required : Bool
  isSet : σ → Bool
  update : Reader (σ → σ)

/-- The fields of a record in order, and what messages call it. -/
structure Layout (σ : Type) where
  title : String
  fields : List (Field σ)

namespace Layout

variable {σ : Type}

def field? (layout : Layout σ) (name : String) : Option (Field σ) :=
  layout.fields.find? fun field => field.name == name

def missing? (layout : Layout σ) (draft : σ) : Option (Field σ) :=
  layout.fields.find? fun field => field.required && !field.isSet draft

/-- The place where a fault about a whole object is reported: past a closing brace, if that is what
comes next. -/
def pastObject (s : List Char) : List Char :=
  match afterGap s with
  | '}' :: rest => rest
  | rest => rest

/-- Reads the members of an object after its opening brace into a draft, up to the closing brace,
which is left. -/
def readMembers (layout : Layout σ) (first : Bool) (draft : σ) (s : List Char) :
    Except Fault (σ × List Char) :=
  match hk : Reader.readKey first s with
  | .error fault => .error fault
  | .ok (none, rest) =>
    match layout.missing? draft with
    | some field => .error (.here (.missingField field.name) (pastObject rest))
    | none => .ok (draft, rest)
  | .ok (some key, rest) =>
    match layout.field? key with
    | some field =>
      if field.isSet draft then .error (.here (.repeatedField field.name) (pastObject rest))
      else
        match hc : scanColon rest with
        | .error fault => .error fault
        | .ok rest' =>
          match hv : field.update.read rest' with
          | .error fault => .error fault
          | .ok (update, after) =>
            have : after.length < s.length := by
              have := (Reader.readKey_length hk).1; have := scanColon_length hc
              have := field.update.shorter hv
              omega
            readMembers layout false (update draft) after
    | none =>
      match hc : scanColon rest with
      | .error fault => .error fault
      | .ok rest' =>
        match hv : skipValue rest' with
        | .error fault => .error fault
        | .ok after =>
          have : after.length < s.length := by
            have := (Reader.readKey_length hk).1; have := scanColon_length hc
            have := skipValue_length hv
            omega
          readMembers layout false draft after
termination_by s.length

theorem readMembers_length {layout : Layout σ} {first : Bool} {draft done : σ} {s r : List Char}
    (h : layout.readMembers first draft s = .ok (done, r)) : r.length ≤ s.length := by
  fun_induction layout.readMembers first draft s with
  | case1 => simp at h
  | case2 => simp at h
  | case3 _ _ _ _ hk _ =>
    simp only [Except.ok.injEq, Prod.mk.injEq] at h
    rw [← h.2]
    exact (Reader.readKey_length hk).1
  | case4 => simp at h
  | case5 => simp at h
  | case6 => simp at h
  | case7 _ _ _ _ _ _ _ _ _ _ _ _ _ _ _ ih => have := ih h; omega
  | case8 => simp at h
  | case9 => simp at h
  | case10 _ _ _ _ _ _ _ _ _ _ _ _ ih => have := ih h; omega

/-- Reads the elements of a list after its opening bracket as the given fields, up to the end of the
list or of the fields. `index` counts the elements read so far. -/
def readElements (layout : Layout σ) (index : Nat) (draft : σ) :
    List (Field σ) → List Char → Except Fault (σ × List Char)
  | [], s => .ok (draft, s)
  | field :: fields, s =>
    match afterGap s with
    | [] => .error (.here .endInList [])
    | c :: rest =>
      if c = ']' then
        match (field :: fields).findIdx? Field.required with
        | some lacking =>
          .error (.here (.wrongLength (index + lacking)
            (layout.title ++ " with " ++ toString layout.fields.length ++ " elements")) rest)
        | none => .ok (draft, c :: rest)
      else if index = 0 then element field fields (c :: rest)
      else if c = ',' then
        match afterGap rest with
        | [] => .error (.here .endInValue [])
        | ']' :: more => .error (.peek .trailingComma (']' :: more))
        | _ => element field fields rest
      else .error (.peek .listCommaOrEndDue (c :: rest))
where
  element (field : Field σ) (fields : List (Field σ)) (s : List Char) :
      Except Fault (σ × List Char) :=
    match field.update.read s with
    | .error fault => .error fault
    | .ok (update, rest) => readElements layout (index + 1) (update draft) fields rest

theorem readElements_length {layout : Layout σ} {index : Nat} {draft done : σ}
    {fields : List (Field σ)} {s r : List Char}
    (h : layout.readElements index draft fields s = .ok (done, r)) : r.length ≤ s.length := by
  induction fields generalizing index draft s with
  | nil => simp only [readElements, Except.ok.injEq, Prod.mk.injEq] at h; simp [h.2]
  | cons field fields ih =>
    have element {t : List Char} (h : readElements.element layout index draft field fields t
        = .ok (done, r)) : r.length ≤ t.length := by
      unfold readElements.element at h
      split at h
      · simp at h
      · rename_i hu
        have := field.update.shorter hu
        have := ih h
        omega
    unfold readElements at h
    split at h
    · simp at h
    · rename_i c rest hg
      have hl := afterGap_cons_length hg
      split at h
      · split at h
        · simp at h
        · simp only [Except.ok.injEq, Prod.mk.injEq] at h
          rw [← h.2, List.length_cons]; omega
      · split at h
        · have := element h
          rw [List.length_cons] at this; omega
        · split at h
          · split at h
            · simp at h
            · simp at h
            · have := element h
              omega
          · simp at h

def readRecord (layout : Layout σ) (blank : σ) (s : List Char) : Except Fault (σ × List Char) :=
  match afterGap s with
  | [] => .error (.here .endInValue [])
  | '[' :: rest =>
    match layout.readElements 0 blank layout.fields rest with
    | .error fault => .error fault
    | .ok (draft, rest) => (Reader.endList rest).map (draft, ·)
  | '{' :: rest =>
    match layout.readMembers true blank rest with
    | .error fault => .error fault
    | .ok (draft, rest) => (Reader.endObject rest).map (draft, ·)
  | rest => .error (mismatch layout.title rest)

end Layout

/-- A reader of records; `blank` is the draft with no field set. -/
def Reader.record {σ : Type} (layout : Layout σ) (blank : σ) : Reader σ where
  read := layout.readRecord blank
  shorter {s a r} h := by
    unfold Layout.readRecord at h
    split at h
    · simp at h
    · rename_i rest hg
      split at h
      · simp at h
      · rename_i draft after hd
        cases he : Reader.endList after with
        | error fault => simp [he, Except.map] at h
        | ok last =>
          have h1 := afterGap_cons_length hg
          have h2 := Layout.readElements_length hd
          have h3 := Reader.endList_length he
          simp only [he, Except.map, Except.ok.injEq, Prod.mk.injEq] at h
          rw [← h.2]; omega
    · rename_i rest hg
      split at h
      · simp at h
      · rename_i draft after hd
        cases he : Reader.endObject after with
        | error fault => simp [he, Except.map] at h
        | ok last =>
          have h1 := afterGap_cons_length hg
          have h2 := Layout.readMembers_length hd
          have h3 := Reader.endObject_length he
          simp only [he, Except.map, Except.ok.injEq, Prod.mk.injEq] at h
          rw [← h.2]; omega
    · simp at h

/-- A field whose value goes into one optional place of the draft. -/
def Field.of {σ α : Type} (name : String) (required : Bool) (get : σ → Option α)
    (set : σ → α → σ) (value : Reader α) : Field σ where
  name := name
  required := required
  isSet draft := (get draft).isSome
  update := value.map fun a draft => set draft a

/-- Reads a whole text as one value, with nothing but gaps around it. -/
def Reader.readWhole {α : Type} (reader : Reader α) (text : List Char) : Except Fault α :=
  match reader.read text with
  | .error fault => .error fault
  | .ok (a, rest) =>
    match afterGap rest with
    | [] => .ok a
    | rest => .error (.peek .trailingCharacters rest)

end PolicyStore.Json
