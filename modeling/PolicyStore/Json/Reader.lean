import PolicyStore.Json.Skip

/-!
# Readers of wanted values

A reader takes a value of one shape from the front of a text. Lists, tables and records are read
item by item, each item by its own reader, so the first problem met in the text decides the fault.
A record may be written as an object, whose unknown members are passed over, or as the list of its
fields in order.
-/

namespace PolicyStore.Json

/-- A reader: it either reports a fault or gives a value and a strictly shorter rest. -/
structure Reader (α : Type) where
  read : List Char → Except Fault (α × List Char)
  shorter : ∀ {s : List Char} {a : α} {r : List Char}, read s = .ok (a, r) → r.length < s.length

/-- The fault of a value that is not of the expected shape. Words, numbers and strings are read to
their end first, so a broken one is reported as broken. -/
def mismatch (expected : String) : List Char → Fault
  | 'n' :: rest => word ['u', 'l', 'l'] .null rest
  | 't' :: rest => word ['r', 'u', 'e'] (.flag true) rest
  | 'f' :: rest => word ['a', 'l', 's', 'e'] (.flag false) rest
  | '"' :: rest =>
    match scanText [] rest with
    | .error fault => fault
    | .ok (text, rest) => .here (.wrongShape (.text (String.ofList text)) expected) rest
  | '[' :: rest => .here (.wrongShape .list expected) ('[' :: rest)
  | '{' :: rest => .here (.wrongShape .object expected) ('{' :: rest)
  | s =>
    if s.head?.any fun c => c = '-' ∨ c.isDigit then
      match scanNumber s with
      | .error fault => fault
      | .ok (number, rest) => .here (.wrongShape number.found expected) rest
    else .peek .valueDue s
where
  word (letters : List Char) (found : Found) (rest : List Char) : Fault :=
    match scanWord letters rest with
    | .error fault => fault
    | .ok rest => .here (.wrongShape found expected) rest

namespace Reader

def map {α β : Type} (f : α → β) (reader : Reader α) : Reader β where
  read s := (reader.read s).map fun (a, rest) => (f a, rest)
  shorter {s b r} h := by
    cases ha : reader.read s with
    | error fault => simp [ha, Except.map] at h
    | ok p =>
      simp only [ha, Except.map, Except.ok.injEq, Prod.mk.injEq] at h
      rw [← h.2]
      exact reader.shorter ha

/-! ## Scalars -/

def readFlag (s : List Char) : Except Fault (Bool × List Char) :=
  match afterGap s with
  | [] => .error (.here .endInValue [])
  | 't' :: rest => (scanWord ['r', 'u', 'e'] rest).map (true, ·)
  | 'f' :: rest => (scanWord ['a', 'l', 's', 'e'] rest).map (false, ·)
  | rest => .error (mismatch "a boolean" rest)

def flag : Reader Bool where
  read := readFlag
  shorter {s a r} h := by
    unfold readFlag at h
    split at h
    · simp at h
    · rename_i rest hg
      cases hw : scanWord ['r', 'u', 'e'] rest with
      | error fault => simp [hw, Except.map] at h
      | ok after =>
        have := afterGap_cons_length hg
        have := scanWord_length hw
        simp only [hw, Except.map, Except.ok.injEq, Prod.mk.injEq] at h
        rw [← h.2]; omega
    · rename_i rest hg
      cases hw : scanWord ['a', 'l', 's', 'e'] rest with
      | error fault => simp [hw, Except.map] at h
      | ok after =>
        have := afterGap_cons_length hg
        have := scanWord_length hw
        simp only [hw, Except.map, Except.ok.injEq, Prod.mk.injEq] at h
        rw [← h.2]; omega
    · simp at h

def readText (expected : String) (s : List Char) : Except Fault (String × List Char) :=
  match afterGap s with
  | [] => .error (.here .endInValue [])
  | '"' :: rest => (scanText [] rest).map fun (text, rest) => (String.ofList text, rest)
  | rest => .error (mismatch expected rest)

theorem readText_length {expected : String} {s r : List Char} {t : String}
    (h : readText expected s = .ok (t, r)) : r.length < s.length := by
  unfold readText at h
  split at h
  · simp at h
  · rename_i rest hg
    cases hw : scanText [] rest with
    | error fault => simp [hw, Except.map] at h
    | ok p =>
      have := afterGap_cons_length hg
      have := scanText_length (t := p.1) (r := p.2) hw
      simp only [hw, Except.map, Except.ok.injEq, Prod.mk.injEq] at h
      rw [← h.2]; omega
  · simp at h

def text : Reader String where
  read := readText "a string"
  shorter := readText_length

/-- Reads a number written as an integer of at most `bound`; `expected` names the range. -/
def readNatural (bound : Nat) (expected : String) (s : List Char) :
    Except Fault (Nat × List Char) :=
  match afterGap s with
  | [] => .error (.here .endInValue [])
  | c :: rest =>
    if c = '-' ∨ c.isDigit then
      match scanNumber (c :: rest) with
      | .error fault => .error fault
      | .ok (.natural n, after) =>
        if n ≤ bound then .ok (n, after) else .error (.here (.unfit (.integer n) expected) after)
      | .ok (.negated n, after) => .error (.here (.unfit (.integer (-n)) expected) after)
      | .ok (.fractional negative x, after) =>
        .error (.here (.wrongShape (.fractional negative x) expected) after)
    else .error (mismatch expected (c :: rest))

def natural (bound : Nat) (expected : String) : Reader Nat where
  read := readNatural bound expected
  shorter {s a r} h := by
    unfold readNatural at h
    split at h
    · simp at h
    · rename_i c rest hg
      split at h
      · split at h
        · simp at h
        · rename_i n after hn
          split at h
          · simp only [Except.ok.injEq, Prod.mk.injEq] at h
            have := scanNumber_length hn
            have := afterGap_cons_length hg
            simp only [List.length_cons] at *
            rw [← h.2]; omega
          · simp at h
        · simp at h
        · simp at h
      · simp at h

/-! ## Lists -/

/-- Reads the items of a list after its opening bracket, up to the closing one, which is left. `read`
holds the items so far, last one first. -/
def readItems {α : Type} (item : Reader α) (first : Bool) (read : List α) (s : List Char) :
    Except Fault (List α × List Char) :=
  match hg : afterGap s with
  | [] => .error (.here .endInList [])
  | c :: rest =>
    have : rest.length < s.length := afterGap_cons_length hg
    if c = ']' then .ok (read.reverse, c :: rest)
    else if first then
      match hi : item.read (c :: rest) with
      | .error fault => .error fault
      | .ok (a, after) =>
        have : after.length < s.length := by
          have := item.shorter hi; simp only [List.length_cons] at this; omega
        readItems item false (a :: read) after
    else if c = ',' then
      match afterGap rest with
      | [] => .error (.here .endInValue [])
      | ']' :: more => .error (.peek .trailingComma (']' :: more))
      | _ =>
        match hi : item.read rest with
        | .error fault => .error fault
        | .ok (a, after) =>
          have : after.length < s.length := by have := item.shorter hi; omega
          readItems item false (a :: read) after
    else .error (.peek .listCommaOrEndDue (c :: rest))
termination_by s.length

theorem readItems_length {α : Type} {item : Reader α} {first : Bool} {read as : List α}
    {s r : List Char} (h : readItems item first read s = .ok (as, r)) : r.length ≤ s.length := by
  fun_induction readItems item first read s with
  | case1 => simp at h
  | case2 _ _ _ _ _ _ =>
    simp only [Except.ok.injEq, Prod.mk.injEq] at h
    rw [← h.2, List.length_cons]; omega
  | case3 => simp at h
  | case4 _ _ _ _ _ _ _ _ _ _ _ ih => have := ih h; omega
  | case5 => simp at h
  | case6 => simp at h
  | case7 => simp at h
  | case8 _ _ _ _ _ _ _ _ _ _ _ _ _ _ ih => have := ih h; omega
  | case9 => simp at h

def endList (s : List Char) : Except Fault (List Char) :=
  match afterGap s with
  | ']' :: rest => .ok rest
  | ',' :: rest =>
    match afterGap rest with
    | ']' :: more => .error (.peek .trailingComma (']' :: more))
    | more => .error (.peek .trailingCharacters more)
  | [] => .error (.here .endInList [])
  | rest => .error (.peek .trailingCharacters rest)

theorem endList_length {s r : List Char} (h : endList s = .ok r) : r.length < s.length := by
  unfold endList at h
  split at h
  · rename_i rest hg
    simp only [Except.ok.injEq] at h
    rw [← h]
    exact afterGap_cons_length hg
  · split at h <;> simp at h
  · simp at h
  · simp at h

def readList {α : Type} (item : Reader α) (s : List Char) : Except Fault (List α × List Char) :=
  match afterGap s with
  | [] => .error (.here .endInValue [])
  | '[' :: rest =>
    match readItems item true [] rest with
    | .error fault => .error fault
    | .ok (items, rest) => (endList rest).map (items, ·)
  | rest => .error (mismatch "a sequence" rest)

def list {α : Type} (item : Reader α) : Reader (List α) where
  read := readList item
  shorter {s a r} h := by
    unfold readList at h
    split at h
    · simp at h
    · rename_i rest hg
      split at h
      · simp at h
      · rename_i items after hi
        cases he : endList after with
        | error fault => simp [he, Except.map] at h
        | ok last =>
          have h1 := afterGap_cons_length hg
          have h2 := readItems_length hi
          have h3 := endList_length he
          simp only [he, Except.map, Except.ok.injEq, Prod.mk.injEq] at h
          rw [← h.2]; omega
    · simp at h

/-! ## Objects -/

/-- Reads the next key of an object, or finds its closing brace, which is left. -/
def readKey (first : Bool) (s : List Char) : Except Fault (Option String × List Char) :=
  match afterGap s with
  | [] => .error (.here .endInObject [])
  | c :: rest =>
    if c = '}' then .ok (none, c :: rest)
    else if first then
      if c = '"' then key rest else .error (.peek .keyNotText (c :: rest))
    else if c = ',' then
      match afterGap rest with
      | [] => .error (.here .endInValue [])
      | '"' :: more => key more
      | '}' :: more => .error (.peek .trailingComma ('}' :: more))
      | more => .error (.peek .keyNotText more)
    else .error (.peek .objectCommaOrEndDue (c :: rest))
where
  key (s : List Char) : Except Fault (Option String × List Char) :=
    (scanText [] s).map fun (text, rest) => (some (String.ofList text), rest)

theorem readKey_key_length {s r : List Char} {k : Option String}
    (h : readKey.key s = .ok (k, r)) : r.length < s.length := by
  unfold readKey.key at h
  cases ht : scanText [] s with
  | error fault => simp [ht, Except.map] at h
  | ok p =>
    simp only [ht, Except.map, Except.ok.injEq, Prod.mk.injEq] at h
    rw [← h.2]
    exact scanText_length (t := p.1) ht

theorem readKey_length {first : Bool} {s r : List Char} {k : Option String}
    (h : readKey first s = .ok (k, r)) :
    r.length ≤ s.length ∧ (k.isSome → r.length < s.length) := by
  unfold readKey at h
  split at h
  · simp at h
  · rename_i c rest hg
    have h1 := afterGap_cons_length hg
    split at h
    · simp only [Except.ok.injEq, Prod.mk.injEq] at h
      rw [← h.1, ← h.2, List.length_cons]
      exact ⟨by omega, by simp⟩
    · split at h
      · split at h
        · have := readKey_key_length h
          exact ⟨by omega, fun _ => by omega⟩
        · simp at h
      · split at h
        · split at h
          · simp at h
          · rename_i more hm
            have := readKey_key_length h
            have := afterGap_cons_length hm
            exact ⟨by omega, fun _ => by omega⟩
          · simp at h
          · simp at h
        · simp at h

def endObject (s : List Char) : Except Fault (List Char) :=
  match afterGap s with
  | '}' :: rest => .ok rest
  | ',' :: rest => .error (.peek .trailingComma (',' :: rest))
  | [] => .error (.here .endInObject [])
  | rest => .error (.peek .trailingCharacters rest)

theorem endObject_length {s r : List Char} (h : endObject s = .ok r) : r.length < s.length := by
  unfold endObject at h
  split at h
  · rename_i rest hg
    simp only [Except.ok.injEq] at h
    rw [← h]
    exact afterGap_cons_length hg
  · simp at h
  · simp at h
  · simp at h

/-- Reads the members of a table, an object whose keys are free, after its opening brace. `read`
holds the members so far, last one first. -/
def readMembers {α : Type} (value : Reader α) (first : Bool) (read : List (String × α))
    (s : List Char) : Except Fault (List (String × α) × List Char) :=
  match hk : readKey first s with
  | .error fault => .error fault
  | .ok (none, rest) => .ok (read.reverse, rest)
  | .ok (some key, rest) =>
    match hc : scanColon rest with
    | .error fault => .error fault
    | .ok rest' =>
      match hv : value.read rest' with
      | .error fault => .error fault
      | .ok (a, after) =>
        have : after.length < s.length := by
          have := (readKey_length hk).1; have := scanColon_length hc; have := value.shorter hv
          omega
        readMembers value false ((key, a) :: read) after
termination_by s.length

theorem readMembers_length {α : Type} {value : Reader α} {first : Bool}
    {read as : List (String × α)} {s r : List Char}
    (h : readMembers value first read s = .ok (as, r)) : r.length ≤ s.length := by
  fun_induction readMembers value first read s with
  | case1 => simp at h
  | case2 _ _ _ _ hk =>
    simp only [Except.ok.injEq, Prod.mk.injEq] at h
    rw [← h.2]
    exact (readKey_length hk).1
  | case3 => simp at h
  | case4 => simp at h
  | case5 _ _ _ _ _ _ _ _ _ _ _ _ ih => have := ih h; omega

/-- Reads a table as its members in order; a key may occur more than once. -/
def readTable {α : Type} (value : Reader α) (s : List Char) :
    Except Fault (List (String × α) × List Char) :=
  match afterGap s with
  | [] => .error (.here .endInValue [])
  | '{' :: rest =>
    match readMembers value true [] rest with
    | .error fault => .error fault
    | .ok (members, rest) => (endObject rest).map (members, ·)
  | rest => .error (mismatch "a map" rest)

def table {α : Type} (value : Reader α) : Reader (List (String × α)) where
  read := readTable value
  shorter {s a r} h := by
    unfold readTable at h
    split at h
    · simp at h
    · rename_i rest hg
      split at h
      · simp at h
      · rename_i items after hi
        cases he : endObject after with
        | error fault => simp [he, Except.map] at h
        | ok last =>
          have h1 := afterGap_cons_length hg
          have h2 := readMembers_length hi
          have h3 := endObject_length he
          simp only [he, Except.map, Except.ok.injEq, Prod.mk.injEq] at h
          rw [← h.2]; omega
    · simp at h

end Reader

end PolicyStore.Json
