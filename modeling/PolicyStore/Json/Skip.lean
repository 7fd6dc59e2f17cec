import PolicyStore.Json.Number

/-!
# Passing over a value

A member that no reader wants is checked for its form only: nesting may be of any depth, numbers of
any size, and numeric escapes need not make up characters. The lists and objects that are open are
kept as a stack, so passing over a value takes no recursion on its depth.
-/

namespace PolicyStore.Json

/-- A list or an object. -/
inductive Frame
  | list
  | object
  deriving DecidableEq, Repr

namespace Frame

def closer : Frame → Char
  | .list => ']'
  | .object => '}'

def ending : Frame → Cause
  | .list => .endInList
  | .object => .endInObject

/-- The fault of anything but a comma or the end after an item. -/
def separatorDue : Frame → Cause
  | .list => .listCommaOrEndDue
  | .object => .objectCommaOrEndDue

end Frame

/-- Passes over `null`, `true`, `false`, a string or a number. -/
def skipScalar : List Char → Except Fault (List Char)
  | 'n' :: rest => scanWord ['u', 'l', 'l'] rest
  | 't' :: rest => scanWord ['r', 'u', 'e'] rest
  | 'f' :: rest => scanWord ['a', 'l', 's', 'e'] rest
  | '"' :: rest => skipText rest
  | s =>
    if s.head?.any fun c => c = '-' ∨ c.isDigit then (scanNumeral .invalidNumber s).map (·.2)
    else .error (.peek .valueDue s)

theorem skipScalar_length {s r : List Char} (h : skipScalar s = .ok r) : r.length < s.length := by
  unfold skipScalar at h
  split at h
  · have := scanWord_length h; simp only [List.length_cons]; omega
  · have := scanWord_length h; simp only [List.length_cons]; omega
  · have := scanWord_length h; simp only [List.length_cons]; omega
  · have := skipText_length h; simp only [List.length_cons]; omega
  · split at h
    · cases hn : scanNumeral .invalidNumber s with
      | error fault => simp [hn, Except.map] at h
      | ok p =>
        simp only [hn, Except.map, Except.ok.injEq] at h
        rw [← h]
        exact scanNumeral_length hn
    · simp at h

def scanColon (s : List Char) : Except Fault (List Char) :=
  match afterGap s with
  | ':' :: rest => .ok rest
  | [] => .error (.here .endInObject [])
  | rest => .error (.peek .colonDue rest)

theorem scanColon_length {s r : List Char} (h : scanColon s = .ok r) : r.length < s.length := by
  unfold scanColon at h
  split at h
  · rename_i rest hg
    simp only [Except.ok.injEq] at h
    rw [← h]
    exact afterGap_cons_length hg
  · simp at h
  · simp at h

def skipKey (s : List Char) : Except Fault (List Char) :=
  match afterGap s with
  | '"' :: rest =>
    match skipText rest with
    | .error fault => .error fault
    | .ok rest => scanColon rest
  | [] => .error (.here .endInObject [])
  | rest => .error (.peek .keyNotText rest)

theorem skipKey_length {s r : List Char} (h : skipKey s = .ok r) : r.length < s.length := by
  unfold skipKey at h
  split at h
  · rename_i rest hg
    split at h
    · simp at h
    · rename_i rest' ht
      have h1 := scanColon_length h
      have h2 := skipText_length ht
      have h3 := afterGap_cons_length hg
      omega
  · simp at h
  · simp at h

/-- What comes next while a value is passed over. -/
inductive Stage
  | due
  /-- The first item of a list or object just opened, or its end. -/
  | opened (frame : Frame)
  /-- What follows a value: a comma or the end of what encloses it. -/
  | ended
  deriving DecidableEq, Repr

/-- An opened frame leads to a value without taking a character; nothing else does. -/
def Stage.rank : Stage → Nat
  | .opened _ => 1
  | _ => 0

/-- Passes over what is left of a value inside the open frames, innermost first. -/
def skipFrom (stage : Stage) (frames : List Frame) (s : List Char) : Except Fault (List Char) :=
  match stage with
  | .due =>
    match hg : afterGap s with
    | [] => .error (.here .endInValue [])
    | c :: rest =>
      have : rest.length < s.length := afterGap_cons_length hg
      if c = '[' then skipFrom (.opened .list) frames rest
      else if c = '{' then skipFrom (.opened .object) frames rest
      else
        match hs : skipScalar (c :: rest) with
        | .error fault => .error fault
        | .ok after =>
          have : after.length < s.length := by
            have := skipScalar_length hs; simp only [List.length_cons] at this; omega
          skipFrom .ended frames after
  | .opened frame =>
    match hg : afterGap s with
    | [] => .error (.here frame.ending [])
    | c :: rest =>
      have : rest.length < s.length := afterGap_cons_length hg
      if c = frame.closer then skipFrom .ended frames rest
      else
        match frame with
        | .list => skipFrom .due (.list :: frames) (c :: rest)
        | .object =>
          match hk : skipKey (c :: rest) with
          | .error fault => .error fault
          | .ok after =>
            have : after.length < s.length := by
              have := skipKey_length hk; simp only [List.length_cons] at this; omega
            skipFrom .due (.object :: frames) after
  | .ended =>
    match frames with
    | [] => .ok s
    | frame :: frames =>
      match hg : afterGap s with
      | [] => .error (.here frame.ending [])
      | c :: rest =>
        have : rest.length < s.length := afterGap_cons_length hg
        if c = frame.closer then skipFrom .ended frames rest
        else if c = ',' then
          match frame with
          | .list => skipFrom .due (.list :: frames) rest
          | .object =>
            match hk : skipKey rest with
            | .error fault => .error fault
            | .ok after =>
              have : after.length < s.length := by
                have := skipKey_length hk; omega
              skipFrom .due (.object :: frames) after
        else .error (.peek frame.separatorDue (c :: rest))
termination_by (s.length, stage.rank)
decreasing_by all_goals (simp_wf; simp only [Prod.lex_def, Stage.rank] at *; omega)

def skipValue (s : List Char) : Except Fault (List Char) :=
  skipFrom .due [] s

theorem skipFrom_length {stage : Stage} {frames : List Frame} {s r : List Char}
    (h : skipFrom stage frames s = .ok r) :
    r.length ≤ s.length ∧ (stage ≠ .ended → r.length < s.length) := by
  fun_induction skipFrom stage frames s with
  | case1 => simp at h
  | case2 _ _ _ _ _ ih => have := ih h; exact ⟨by omega, fun _ => by omega⟩
  | case3 _ _ _ _ _ _ ih => have := ih h; exact ⟨by omega, fun _ => by omega⟩
  | case4 => simp at h
  | case5 _ _ _ _ _ _ _ _ _ _ _ ih => have := ih h; exact ⟨by omega, fun _ => by omega⟩
  | case6 => simp at h
  | case7 _ _ _ _ _ _ ih => have := ih h; exact ⟨by omega, fun _ => by omega⟩
  | case8 _ _ _ _ _ _ _ ih =>
    have := (ih h).2 (by simp)
    simp only [List.length_cons] at this
    exact ⟨by omega, fun _ => by omega⟩
  | case9 => simp at h
  | case10 _ _ _ _ _ _ _ _ _ _ ih => have := ih h; exact ⟨by omega, fun _ => by omega⟩
  | case11 => simp only [Except.ok.injEq] at h; simp [h]
  | case12 => simp at h
  | case13 _ _ _ _ _ _ ih => have := ih h; exact ⟨by omega, fun _ => by omega⟩
  | case14 _ _ _ _ _ _ ih => have := ih h; exact ⟨by omega, fun _ => by omega⟩
  | case15 => simp at h
  | case16 _ _ _ _ _ _ _ _ _ ih => have := ih h; exact ⟨by omega, fun _ => by omega⟩
  | case17 => simp at h

theorem skipValue_length {s r : List Char} (h : skipValue s = .ok r) : r.length < s.length :=
  (skipFrom_length h).2 (by simp)

end PolicyStore.Json
