import PolicyStore.Json.Reader

/-!
# Reading one of several names

A choice is written as the string of its name, or as an object with the name as its one key and
`null` as the value.
-/

namespace PolicyStore.Json.Reader

/-- Reads a name and finds what it stands for. -/
def readName {α : Type} (names : List (String × α)) (s : List Char) :
    Except Fault (α × List Char) :=
  match readText "variant identifier" s with
  | .error fault => .error fault
  | .ok (name, rest) =>
    match names.lookup name with
    | some a => .ok (a, rest)
    | none => .error (.here (.unknownVariant name (names.map (·.1))) rest)

theorem readName_length {α : Type} {names : List (String × α)} {s r : List Char} {a : α}
    (h : readName names s = .ok (a, r)) : r.length < s.length := by
  unfold readName at h
  split at h
  · simp at h
  · rename_i ht
    split at h
    · simp only [Except.ok.injEq, Prod.mk.injEq] at h
      rw [← h.2]
      exact readText_length ht
    · simp at h

def readNull (s : List Char) : Except Fault (List Char) :=
  match afterGap s with
  | [] => .error (.here .endInValue [])
  | 'n' :: rest => scanWord ['u', 'l', 'l'] rest
  | rest => .error (mismatch "unit" rest)

theorem readNull_length {s r : List Char} (h : readNull s = .ok r) : r.length < s.length := by
  unfold readNull at h
  split at h
  · simp at h
  · rename_i rest hg
    have := afterGap_cons_length hg
    have := scanWord_length h
    omega
  · simp at h

/-- Takes the brace after the value of a choice. -/
def endChoice (s : List Char) : Except Fault (List Char) :=
  match afterGap s with
  | '}' :: rest => .ok rest
  | [] => .error (.here .endInObject [])
  | rest => .error (.here .valueDue rest)

theorem endChoice_length {s r : List Char} (h : endChoice s = .ok r) : r.length < s.length := by
  unfold endChoice at h
  split at h
  · rename_i rest hg
    simp only [Except.ok.injEq] at h
    rw [← h]
    exact afterGap_cons_length hg
  · simp at h
  · simp at h

def readChoice {α : Type} (names : List (String × α)) (s : List Char) :
    Except Fault (α × List Char) :=
  match afterGap s with
  | [] => .error (.here .endInValue [])
  | '"' :: rest => readName names ('"' :: rest)
  | '{' :: rest => do
    let (a, rest) ← readName names rest
    let rest ← scanColon rest
    let rest ← readNull rest
    let rest ← endChoice rest
    return (a, rest)
  | rest => .error (.peek .valueDue rest)

def choice {α : Type} (names : List (String × α)) : Reader α where
  read := readChoice names
  shorter {s a r} h := by
    unfold readChoice at h
    split at h
    · simp at h
    · rename_i rest hg
      have := readName_length h
      have := afterGap_length s
      rw [hg] at this
      omega
    · rename_i rest hg
      have h0 := afterGap_cons_length hg
      cases hn : readName names rest with
      | error fault => simp [hn, bind, Except.bind] at h
      | ok n =>
        cases hc : scanColon n.2 with
        | error fault => simp [hn, hc, bind, Except.bind] at h
        | ok c =>
          cases hu : readNull c with
          | error fault => simp [hn, hc, hu, bind, Except.bind] at h
          | ok u =>
            cases he : endChoice u with
            | error fault => simp [hn, hc, hu, he, bind, Except.bind] at h
            | ok e =>
              simp only [hn, hc, hu, he, bind, Except.bind, pure, Except.pure, Except.ok.injEq,
                Prod.mk.injEq] at h
              have h1 := readName_length (a := n.1) (r := n.2) hn
              have h2 := scanColon_length hc
              have h3 := readNull_length hu
              have h4 := endChoice_length he
              rw [← h.2]; omega
    · simp at h

end PolicyStore.Json.Reader
