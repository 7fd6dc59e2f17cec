import PolicyStore.Json.TreeReader
import PolicyStore.Proofs.Json.Printing
import PolicyStore.Proofs.Json.RecordReading

/-!
# A text is at most one document

No text spells two trees. A reader that takes every token as it is written gives the tree back from any
spelling of it, provided that it goes as deep as the tree does.
-/

namespace PolicyStore.Json

/-! ## A reader of spelled trees -/

namespace Reader

/-- Reads with the second reader what the first one refuses. -/
def orElse {α : Type} (first second : Reader α) : Reader α where
  read s :=
    match first.read s with
    | .ok found => .ok found
    | .error _ => second.read s
  shorter {s a r} h := by
    split at h
    next hfound => exact first.shorter (hfound.trans h)
    next => exact second.shorter h

/-- Reads a number as its token. -/
def readNumeral (s : List Char) : Except Fault (Numeral × List Char) :=
  match afterGap s with
  | [] => .error (.here .endInValue [])
  | c :: rest =>
    if c = '-' ∨ c.isDigit then scanNumeral .endInValue (c :: rest)
    else .error (mismatch "a number" (c :: rest))

theorem readNumeral_length {s r : List Char} {n : Numeral} (h : readNumeral s = .ok (n, r)) :
    r.length < s.length := by
  unfold readNumeral at h
  split at h
  next => cases h
  next hg =>
    split at h
    next =>
      have hgap := afterGap_cons_length hg
      have hscan := scanNumeral_length h
      simp only [List.length_cons] at hscan
      omega
    next => cases h

def numeral : Reader Numeral where
  read := readNumeral
  shorter := readNumeral_length

/-- A reader of what is no list and no object. -/
def leaf : Reader Tree :=
  (null.map fun () => Tree.null).orElse <| (flag.map Tree.flag).orElse <|
    (text.map Tree.text).orElse <| numeral.map Tree.number

/-- A reader of spelled trees that are nested at most so deep. -/
def spelled : Nat → Reader Tree
  | 0 => leaf
  | depth + 1 =>
    leaf.orElse <| ((list (spelled depth)).map Tree.list).orElse <|
      (table (spelled depth)).map Tree.object

end Reader

/-! ## What it reads -/

namespace Shape

/-- `null`, which says nothing. -/
def null : Shape Unit
  | .null => some ()
  | _ => none

/-- A number, as its token. -/
def numeral : Shape Numeral
  | .number n => some n
  | _ => none

/-- What is no list and no object. -/
def leaf : Shape Tree
  | .list _ => none
  | .object _ => none
  | t => some t

/-- A tree that is nested at most so deep. -/
def spelled : Nat → Shape Tree
  | 0 => leaf
  | depth + 1 => fun t =>
    (leaf t).or <| ((list (spelled depth) t).map Tree.list).or <|
      (table (spelled depth) t).map Tree.object

end Shape

namespace Reader

variable {α : Type}

theorem Reads.orElse {first second : Reader α} {shape other : Shape α} (h : first.Reads shape)
    (hother : second.Reads other) :
    (first.orElse second).Reads fun t => (shape t).or (other t) := by
  intro t s gap rest hs hg hr
  have hfirst := h hs hg hr
  rw [Reader.orElse]
  cases ht : shape t with
  | none =>
    obtain ⟨fault, hfault⟩ := eq_error_of_map hfirst ht
    simp [hfault, hother hs hg hr, ht]
  | some a => simp [eq_ok_of_map hfirst ht, ht]

theorem reads_null : null.Reads Shape.null := by
  intro t s gap rest hs hg hr
  rw [null, toOption_map]
  by_cases ht : t = .null
  · subst ht
    cases hs with
    | null =>
      simp only [List.cons_append, List.nil_append, readNull_null hg]
      rfl
  · have hnone : Shape.null t = none := by
      cases t with
      | null => exact absurd rfl ht
      | _ => rfl
    rw [readNull_other hs hg ht, hnone]
    rfl

theorem reads_numeral : numeral.Reads Shape.numeral := by
  intro t s gap rest hs hg hr
  simp only [numeral, readNumeral]
  rw [afterGap_spells hg hs]
  cases hs with
  | number hn =>
    obtain ⟨c, r, hs, hc⟩ := hn.exists_cons
    have hscan := scanNumeral_chars hn .endInValue hr
    rw [hs, List.cons_append] at hscan ⊢
    simp [hc, hscan, Shape.numeral]
  | text h => cases h; rfl
  | flag value => cases value <;> rfl
  | null => rfl
  | emptyList => rfl
  | list => rfl
  | emptyObject => rfl
  | object => rfl

theorem reads_leaf : leaf.Reads Shape.leaf := by
  have hreads := ((reads_null.map fun () => Tree.null).orElse
    ((reads_flag.map Tree.flag).orElse
      ((reads_text.map Tree.text).orElse (reads_numeral.map Tree.number))))
  intro t s gap rest hs hg hr
  refine (hreads hs hg hr).trans (congrArg _ ?_)
  cases t <;> rfl

theorem reads_spelled (depth : Nat) : (spelled depth).Reads (Shape.spelled depth) := by
  induction depth with
  | zero => exact reads_leaf
  | succ depth ih =>
    exact reads_leaf.orElse ((ih.list.map Tree.list).orElse (ih.table.map Tree.object))

end Reader

/-! ## Depth -/

namespace Tree

/-- Lists and objects stand in one another at most so deep. -/
def Within : Nat → Tree → Prop
  | 0, .list _ => False
  | 0, .object _ => False
  | depth + 1, .list items => ∀ item ∈ items, Within depth item
  | depth + 1, .object members => ∀ member ∈ members, Within depth member.2
  | _, _ => True

theorem Within.shape {depth : Nat} {t : Tree} (h : t.Within depth) :
    Shape.spelled depth t = some t := by
  induction depth generalizing t with
  | zero =>
    cases t with
    | list => exact h.elim
    | object => exact h.elim
    | _ => rfl
  | succ depth ih =>
    cases t with
    | list items =>
      have hitems : items.mapM (Shape.spelled depth) = some items :=
        mapM_eq_some_self fun item hitem => ih (h item hitem)
      simp [Shape.spelled, Shape.leaf, Shape.list, hitems]
    | object members =>
      have hmembers : (members.mapM fun member =>
          (Shape.spelled depth member.2).map (member.1, ·)) = some members :=
        mapM_eq_some_self fun member hmember => by rw [ih (h member hmember)]; rfl
      simp [Shape.spelled, Shape.leaf, Shape.list, Shape.table, hmembers]
    | _ => rfl

theorem Within.succ {depth : Nat} {t : Tree} (h : t.Within depth) : t.Within (depth + 1) := by
  induction depth generalizing t with
  | zero =>
    cases t with
    | list => exact h.elim
    | object => exact h.elim
    | _ => trivial
  | succ depth ih =>
    cases t with
    | list items => exact fun item hitem => ih (h item hitem)
    | object members => exact fun member hmember => ih (h member hmember)
    | _ => trivial

theorem Within.mono {depth limit : Nat} (hle : depth ≤ limit) {t : Tree} (h : t.Within depth) :
    t.Within limit := by
  induction hle with
  | refl => exact h
  | step _ ih => exact ih.succ

mutual

theorem exists_within (t : Tree) : ∃ depth, t.Within depth := by
  match t with
  | .null => exact ⟨0, trivial⟩
  | .flag _ => exact ⟨0, trivial⟩
  | .number _ => exact ⟨0, trivial⟩
  | .text _ => exact ⟨0, trivial⟩
  | .list items =>
    obtain ⟨depth, hitems⟩ := exists_itemsWithin items
    exact ⟨depth + 1, hitems⟩
  | .object members =>
    obtain ⟨depth, hmembers⟩ := exists_membersWithin members
    exact ⟨depth + 1, hmembers⟩

theorem exists_itemsWithin (items : List Tree) : ∃ depth, ∀ item ∈ items, item.Within depth := by
  match items with
  | [] => exact ⟨0, nofun⟩
  | item :: items =>
    obtain ⟨first, hfirst⟩ := exists_within item
    obtain ⟨others, hothers⟩ := exists_itemsWithin items
    refine ⟨max first others, List.forall_mem_cons.mpr ⟨?_, fun other hother => ?_⟩⟩
    · exact hfirst.mono (Nat.le_max_left _ _)
    · exact (hothers other hother).mono (Nat.le_max_right _ _)

theorem exists_membersWithin (members : List (String × Tree)) :
    ∃ depth, ∀ member ∈ members, member.2.Within depth := by
  match members with
  | [] => exact ⟨0, nofun⟩
  | (_, value) :: members =>
    obtain ⟨first, hfirst⟩ := exists_within value
    obtain ⟨others, hothers⟩ := exists_membersWithin members
    refine ⟨max first others, List.forall_mem_cons.mpr ⟨?_, fun other hother => ?_⟩⟩
    · exact hfirst.mono (Nat.le_max_left _ _)
    · exact (hothers other hother).mono (Nat.le_max_right _ _)

end

end Tree

/-! ## Documents -/

/-- A text spells one tree. -/
theorem SpellsDocument.unique {t u : Tree} {s : List Char} (h : SpellsDocument t s)
    (hother : SpellsDocument u s) : u = t := by
  obtain ⟨depth, ht⟩ := t.exists_within
  obtain ⟨limit, hu⟩ := u.exists_within
  have hfirst := (Reader.reads_spelled (max depth limit)).readWhole h
  have hsecond := (Reader.reads_spelled (max depth limit)).readWhole hother
  rw [(ht.mono (Nat.le_max_left _ _)).shape] at hfirst
  rw [(hu.mono (Nat.le_max_right _ _)).shape] at hsecond
  exact Option.some.inj (hsecond.symm.trans hfirst)

/-- A text is a document, and this tree is the only one that it spells. -/
structure Denotes (text : String) (tree : Tree) : Prop where
  spelled : SpellsDocument tree text.toList
  only : ∀ other, SpellsDocument other text.toList → other = tree

theorem Denotes.of_spelled {text : String} {tree : Tree} (h : SpellsDocument tree text.toList) :
    Denotes text tree := ⟨h, fun _ => h.unique⟩

theorem denotes_indented {tree : Tree} (h : tree.WellFormed) : Denotes tree.indented tree :=
  .of_spelled (Tree.spellsDocument_indented tree h)

end PolicyStore.Json
