import PolicyStore.Proofs.Json.Sorting
import PolicyStore.Proofs.Json.Unambiguous
import PolicyStore.Proofs.Maps

/-!
# What documents are read as

A document whose objects have keys of their own, do not begin with the mark and hold no numbers but
those of 64 bits is read as its tree with sorted members, whatever it is spelled like. The readers of
documents are told by shapes, as those of wanted values are: what an object under the mark stands for
is left to a function of the text there.
-/

namespace PolicyStore.Json

/-! ## Shapes of documents -/

namespace Shape

variable (embedded : String → Except Problem Tree)

/-- The value of a number. -/
def number : Shape Number
  | .number n => n.value.toOption
  | _ => none

/-- What an object is read as: with its members in order, or as what the text under the mark stands
for, which must be all there is. -/
def object (value : Shape Tree) : Shape Tree
  | .object ((key, t) :: members) =>
    if key = Reader.embeddingMark then
      (text t).bind fun s => if members = [] then (embedded s).toOption else none
    else
      (table value (.object ((key, t) :: members))).map fun found => .object (Reader.byKey found)
  | t => (table value t).map fun found => .object (Reader.byKey found)

/-- What a document is read as, given what lists and objects are. -/
def document (list object : Shape Tree) : Shape Tree
  | .null => some .null
  | .flag value => some (.flag value)
  | .number n => (number (.number n)).map fun value => .number value.numeral
  | .text value => some (.text value)
  | .list items => list (.list items)
  | .object members => object (.object members)

/-- What a document is read as that is nested at most so deep. -/
def tree : Nat → Shape Tree
  | 0 => document (fun _ => none) fun _ => none
  | depth + 1 =>
    document (fun t => (list (tree depth) t).map .list) (object embedded (tree depth))

end Shape

namespace Reader

variable {α : Type} {embedded : String → Except Problem Tree} {value : Reader Tree}
  {shape : Shape Tree} {s gap rest : List Char}

theorem reads_number : number.Reads Shape.number := by
  intro t s gap rest hs hg hr
  simp only [number, readNumber]
  rw [afterGap_spells hg hs]
  cases hs with
  | @number n hn =>
    obtain ⟨c, r, hs, hc⟩ := hn.exists_cons
    have hscan := scanNumeral_chars hn .endInValue hr
    rw [hs, List.cons_append] at hscan ⊢
    simp only [hc, if_true, scanNumber, hscan, Shape.number]
    cases n.value <;> rfl
  | text h => cases h; rfl
  | flag value => cases value <;> rfl
  | null => rfl
  | emptyList => rfl
  | list => rfl
  | emptyObject => rfl
  | object => rfl

theorem reads_tooDeep : (tooDeep : Reader α).Reads fun _ => none :=
  fun _ _ _ _ _ _ _ => rfl

/-! ## Objects -/

theorem afterMark?_first {key : String} {k : List Char} (hk : SpellsText key k) (hg : IsGap gap)
    (rest : List Char) :
    afterMark? (gap ++ (k ++ rest)) = if key = embeddingMark then some rest else none := by
  rw [afterMark?, readKey_first hk hg]

theorem afterMark?_end (hg : IsGap gap) (rest : List Char) :
    afterMark? (gap ++ '}' :: rest) = none := by
  rw [afterMark?, readKey_end (afterGap_append_cons hg (by decide) rest)]

theorem endObject_spelled {members : List (String × Tree)} (h : SpellsMembers members s)
    (rest : List Char) :
    (endObject (s ++ rest)).toOption = if members = [] then some rest else none := by
  cases h with
  | nil hg =>
    simp only [List.append_assoc, List.cons_append, List.nil_append]
    rw [endObject, afterGap_append_cons hg (by decide)]
    rfl
  | cons hb =>
    simp only [List.append_assoc, List.cons_append]
    rw [endObject, afterGap_append_cons hb (by decide)]
    rfl

/-- An object that does not begin with the mark is read as a table is. -/
theorem object_read_unmarked (hg : afterGap s = '{' :: rest) (hmark : afterMark? rest = none) :
    (object embedded value).read s =
      ((table value).read s).map fun (members, rest) => (.object (byKey members), rest) := by
  simp only [object, table, readTable, hg, readContents, hmark]
  cases readMembers value true [] rest with
  | error fault => rfl
  | ok found =>
    obtain ⟨members, after⟩ := found
    dsimp only [Except.map]
    cases endObject after <;> rfl

/-- An object that begins with the mark is read as what the text there stands for. -/
theorem object_read_marked {t : Tree} {members : List (String × Tree)} {before after v w : List Char}
    (hmark : afterMark? rest = some (before ++ ':' :: (after ++ (v ++ (w ++ s)))))
    (hg : afterGap gap = '{' :: rest) (hb : IsGap before) (ha : IsGap after) (hv : Spells t v)
    (tail : SpellsMembers members w) :
    ((object embedded value).read gap).toOption =
      ((Shape.text t).bind fun text =>
        if members = [] then (embedded text).toOption else none).map (·, s) := by
  simp only [object, hg, readContents, hmark, readEmbedded, scanColon_spelled hb]
  cases ht : Shape.text t with
  | none =>
    obtain ⟨fault, hfault⟩ := toOption_eq_none (readText_not_text hv ha ht "raw value" (w ++ s))
    simp [hfault]
  | some text =>
    cases hv with
    | text h =>
      obtain rfl : _ = text := by simpa [Shape.text] using ht
      have hend := endObject_spelled tail s
      simp only [readText_spelled h ha, Option.bind_some]
      cases embedded _ with
      | error problem => by_cases hm : members = [] <;> simp [hm]
      | ok found =>
        by_cases hm : members = []
        · rw [if_pos hm] at hend
          simp [toOption_eq_some hend, hm, Except.map]
        · rw [if_neg hm] at hend
          obtain ⟨fault, hfault⟩ := toOption_eq_none hend
          simp [hfault, hm, Except.map]
    | _ => simp [Shape.text] at ht

/-- An object that begins with the mark is not read when there is no text under it. -/
theorem object_read_mismatch {k before : List Char} {fault : Fault} (hk : SpellsText embeddingMark k)
    (hg : IsGap gap) (hb : IsGap before) (h : readText "raw value" s = .error fault) :
    (object embedded value).read ('{' :: (gap ++ (k ++ (before ++ ':' :: s)))) = .error fault := by
  have hmark := afterMark?_first hk hg (before ++ ':' :: s)
  rw [if_pos rfl] at hmark
  simp only [object, afterGap_cons (by decide : isGap '{' = false), readContents, hmark, readEmbedded,
    scanColon_spelled hb, h]

theorem Reads.object (hi : value.Reads shape) :
    (object embedded value).Reads (Shape.object embedded shape) := by
  intro t s gap rest hs hg hr
  obtain ⟨whole, hwhole⟩ : ∃ whole, whole = gap ++ (s ++ rest) := ⟨_, rfl⟩
  have hafter : afterGap whole = s ++ rest := hwhole ▸ afterGap_spells hg hs rest
  have htable := hi.table hs hg hr
  rw [← hwhole] at htable ⊢
  have hunmarked : ∀ {inner : List Char}, afterGap whole = '{' :: inner → afterMark? inner = none →
      ((Reader.object embedded value).read whole).toOption =
        ((Shape.table shape t).map fun found => Tree.object (byKey found)).map (·, rest) := by
    intro inner hinner hmark
    rw [object_read_unmarked hinner hmark, toOption_map, htable]
    cases Shape.table shape t <;> rfl
  cases hs with
  | emptyObject hin =>
    simp only [List.cons_append, List.append_assoc, List.nil_append] at hafter
    exact hunmarked hafter (afterMark?_end hin rest)
  | @object inner _ w key t members hin head tail =>
    cases head with
    | @colon before after k v _ _ hk hb ha hv =>
      simp only [List.cons_append, List.append_assoc] at hafter
      have hmark := afterMark?_first hk hin (before ++ ':' :: (after ++ (v ++ (w ++ rest))))
      by_cases hkey : key = embeddingMark
      · rw [if_pos hkey] at hmark
        rw [object_read_marked hmark hafter hb ha hv tail, Shape.object, if_pos hkey]
      · rw [if_neg hkey] at hmark
        rw [hunmarked hafter hmark, Shape.object, if_neg hkey]
  | flag value => cases value <;> simp only [Reader.object, hafter] <;> rfl
  | number hn =>
    obtain ⟨c, r, hs, hc⟩ := hn.exists_cons
    have hb : c ≠ '{' := ne_of_begins_number hc (by decide) (by decide)
    rw [hs, List.cons_append] at hafter
    simp [Reader.object, hafter, hb, Shape.object, Shape.table]
  | text h =>
    cases h
    simp only [Reader.object, hafter]
    rfl
  | null =>
    simp only [Reader.object, hafter]
    rfl
  | emptyList =>
    simp only [Reader.object, hafter]
    rfl
  | list =>
    simp only [Reader.object, hafter]
    rfl

/-! ## Documents -/

theorem beginning_number {list object : Reader Tree} {c : Char} (hc : c = '-' ∨ c.isDigit = true) :
    beginning list object c = number.map fun number => .number number.numeral := by
  have hne : ∀ d : Char, d ≠ '-' → d.isDigit = false → c ≠ d := fun d => ne_of_begins_number hc
  rw [beginning.eq_def]
  split
  · exact absurd rfl (hne 'n' (by decide) (by decide))
  · exact absurd rfl (hne 't' (by decide) (by decide))
  · exact absurd rfl (hne 'f' (by decide) (by decide))
  · exact absurd rfl (hne '"' (by decide) (by decide))
  · exact absurd rfl (hne '[' (by decide) (by decide))
  · exact absurd rfl (hne '{' (by decide) (by decide))
  · rfl

/-- A document is read by the reader that its first character calls for. -/
theorem document_begins {list object : Reader Tree} {c : Char} (h : afterGap s = c :: rest) :
    (document list object).read s = (beginning list object c).read s := by
  simp only [document, h]

theorem document_read {list object : Reader Tree} {t : Tree} {c : Char} {r : List Char}
    (hs : Spells t (c :: r)) (hg : IsGap gap) (rest : List Char) :
    (document list object).read (gap ++ (c :: r ++ rest)) =
      (beginning list object c).read (gap ++ (c :: r ++ rest)) :=
  document_begins (afterGap_spells hg hs rest)

theorem Reads.document {list object : Reader Tree} {items members : Shape Tree}
    (hlist : list.Reads items) (hobject : object.Reads members) :
    (document list object).Reads (Shape.document items members) := by
  intro t s gap rest hs hg hr
  have hread := hs
  cases hs with
  | null =>
    rw [document_read hread hg]
    exact (reads_null.map fun () => Tree.null) hread hg hr
  | flag value =>
    cases value with
    | true =>
      rw [flagChars, document_read hread hg]
      exact (reads_flag.map Tree.flag) hread hg hr
    | false =>
      rw [flagChars, document_read hread hg]
      exact (reads_flag.map Tree.flag) hread hg hr
  | number hn =>
    obtain ⟨c, r, hs, hc⟩ := hn.exists_cons
    rw [hs] at hread ⊢
    rw [document_read hread hg, beginning_number hc]
    exact (reads_number.map fun number => Tree.number number.numeral) hread hg hr
  | text h =>
    cases h
    rw [document_read hread hg]
    exact (reads_text.map Tree.text) hread hg hr
  | emptyList =>
    rw [document_read hread hg]
    exact hlist hread hg hr
  | list =>
    rw [document_read hread hg]
    exact hlist hread hg hr
  | emptyObject =>
    rw [document_read hread hg]
    exact hobject hread hg hr
  | object =>
    rw [document_read hread hg]
    exact hobject hread hg hr

theorem reads_tree (embedded : String → Except Problem Tree) (depth : Nat) :
    (tree embedded depth).Reads (Shape.tree embedded depth) := by
  induction depth with
  | zero => exact .document reads_tooDeep reads_tooDeep
  | succ depth ih => exact .document (ih.list.map Tree.list) ih.object

/-! ## Members in order -/

/-- Members with keys of their own are only sorted. -/
theorem byKey_eq_mergeSort {members : List (String × Tree)}
    (h : members.Pairwise fun a b => a.1 ≠ b.1) : byKey members = members.mergeSort Tree.keyLe := by
  have hdistinct : members.Pairwise fun a b => ¬compare a.1 b.1 = .eq :=
    h.imp fun hne heq => hne (Std.LawfulEqCmp.eq_of_compare heq)
  have hsorted : (members.mergeSort Tree.keyLe).Pairwise fun a b => compare a.1 b.1 = .lt := by
    have hperm := (List.mergeSort_perm members Tree.keyLe).symm
    have hkeys := (hperm.pairwise_iff fun {a b} hne => Ne.symm hne).mp h
    have hle := List.pairwise_mergeSort Tree.keyLe_trans Tree.keyLe_total members
    refine (hkeys.and hle).imp fun {a b} hboth => ?_
    obtain ⟨hne, hle⟩ := hboth
    rw [Tree.keyLe] at hle
    cases hcompare : compare a.1 b.1 with
    | lt => rfl
    | eq => exact absurd (Std.LawfulEqCmp.eq_of_compare hcompare) hne
    | gt => simp [hcompare] at hle
  refine eq_of_strict (fun {a b} hab hba => ?_) Std.ExtTreeMap.ordered_keys_toList hsorted
    fun member => ?_
  · have hswap : compare b.1 a.1 = (compare a.1 b.1).swap := Std.OrientedCmp.eq_swap
    rw [hswap, hab] at hba
    cases hba
  · obtain ⟨key, t⟩ := member
    rw [List.mem_mergeSort, byKey, Std.ExtTreeMap.mem_toList_iff_getElem?_eq_some]
    constructor
    · intro hfound
      have hkey : key ∈ Std.ExtTreeMap.ofList members compare := by
        rw [Std.ExtTreeMap.mem_iff_isSome_getElem?, hfound]
        rfl
      obtain ⟨⟨_, u⟩, hmember, rfl⟩ := List.mem_map.mp
        (List.contains_iff_mem.mp (Std.ExtTreeMap.mem_ofList.mp hkey))
      have hheld := Std.ExtTreeMap.getElem?_ofList_of_mem Std.ReflCmp.compare_self hdistinct hmember
      rw [hfound] at hheld
      rw [Option.some.inj hheld]
      exact hmember
    · exact Std.ExtTreeMap.getElem?_ofList_of_mem Std.ReflCmp.compare_self hdistinct

end Reader

/-! ## Plain documents -/

theorem SpellsDocument.ne_nil {t : Tree} {s : List Char} (h : SpellsDocument t s) : s ≠ [] := by
  cases h with
  | spaced hb value ha =>
    obtain ⟨c, r, hs, -⟩ := value.exists_cons
    simp [hs]

namespace Tree

/-- Lists and objects stand in one another at most so deep; the members of an object have keys of their
own, the first of which is not the mark, and all numbers are naturals of 64 bits. -/
def Plain : Nat → Tree → Prop
  | _, .number n => ∃ k < UInt64.size, n = .ofNat k
  | 0, .list _ => False
  | 0, .object _ => False
  | depth + 1, .list items => ∀ item ∈ items, Plain depth item
  | depth + 1, .object members =>
    members.Pairwise (fun a b => a.1 ≠ b.1) ∧
      members.head?.map Prod.fst ≠ some Reader.embeddingMark ∧
        ∀ member ∈ members, Plain depth member.2
  | _, _ => True

theorem Plain.succ {depth : Nat} {t : Tree} (h : t.Plain depth) : t.Plain (depth + 1) := by
  induction depth generalizing t with
  | zero =>
    cases t with
    | list => exact h.elim
    | object => exact h.elim
    | number => exact h
    | _ => trivial
  | succ depth ih =>
    cases t with
    | list items => exact fun item hitem => ih (h item hitem)
    | object members => exact ⟨h.1, h.2.1, fun member hmember => ih (h.2.2 member hmember)⟩
    | number => exact h
    | _ => trivial

theorem Plain.mono {depth limit : Nat} (hle : depth ≤ limit) {t : Tree} (h : t.Plain depth) :
    t.Plain limit := by
  induction hle with
  | refl => exact h
  | step _ ih => exact ih.succ

theorem value_ofNat {k : Nat} (h : k < UInt64.size) : (Numeral.ofNat k).value = .ok (.natural k) :=
  (value_eq_natural_iff _ k).mpr ⟨rfl, rfl, rfl, Nat.ofDigitChars_ten_toDigits, h⟩

theorem mapM_eq_some_map {α β : Type} {f : α → Option β} {g : α → β} {as : List α}
    (h : ∀ a ∈ as, f a = some (g a)) : as.mapM f = some (as.map g) := by
  induction as with
  | nil => rfl
  | cons a as ih =>
    obtain ⟨ha, has⟩ := List.forall_mem_cons.mp h
    simp [ha, ih has]

theorem inOrder_eq_byKey {members : List (String × Tree)}
    (h : members.Pairwise fun a b => a.1 ≠ b.1) :
    Reader.byKey (sortedMembers members) = inOrder members := by
  refine Reader.byKey_eq_mergeSort ?_
  rw [sortedMembers_eq_map, List.pairwise_map]
  exact h

/-- Plain documents are read with their members sorted. -/
theorem Plain.shape {embedded : String → Except Problem Tree} {depth : Nat} {t : Tree}
    (h : t.Plain depth) : Shape.tree embedded depth t = some t.sorted := by
  induction depth generalizing t with
  | zero =>
    cases t with
    | list => exact h.elim
    | object => exact h.elim
    | number n =>
      obtain ⟨k, hk, rfl⟩ := h
      simp [Shape.tree, Shape.document, Shape.number, value_ofNat hk, Number.numeral, sorted]
    | _ => rfl
  | succ depth ih =>
    cases t with
    | list items =>
      have hitems : items.mapM (Shape.tree embedded depth) = some (items.map sorted) :=
        mapM_eq_some_map fun item hitem => ih (h item hitem)
      simp [Shape.tree, Shape.document, Shape.list, hitems, sorted_list]
    | object members =>
      obtain ⟨hdistinct, hmark, hvalues⟩ := h
      have htable : Shape.table (Shape.tree embedded depth) (.object members) =
          some (sortedMembers members) := by
        rw [sortedMembers_eq_map]
        exact mapM_eq_some_map fun member hmember => by rw [ih (hvalues member hmember)]; rfl
      rw [sorted_object, ← inOrder_eq_byKey hdistinct, Shape.tree, Shape.document]
      cases members with
      | nil =>
        rw [Shape.object, htable]
        · rfl
        · intro key t members hcons
          cases hcons
      | cons member members =>
        obtain ⟨key, t⟩ := member
        have hkey : key ≠ Reader.embeddingMark := fun hkey => hmark (by simp [hkey])
        rw [Shape.object, if_neg hkey, htable]
        rfl
    | number n =>
      obtain ⟨k, hk, rfl⟩ := h
      simp [Shape.tree, Shape.document, Shape.number, value_ofNat hk, Number.numeral, sorted]
    | _ => rfl

/-- Of a document that is spelled the reader gives what the shape of documents makes of its tree. -/
theorem read_spelled {t : Tree} {text : String} (h : SpellsDocument t text.toList) :
    ∃ embedded, read text =
      ((Reader.tree embedded 127).readWhole text.toList).mapError (·.locate text.toList) := by
  have hpositive : text.length ≠ 0 := by
    rw [← String.length_toList]
    exact fun hzero => h.ne_nil (List.length_eq_zero_iff.mp hzero)
  obtain ⟨size, hsize⟩ := Nat.exists_eq_succ_of_ne_zero hpositive
  exact ⟨readWithin size, by rw [read, hsize]; rfl⟩

/-- A plain document is read as its tree with sorted members. -/
theorem Plain.read {t : Tree} {text : String} (h : t.Plain 127)
    (hspelled : SpellsDocument t text.toList) : Tree.read text = .ok t.sorted := by
  obtain ⟨embedded, hread⟩ := read_spelled hspelled
  have hwhole := (Reader.reads_tree embedded 127).readWhole hspelled
  rw [h.shape] at hwhole
  rw [hread, toOption_eq_some hwhole]
  rfl

end Tree

end PolicyStore.Json
