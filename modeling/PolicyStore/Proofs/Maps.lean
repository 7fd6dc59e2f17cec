import Std.Data.ExtTreeMap

/-!
# Maps put together from lists

What a map holds under a key once the items of a list have been put into it one by one. A map lists
its keys in a strict order, and of such a list nothing but its members matters.
-/

namespace PolicyStore

variable {κ α β : Type} [Ord κ] [Std.TransOrd κ] [Std.LawfulEqOrd κ] [DecidableEq κ]

/-- Everything that a map holds is written over another map. -/
theorem insertMany_toList_getElem? (map upper : Std.ExtTreeMap κ β) (k : κ) :
    (map.insertMany upper.toList)[k]? = upper[k]?.or map[k]? := by
  cases h : upper[k]? with
  | some b =>
    have hmem := Std.ExtTreeMap.mem_toList_iff_getElem?_eq_some.mpr h
    exact Std.ExtTreeMap.getElem?_insertMany_list_of_mem Std.ReflCmp.compare_self
      Std.ExtTreeMap.distinct_keys_toList hmem
  | none =>
    have hkeys : (upper.toList.map Prod.fst).contains k = false := by
      rw [Std.ExtTreeMap.map_fst_toList_eq_keys]
      simpa using h
    rw [Std.ExtTreeMap.getElem?_insertMany_list_of_contains_eq_false hkeys]
    rfl

omit [Std.LawfulEqOrd κ] [DecidableEq κ] in
theorem values_eq_map_toList (map : Std.ExtTreeMap κ β) : map.values = map.toList.map Prod.snd := by
  obtain ⟨⟨inner⟩⟩ := map
  induction inner using Quotient.ind with
  | _ tree =>
    change Std.DTreeMap.Internal.Impl.values tree.inner =
      (Std.DTreeMap.Internal.Impl.Const.toList tree.inner).map Prod.snd
    rw [Std.DTreeMap.Internal.Impl.values, Std.DTreeMap.Internal.Impl.Const.toList,
      Std.DTreeMap.Internal.Impl.foldr_eq_foldr, Std.DTreeMap.Internal.Impl.foldr_eq_foldr]
    induction tree.inner.toListModel with
    | nil => rfl
    | cons pair pairs ih => rw [List.foldr_cons, List.foldr_cons, List.map_cons, ih]

omit [Std.LawfulEqOrd κ] [DecidableEq κ] in
theorem keys_ascending [LT κ] [LE κ] [Std.LawfulOrderOrd κ] [Std.LawfulOrderLT κ]
    (map : Std.ExtTreeMap κ β) : map.keys.Pairwise (· < ·) := by
  have hordered : map.keys.Pairwise fun a b => compare a b = .lt := Std.ExtTreeMap.ordered_keys
  exact hordered.imp Std.compare_eq_lt.mp

omit [DecidableEq κ] in
theorem mem_values_iff {map : Std.ExtTreeMap κ β} {b : β} :
    b ∈ map.values ↔ ∃ k : κ, map[k]? = some b := by
  rw [values_eq_map_toList, List.mem_map]
  constructor
  · rintro ⟨⟨k, b⟩, hmem, rfl⟩
    exact ⟨k, Std.ExtTreeMap.mem_toList_iff_getElem?_eq_some.mp hmem⟩
  · rintro ⟨k, hk⟩
    exact ⟨(k, b), Std.ExtTreeMap.mem_toList_iff_getElem?_eq_some.mpr hk, rfl⟩

/-- Takes the given keys out of a map. -/
theorem foldl_erase_getElem? (keys : List κ) (map : Std.ExtTreeMap κ β) (k : κ) :
    (keys.foldl (fun map key => map.erase key) map)[k]? = if k ∈ keys then none else map[k]? := by
  induction keys generalizing map with
  | nil => simp
  | cons key keys ih =>
    rw [List.foldl_cons, ih, Std.ExtTreeMap.getElem?_erase]
    by_cases hk : k = key
    · simp [hk]
    · simp [hk, Ne.symm hk]

/-! ## Items with keys of their own -/

/-- Puts what is made of an item, if anything, under the item's key. -/
def put (key : α → κ) (value : α → Option β) (map : Std.ExtTreeMap κ β) (a : α) :
    Std.ExtTreeMap κ β :=
  match value a with
  | some b => map.insert (key a) b
  | none => map

variable {key : α → κ} {value : α → Option β}

theorem put_getElem? (map : Std.ExtTreeMap κ β) (a : α) (k : κ) :
    (put key value map a)[k]? = if key a = k then (value a).or map[k]? else map[k]? := by
  rw [put]
  cases value a with
  | none => simp
  | some b => simp [Std.ExtTreeMap.getElem?_insert]

/-- With one item to a key the map holds what is made of that item, and otherwise what it held. -/
theorem foldl_put_getElem? {items : List α} (distinct : items.Pairwise fun a b => key a ≠ key b)
    (map : Std.ExtTreeMap κ β) (k : κ) (b : β) :
    (items.foldl (put key value) map)[k]? = some b ↔
      (∃ a ∈ items, key a = k ∧ value a = some b) ∨
      (map[k]? = some b ∧ ∀ a ∈ items, key a = k → value a = none) := by
  induction items generalizing map with
  | nil => simp
  | cons a items ih =>
    obtain ⟨hfirst, hrest⟩ := List.pairwise_cons.mp distinct
    rw [List.foldl_cons, ih hrest, put_getElem?]
    by_cases hk : key a = k
    · have hother : ∀ x ∈ items, key x ≠ k := fun x hx h => hfirst x hx (hk.trans h.symm)
      have hnone : ∀ x ∈ items, key x = k → value x = none := fun x hx h => absurd h (hother x hx)
      have hnot : ¬∃ x ∈ items, key x = k ∧ value x = some b := fun ⟨x, hx, h, _⟩ => hother x hx h
      cases hv : value a with
      | none => simp [hk, hv, hnot]
      | some c => simpa [hk, hv, hnot] using fun _ => hnone
    · simp [hk]

theorem foldl_put_empty {items : List α} (distinct : items.Pairwise fun a b => key a ≠ key b)
    (k : κ) (b : β) :
    (items.foldl (put key value) (∅ : Std.ExtTreeMap κ β))[k]? = some b ↔
      ∃ a ∈ items, key a = k ∧ value a = some b := by
  rw [foldl_put_getElem? distinct]
  simp

omit [DecidableEq κ] in
/-- Items with keys of their own, none of which is in the map yet, add an entry each for which something
is made. -/
theorem foldl_put_size {items : List α} (distinct : items.Pairwise fun a b => key a ≠ key b)
    {map : Std.ExtTreeMap κ β} (hnew : ∀ a ∈ items, key a ∉ map) :
    (items.foldl (put key value) map).size = map.size + items.countP fun a => (value a).isSome := by
  induction items generalizing map with
  | nil => rfl
  | cons a items ih =>
    obtain ⟨hfirst, hrest⟩ := List.pairwise_cons.mp distinct
    obtain ⟨hkey, hothers⟩ := List.forall_mem_cons.mp hnew
    rw [List.foldl_cons, put]
    cases hvalue : value a with
    | none =>
      rw [ih hrest hothers, List.countP_cons, hvalue]
      rfl
    | some b =>
      have hstill : ∀ x ∈ items, key x ∉ map.insert (key a) b := by
        intro x hx hmem
        rcases Std.ExtTreeMap.mem_insert.mp hmem with hsame | hmem
        · exact hfirst x hx (Std.LawfulEqCmp.eq_of_compare hsame)
        · exact hothers x hx hmem
      have hsize : (map.insert (key a) b).size = map.size + 1 := by
        rw [Std.ExtTreeMap.size_insert]
        exact if_neg (by simpa using hkey)
      have hcount : (List.cons a items).countP (fun a => (value a).isSome) =
          items.countP (fun a => (value a).isSome) + 1 := by
        rw [List.countP_cons, hvalue]
        rfl
      rw [ih hrest hstill, hsize, hcount]
      omega

/-! ## Items that may share keys -/

theorem exists_of_foldl_put {items : List α} {map : Std.ExtTreeMap κ β} {k : κ} {b : β}
    (h : (items.foldl (put key value) map)[k]? = some b) :
    (∃ a ∈ items, key a = k ∧ value a = some b) ∨ map[k]? = some b := by
  induction items generalizing map with
  | nil => exact .inr h
  | cons a items ih =>
    rcases ih h with ⟨later, hmem, hlater⟩ | hmap
    · exact .inl ⟨later, List.mem_cons_of_mem a hmem, hlater⟩
    rw [put_getElem?] at hmap
    split at hmap
    next hkey =>
      rcases Option.or_eq_some_iff.mp hmap with hvalue | ⟨-, hold⟩
      · exact .inl ⟨a, List.mem_cons_self, hkey, hvalue⟩
      · exact .inr hold
    next => exact .inr hmap

/-- When all items of a key come to one thing, the map holds it under the key. -/
theorem foldl_put_of_same {items : List α} {k : κ} {b : β}
    (hsame : ∀ a ∈ items, key a = k → value a = some b) {map : Std.ExtTreeMap κ β}
    (hsome : (∃ a ∈ items, key a = k) ∨ map[k]? = some b) :
    (items.foldl (put key value) map)[k]? = some b := by
  induction items generalizing map with
  | nil => exact hsome.resolve_left (by simp)
  | cons a items ih =>
    obtain ⟨hfirst, hrest⟩ := List.forall_mem_cons.mp hsame
    refine ih hrest ?_
    rw [put_getElem?]
    by_cases hkey : key a = k
    · rw [if_pos hkey, hfirst hkey]
      exact .inr rfl
    · rw [if_neg hkey]
      refine hsome.imp_left fun ⟨other, hmem, hother⟩ => ⟨other, ?_, hother⟩
      exact (List.mem_cons.mp hmem).resolve_left fun h => hkey (h ▸ hother)

/-! ## Lists in a strict order -/

section Strict

variable {r : α → α → Prop} (hasymm : ∀ {a b}, r a b → ¬r b a)

include hasymm

theorem nodup_of_strict {items : List α} (h : items.Pairwise r) : items.Nodup := by
  refine h.imp fun {a b} hab hsame => ?_
  rw [hsame] at hab
  exact hasymm hab hab

/-- Lists in one strict order are equal when they have the same members. -/
theorem eq_of_strict {first second : List α} (hfirst : first.Pairwise r)
    (hsecond : second.Pairwise r) (hmem : ∀ a, a ∈ first ↔ a ∈ second) : first = second := by
  have hperm := List.perm_ext_iff_of_nodup (nodup_of_strict hasymm hfirst)
    (nodup_of_strict hasymm hsecond)
  refine List.Perm.eq_of_pairwise (fun a b _ _ hab hba => ?_) hfirst hsecond (hperm.mpr hmem)
  exact absurd hba (hasymm hab)

end Strict

end PolicyStore
