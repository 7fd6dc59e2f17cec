import Mathlib.Data.List.Basic
import Mathlib.Data.List.Pairwise
import PolicyStore.Proofs.Json.Members
import PolicyStore.Proofs.Json.Printing

/-!
# Trees with sorted members

Sorting the members of an object by key is stable, so the members of a name stay in their order. What
a shape makes of a tree does not depend on how the members of its objects are sorted, and the sorted
tree is still one that can be written and read.
-/

namespace PolicyStore.Json

/-! ## Sorting by key -/

namespace Tree

/-- The order in which members are sorted. -/
def keyLe {α : Type} (a b : String × α) : Bool := (compare a.1 b.1).isLE

mutual

/-- The tree with the members of every object sorted by key. -/
def sorted : Tree → Tree
  | .list items => .list (sortedItems items)
  | .object members =>
    .object ((sortedMembers members).mergeSort keyLe)
  | leaf => leaf

/-- The items of a list, each sorted. -/
def sortedItems : List Tree → List Tree
  | [] => []
  | item :: items => item.sorted :: sortedItems items

/-- The members of an object in their order, each value sorted. -/
def sortedMembers : List (String × Tree) → List (String × Tree)
  | [] => []
  | (key, value) :: members => (key, value.sorted) :: sortedMembers members

end

theorem keyLe_trans {α : Type} (a b c : String × α) (hab : keyLe a b = true)
    (hbc : keyLe b c = true) : keyLe a c = true :=
  Std.TransCmp.isLE_trans hab hbc

theorem keyLe_total {α : Type} (a b : String × α) : (keyLe a b || keyLe b a) = true := by
  have hswap : compare b.1 a.1 = (compare a.1 b.1).swap := Std.OrientedCmp.eq_swap
  rw [keyLe, keyLe, hswap]
  cases compare a.1 b.1 <;> rfl

/-- The members of one key keep their order. -/
theorem filter_mergeSort {α : Type} (name : String) (members : List (String × α)) :
    (members.mergeSort keyLe).filter (·.1 == name) = members.filter (·.1 == name) := by
  have hordered : (members.filter (·.1 == name)).Pairwise fun a b => keyLe a b = true := by
    refine List.pairwise_of_forall_mem_list fun a ha b hb => ?_
    have hkey : a.1 = name := by simpa using (List.mem_filter.mp ha).2
    have hother : b.1 = name := by simpa using (List.mem_filter.mp hb).2
    rw [keyLe, hkey, hother]
    exact Std.ReflCmp.isLE_rfl
  have hsub := (List.sublist_mergeSort keyLe_trans keyLe_total hordered
    List.filter_sublist).filter (·.1 == name)
  have hlength := ((List.mergeSort_perm members keyLe).filter (·.1 == name)).length_eq
  rw [List.filter_filter] at hsub
  simp only [Bool.and_self] at hsub
  exact (hsub.eq_of_length hlength.symm).symm

theorem sortedItems_eq_map (items : List Tree) : sortedItems items = items.map sorted := by
  induction items with
  | nil => rfl
  | cons item items ih => rw [sortedItems, ih, List.map_cons]

theorem sortedMembers_eq_map (members : List (String × Tree)) :
    sortedMembers members = members.map fun member => (member.1, member.2.sorted) := by
  induction members with
  | nil => rfl
  | cons member members ih => rw [sortedMembers, ih, List.map_cons]

/-- The members of an object as the sorted tree has them. -/
def inOrder (members : List (String × Tree)) : List (String × Tree) :=
  (sortedMembers members).mergeSort keyLe

theorem sorted_object (members : List (String × Tree)) :
    (object members).sorted = object (inOrder members) := by
  rw [sorted]
  rfl

theorem sorted_list (items : List Tree) : (list items).sorted = list (items.map sorted) := by
  rw [sorted, sortedItems_eq_map]

theorem mem_inOrder_iff {members : List (String × Tree)} {member : String × Tree} :
    member ∈ inOrder members ↔ ∃ given ∈ members, (given.1, given.2.sorted) = member := by
  rw [inOrder, List.mem_mergeSort, sortedMembers_eq_map, List.mem_map]

/-- Of each name the sorted tree has the same members, sorted themselves. -/
theorem named_inOrder (name : String) (members : List (String × Tree)) :
    Shape.named name (inOrder members) = (Shape.named name members).map sorted := by
  have hnamed : ∀ members : List (String × Tree),
      Shape.named name members = (members.filter (·.1 == name)).map Prod.snd := by
    intro members
    rw [Shape.named, ← List.filterMap_eq_map, List.filterMap_filter]
    simp
  rw [hnamed, inOrder, filter_mergeSort, ← hnamed, sortedMembers_eq_map, Shape.named, Shape.named,
    List.filterMap_map, List.map_filterMap]
  refine List.filterMap_congr fun member _ => ?_
  simp [apply_ite]

mutual

theorem wellFormed_sorted (tree : Tree) (h : tree.WellFormed) : tree.sorted.WellFormed := by
  match tree, h with
  | .null, h => exact h
  | .flag _, h => exact h
  | .number _, h => exact h
  | .text _, h => exact h
  | .list items, h =>
    rw [sorted]
    exact itemsWellFormed_sortedItems items h
  | .object members, h =>
    have hmembers := membersWellFormed_sortedMembers members h
    rw [membersWellFormed_iff] at hmembers
    rw [sorted]
    exact (membersWellFormed_iff _).mpr fun member hmember =>
      hmembers member (List.mem_mergeSort.mp hmember)

theorem itemsWellFormed_sortedItems (items : List Tree) (h : ItemsWellFormed items) :
    ItemsWellFormed (sortedItems items) := by
  match items, h with
  | [], _ => trivial
  | item :: items, h => exact ⟨wellFormed_sorted item h.1, itemsWellFormed_sortedItems items h.2⟩

theorem membersWellFormed_sortedMembers (members : List (String × Tree))
    (h : MembersWellFormed members) : MembersWellFormed (sortedMembers members) := by
  match members, h with
  | [], _ => trivial
  | (_, value) :: members, h =>
    exact ⟨wellFormed_sorted value h.1, membersWellFormed_sortedMembers members h.2⟩

end

end Tree

/-! ## Shapes of sorted trees -/

namespace Shape

/-- The shape makes the same of a tree and of the sorted one. -/
def Steady {α : Type} (shape : Shape α) : Prop := ∀ t : Tree, shape t.sorted = shape t

theorem steady_flag : Steady flag := by
  intro t
  cases t <;> rfl

theorem steady_text : Steady text := by
  intro t
  cases t <;> rfl

theorem steady_natural (bound : Nat) : Steady (natural bound) := by
  intro t
  cases t <;> rfl

variable {α : Type} {shape : Shape α}

theorem Steady.list (h : Steady shape) : Steady (Shape.list shape) := by
  intro t
  cases t with
  | list items => simp [Tree.sorted_list, Shape.list, List.mapM_map, Function.comp_def, h _]
  | _ => rfl

theorem Steady.member (h : Steady shape) (name : String) (members : List (String × Tree)) :
    Shape.member name shape (Tree.inOrder members) = Shape.member name shape members := by
  rw [Shape.member, Shape.member, Tree.named_inOrder]
  rcases named name members with _ | ⟨t, _ | ⟨u, ts⟩⟩
  · rfl
  · simp [h t]
  · rfl

theorem choice_several (names : List (String × α)) (first second : String × Tree)
    (members : List (String × Tree)) :
    choice names (.object (first :: second :: members)) = none := by
  simp [choice]

theorem steady_choice (names : List (String × α)) : Steady (choice names) := by
  intro t
  cases t with
  | object members =>
    rw [Tree.sorted_object]
    rcases members with _ | ⟨⟨key, t⟩, _ | ⟨other, members⟩⟩
    · simp [Tree.inOrder, Tree.sortedMembers]
    · simp only [Tree.inOrder, Tree.sortedMembers, List.mergeSort_singleton]
      cases t <;> rfl
    · have hlength : (Tree.inOrder ((key, t) :: other :: members)).length = members.length + 2 := by
        simp [Tree.inOrder, Tree.sortedMembers_eq_map]
      match Tree.inOrder ((key, t) :: other :: members), hlength with
      | first :: second :: others, _ => rw [choice_several, choice_several]
  | _ => rfl

end Shape

end PolicyStore.Json
