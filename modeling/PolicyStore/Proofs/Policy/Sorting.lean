import PolicyStore.Proofs.Json.Sorting
import PolicyStore.Proofs.Policy.RoundTrip

/-!
# Payloads with sorted members

An object means the same content when its members are sorted by key, in every domain: where a key may
occur several times, the last one counts, and it stays the last one. So a content is read back from
any spelling of its tree, sorted or not.
-/

namespace PolicyStore

open Json (Tree Shape SpellsDocument)

/-! ## Rules -/

theorem Rule.steady_shape : Shape.Steady shape := by
  have hinterval : Shape.Steady intervalShape := Shape.steady_natural _
  have hquota : Shape.Steady quotaShape := Shape.steady_natural _
  intro t
  cases t with
  | object members =>
    rw [Tree.sorted_object, shape, shape, hinterval.member, hquota.member]
  | list items =>
    rw [Tree.sorted_list]
    rcases items with _ | ⟨interval, _ | ⟨quota, _ | ⟨more, items⟩⟩⟩
    · rfl
    · rfl
    · simp only [List.map_cons, List.map_nil, shape, hinterval interval, hquota quota]
    · rfl
  | _ => rfl

namespace Strategy

/-- The members of an object as rules. -/
def ruleOf? (member : String × Tree) : Option (String × Rule) :=
  (Rule.shape member.2).map (member.1, ·)

/-- Under a key the rules have what the last member of this name says. -/
theorem rulesOf_mapM {members : List (String × Tree)} {rules : List (String × Rule)}
    (h : members.mapM ruleOf? = some rules) (key : String) :
    (rulesOf rules)[key]? = ((Shape.named key members).filterMap Rule.shape).getLast? := by
  induction members generalizing rules with
  | nil =>
    obtain rfl : rules = [] := by simpa using h.symm
    simp [rulesOf]
  | cons member members ih =>
    obtain ⟨name, t⟩ := member
    simp only [List.mapM_cons, ruleOf?, Option.bind_eq_bind, Option.bind_eq_some_iff,
      Option.map_eq_some_iff, Option.pure_def, Option.some.injEq] at h
    obtain ⟨-, ⟨rule, hrule, rfl⟩, others, hothers, rfl⟩ := h
    rw [rulesOf_getElem?, List.findSomeRev?, ← rulesOf_getElem?, ih hothers]
    by_cases hname : name = key
    · subst hname
      rw [Shape.named_self, List.filterMap_cons_some hrule, List.getLast?_cons]
      cases ((Shape.named name members).filterMap Rule.shape).getLast? <;> simp
    · rw [Shape.named_other hname]
      cases ((Shape.named key members).filterMap Rule.shape).getLast? <;> simp [hname]

/-- The rules that an object stands for. -/
def rulesShape : Shape Rules := fun t => (Shape.table Rule.shape t).map rulesOf

theorem isSome_mapM_iff {α β : Type} {f : α → Option β} {as : List α} :
    (as.mapM f).isSome = true ↔ ∀ a ∈ as, (f a).isSome = true := by
  induction as with
  | nil => simp
  | cons a as ih =>
    rw [List.mapM_cons, List.forall_mem_cons, ← ih]
    cases f a <;> cases as.mapM f <;> simp

theorem isSome_inOrder_iff (members : List (String × Tree)) :
    ((Tree.inOrder members).mapM ruleOf?).isSome = (members.mapM ruleOf?).isSome := by
  have hsteady : ∀ member : String × Tree,
      (ruleOf? (member.1, member.2.sorted)).isSome = (ruleOf? member).isSome := by
    intro member
    simp [ruleOf?, Rule.steady_shape member.2]
  rw [Bool.eq_iff_iff, isSome_mapM_iff, isSome_mapM_iff]
  simp only [Tree.mem_inOrder_iff]
  constructor
  · intro h member hmember
    rw [← hsteady]
    exact h _ ⟨member, hmember, rfl⟩
  · rintro h _ ⟨member, hmember, rfl⟩
    rw [hsteady]
    exact h member hmember

theorem steady_rulesShape : Shape.Steady rulesShape := by
  intro t
  cases t with
  | object members =>
    rw [Tree.sorted_object]
    change ((Tree.inOrder members).mapM ruleOf?).map rulesOf = (members.mapM ruleOf?).map rulesOf
    have hsome := isSome_inOrder_iff members
    cases hsorted : (Tree.inOrder members).mapM ruleOf? with
    | none =>
      rw [hsorted] at hsome
      have hnone : members.mapM ruleOf? = none := by simpa using hsome.symm
      rw [hnone]
    | some sorted =>
      rw [hsorted] at hsome
      obtain ⟨rules, hrules⟩ := Option.isSome_iff_exists.mp hsome.symm
      rw [hrules]
      refine congrArg some (Std.ExtTreeMap.ext_getElem? fun key => ?_)
      have hshape : Rule.shape ∘ Tree.sorted = Rule.shape := funext Rule.steady_shape
      rw [rulesOf_mapM hsorted, rulesOf_mapM hrules, Tree.named_inOrder, List.filterMap_map, hshape]
  | _ => rfl

/-- What the members mean, told with the rules as a map. -/
theorem ofMembers_eq (members : List (String × Tree)) :
    ofMembers members =
      (Shape.member "algo" (Shape.choice algorithmNames) members).bind fun algorithm =>
        (Shape.member "rules" rulesShape members).map fun rules =>
          ⟨algorithm.getD .fixedWindow, rules.getD ∅⟩ := by
  rw [ofMembers]
  cases Shape.member "algo" (Shape.choice algorithmNames) members with
  | none => rfl
  | some algorithm =>
    rw [Shape.member, Shape.member]
    rcases Shape.named "rules" members with _ | ⟨t, _ | ⟨u, ts⟩⟩
    · rfl
    · cases h : Shape.table Rule.shape t <;> simp [rulesShape, h]
    · rfl

end Strategy

/-! ## Contents -/

/-- Sorting the members of an object leaves its meaning. -/
theorem Domain.ofMembers_inOrder (domain : Domain) (members : List (String × Tree)) :
    domain.ofMembers (Tree.inOrder members) = domain.ofMembers members := by
  have htexts : Shape.Steady (Shape.list Shape.text) := Shape.steady_text.list
  cases domain with
  | strategy =>
    rw [ofMembers, Strategy.ofMembers_eq, Strategy.ofMembers_eq,
      (Shape.steady_choice _).member, Strategy.steady_rulesShape.member]
  | allowList =>
    simp only [ofMembers, AllowList.ofMembers, Shape.steady_flag.member, htexts.member]
  | routeGroup =>
    simp only [ofMembers, RouteGroup.ofMembers, htexts.member]

theorem Domain.tree_wellFormed (domain : Domain) (content : domain.Content) :
    (domain.tree content).WellFormed := by
  obtain ⟨members, hwritten⟩ := domain.exists_writtenAs content
  rw [hwritten.tree]
  exact hwritten.wellFormed

theorem Domain.sorted_wellFormed (domain : Domain) (content : domain.Content) :
    (domain.tree content).sorted.WellFormed :=
  Tree.wellFormed_sorted _ (domain.tree_wellFormed content)

namespace Policy

variable {domain : Domain} {content : domain.Content} {text : String}

/-- A content that keeps the rules is read back from any spelling of its tree with sorted members. -/
theorem ofPayload_sorted (h : domain.KeepsRules content)
    (hspelled : SpellsDocument (domain.tree content).sorted text.toList) (id : RecordId)
    (name : String) : ofPayload domain id name text = .ok ⟨id, name, content⟩ := by
  obtain ⟨members, hwritten⟩ := domain.exists_writtenAs content
  rw [hwritten.tree, Tree.sorted_object] at hspelled
  have hmeaning := (domain.ofMembers_inOrder members).trans hwritten.meaning
  exact (ofPayload_of_readContent_ok (readContent_meaning hspelled hmeaning name) id).1 h

end Policy

end PolicyStore
