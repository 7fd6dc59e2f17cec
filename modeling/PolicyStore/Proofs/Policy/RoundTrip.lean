import PolicyStore.Proofs.Maps
import PolicyStore.Proofs.Policy.Meaning

/-!
# Payloads read back

What is written for a content means that content, in every domain. So a policy that has a payload is
read back from it, and whatever a text is read as has a payload of its own.
-/

namespace PolicyStore

open Json (Tree Shape)

theorem mapM_map_eq_some {α β : Type} {f : α → β} {g : β → Option α} (h : ∀ a, g (f a) = some a)
    (as : List α) : (as.map f).mapM g = some as := by
  rw [List.mapM_map]
  exact Json.mapM_eq_some_self fun a _ => h a

/-! ## Rules -/

theorem natural_ofNat {bound n : Nat} (h : n ≤ bound) :
    Shape.natural bound (.ofNat n) = some n := by
  have hdigits : Nat.ofDigitChars 10 (Nat.toDigits 10 n) 0 = n := Nat.ofDigitChars_ten_toDigits
  simp [Tree.ofNat, Json.Numeral.ofNat, Shape.natural, hdigits, h]

theorem Rule.shape_tree (rule : Rule) : shape rule.tree = some rule := by
  have hinterval : intervalShape (.ofNat rule.intervalMs.toNat) = some rule.intervalMs.toNat :=
    natural_ofNat (Nat.le_pred_of_lt rule.intervalMs.toNat_lt)
  have hquota : quotaShape (.ofNat rule.quota.toNat) = some rule.quota.toNat :=
    natural_ofNat (Nat.le_pred_of_lt rule.quota.toNat_lt)
  simp [tree, shape, Shape.member, Shape.named, hinterval, hquota, ofNats]

theorem Strategy.rulesOf_toList (rules : Rules) : rulesOf rules.toList = rules := by
  refine Std.ExtTreeMap.ext_getElem? fun key => ?_
  rw [rulesOf_eq_insertMany, insertMany_toList_getElem?]
  simp

theorem Strategy.algorithmNames_lookup (algorithm : Algorithm) :
    algorithmNames.lookup algorithm.name = some algorithm := by
  cases algorithm <;> decide

/-! ## Contents -/

/-- What a content is written as: an object whose numbers are numbers and whose members mean the
content. -/
structure Domain.WrittenAs (domain : Domain) (content : domain.Content)
    (members : List (String × Tree)) : Prop where
  tree : domain.tree content = .object members
  wellFormed : Tree.MembersWellFormed members
  meaning : domain.ofMembers members = some content

theorem Rule.tree_wellFormed (rule : Rule) : rule.tree.WellFormed := by
  simp [tree, Tree.WellFormed, Tree.MembersWellFormed, Tree.ofNat, Json.Numeral.wellFormed_ofNat]

/-- The members that a strategy is written with. -/
def Strategy.members (strategy : Strategy) : List (String × Tree) :=
  [("algo", .text strategy.algorithm.name),
    ("rules", .object (strategy.rules.toList.map fun (key, rule) => (key, rule.tree)))]

theorem Strategy.writtenAs_members (strategy : Strategy) :
    Domain.WrittenAs .strategy strategy strategy.members where
  tree := rfl
  wellFormed := by
    refine ⟨trivial, ?_, trivial⟩
    refine (Tree.membersWellFormed_iff _).mpr fun member hmember => ?_
    obtain ⟨⟨key, rule⟩, -, rfl⟩ := List.mem_map.mp hmember
    exact rule.tree_wellFormed
  meaning := by
    have halgorithm : Shape.choice algorithmNames (.text strategy.algorithm.name) =
        some strategy.algorithm := algorithmNames_lookup strategy.algorithm
    have hrules : Shape.table Rule.shape
        (.object (strategy.rules.toList.map fun (key, rule) => (key, rule.tree))) =
          some strategy.rules.toList :=
      mapM_map_eq_some (fun (key, rule) => by simp [rule.shape_tree]) strategy.rules.toList
    simp [Domain.ofMembers, ofMembers, members, Shape.member, Shape.named, halgorithm, hrules,
      rulesOf_toList]

namespace AllowList

/-- The members of the lists that are not empty. -/
def written (parts : List Section) : List (String × Tree) :=
  (parts.filter fun part => !part.entries.isEmpty).map fun part =>
    (part.name, .ofStrings part.entries)

theorem named_written_other {name : String} {parts : List Section}
    (h : ∀ part ∈ parts, part.name ≠ name) : Shape.named name (written parts) = [] := by
  rw [Shape.named, List.filterMap_eq_nil_iff]
  intro member hmember
  obtain ⟨part, hpart, rfl⟩ := List.mem_map.mp hmember
  exact if_neg (h part (List.mem_filter.mp hpart).1)

theorem written_cons (part : Section) (parts : List Section) :
    written (part :: parts) =
      if part.entries = [] then written parts
      else (part.name, .ofStrings part.entries) :: written parts := by
  by_cases he : part.entries = [] <;> simp [written, he]

theorem named_written {parts : List Section} (hd : parts.Pairwise fun p q => p.name ≠ q.name)
    {part : Section} (hp : part ∈ parts) :
    Shape.named part.name (written parts) =
      if part.entries = [] then [] else [.ofStrings part.entries] := by
  induction parts with
  | nil => simp at hp
  | cons first parts ih =>
    obtain ⟨hfirst, hrest⟩ := List.pairwise_cons.mp hd
    rw [written_cons]
    rcases List.mem_cons.mp hp with rfl | hp
    · have hother := named_written_other fun q hq => (hfirst q hq).symm
      split
      · exact hother
      · rw [Shape.named_self, hother]
    · rw [← ih hrest hp]
      split
      · rfl
      · rw [Shape.named_other (hfirst part hp)]

theorem shape_ofStrings (entries : List String) :
    Shape.list Shape.text (.ofStrings entries) = some entries :=
  mapM_map_eq_some (f := Tree.text) (fun _ => rfl) entries

theorem sections_distinct (list : AllowList) :
    list.sections.Pairwise fun p q => p.name ≠ q.name := by
  simp [sections]

/-- The members that an allow-list is written with. -/
def members (list : AllowList) : List (String × Tree) :=
  ("enabled", .flag list.enabled) :: written list.sections

/-- The members of a name are read as the entries, if need be by default. -/
def ReadsBack (list : AllowList) (name : String) (entries : List String) : Prop :=
  ∃ found, Shape.member name (Shape.list Shape.text) list.members = some found ∧
    found.getD [] = entries

/-- A list that is left out is read as the empty one that it is. -/
theorem readsBack_section (list : AllowList) (part : Section) (hp : part ∈ list.sections) :
    list.ReadsBack part.name part.entries := by
  have henabled : "enabled" ≠ part.name := by
    simp only [sections, List.mem_cons, List.not_mem_nil, or_false] at hp
    rcases hp with rfl | rfl | rfl | rfl <;> simp
  rw [ReadsBack, Shape.member, members, Shape.named_other henabled,
    named_written (sections_distinct list) hp]
  by_cases he : part.entries = []
  · exact ⟨none, by simp [he], by simp [he]⟩
  · exact ⟨some part.entries, by simp [he, shape_ofStrings], rfl⟩

theorem writtenAs_members (list : AllowList) :
    Domain.WrittenAs .allowList list list.members where
  tree := rfl
  wellFormed := by
    refine ⟨trivial, (Tree.membersWellFormed_iff _).mpr fun member hmember => ?_⟩
    obtain ⟨part, -, rfl⟩ := List.mem_map.mp hmember
    refine (Tree.itemsWellFormed_iff _).mpr fun item hitem => ?_
    obtain ⟨entry, -, rfl⟩ := List.mem_map.mp hitem
    trivial
  meaning := by
    have henabled :
        Shape.member "enabled" Shape.flag list.members = some (some list.enabled) := by
      have hother : Shape.named "enabled" (written list.sections) = [] :=
        named_written_other (by simp [sections])
      rw [Shape.member, members, Shape.named_self, hother]
      rfl
    obtain ⟨userAgents, hu, hu'⟩ : list.ReadsBack "user_agents" list.userAgents :=
      list.readsBack_section ⟨_, _⟩ (by simp [sections])
    obtain ⟨origins, ho, ho'⟩ : list.ReadsBack "origins" list.origins :=
      list.readsBack_section ⟨_, _⟩ (by simp [sections])
    obtain ⟨methods, hm, hm'⟩ : list.ReadsBack "methods" list.methods :=
      list.readsBack_section ⟨_, _⟩ (by simp [sections])
    obtain ⟨contracts, hc, hc'⟩ : list.ReadsBack "contract_addresses" list.contractAddresses :=
      list.readsBack_section ⟨_, _⟩ (by simp [sections])
    simp [Domain.ofMembers, ofMembers, henabled, hu, ho, hm, hc, hu', ho', hm', hc']

end AllowList

theorem RouteGroup.writtenAs_members (group : RouteGroup) :
    Domain.WrittenAs .routeGroup group [("nodes", .ofStrings group.nodes)] where
  tree := rfl
  wellFormed := by
    refine ⟨(Tree.itemsWellFormed_iff _).mpr fun item hitem => ?_, trivial⟩
    obtain ⟨node, -, rfl⟩ := List.mem_map.mp hitem
    trivial
  meaning := by
    simp [Domain.ofMembers, ofMembers, Shape.member, Shape.named, AllowList.shape_ofStrings]

theorem Domain.exists_writtenAs (domain : Domain) (content : domain.Content) :
    ∃ members, domain.WrittenAs content members := by
  cases domain with
  | strategy => exact ⟨_, Strategy.writtenAs_members content⟩
  | allowList => exact ⟨_, AllowList.writtenAs_members content⟩
  | routeGroup => exact ⟨_, RouteGroup.writtenAs_members content⟩

namespace Policy

variable {domain : Domain}

theorem readContent_compact (content : domain.Content) (name : String) :
    readContent domain name (domain.tree content).compact = .ok content := by
  obtain ⟨members, hwritten⟩ := domain.exists_writtenAs content
  have hdocument := Tree.spellsDocument_compact (.object members) hwritten.wellFormed
  rw [hwritten.tree]
  exact readContent_meaning hdocument hwritten.meaning name

section Parse

variable (parse : String → Except Url.Fault Url)

theorem ofPayloadBy_compact {content : domain.Content} (h : domain.KeepsRulesBy parse content)
    (id : RecordId) (name : String) :
    ofPayloadBy parse domain id name (domain.tree content).compact = .ok ⟨id, name, content⟩ :=
  (ofPayloadBy_of_readContent_ok parse (readContent_compact content name) id).1 h

/-- Whatever a URL is, reading a payload gives the policy back under the id that it is read with, and a
policy that was read from any text has a payload, from which it is read again. -/
theorem ofPayload_payload (domain : Domain) :
    (∀ (policy : Policy domain) (text : String) (id : RecordId),
      policy.payloadBy parse = .ok text →
        ofPayloadBy parse domain id policy.name text = .ok { policy with id := id }) ∧
    ∀ (id : RecordId) (name text : String) (policy : Policy domain),
      ofPayloadBy parse domain id name text = .ok policy →
      ∃ written, policy.payloadBy parse = .ok written ∧
        ofPayloadBy parse domain policy.id policy.name written = .ok policy := by
  constructor
  · rintro policy text id hpayload
    obtain ⟨hkeeps, rfl⟩ := (payloadBy_eq_ok_iff parse policy text).mp hpayload
    exact ofPayloadBy_compact parse hkeeps id policy.name
  · rintro id name text policy hread
    obtain ⟨-, -, -, hkeeps⟩ := ofPayloadBy_eq_ok parse hread
    refine ⟨(domain.tree policy.content).compact, ?_, ofPayloadBy_compact parse hkeeps _ _⟩
    exact (payloadBy_eq_ok_iff parse policy _).mpr ⟨hkeeps, rfl⟩

end Parse

theorem ofPayload_compact {content : domain.Content} (h : domain.KeepsRules content) (id : RecordId)
    (name : String) :
    ofPayload domain id name (domain.tree content).compact = .ok ⟨id, name, content⟩ :=
  ofPayloadBy_compact Url.parse h id name

/-- An allow-list with an entry that has to be escaped. -/
def escapedList : Policy .allowList :=
  ⟨0, "ops", (⟨true, ["a\"b\\\n"], [], [], []⟩ : AllowList)⟩

theorem ofPayload_payload_escaped :
    escapedList.payload =
        .ok "\x7b\"enabled\":true,\"user_agents\":[\"a\\\"b\\\\\\n\"]\x7d" ∧
      ofPayload .allowList 7 "ops"
          "\x7b\"enabled\":true,\"user_agents\":[\"a\\\"b\\\\\\n\"]\x7d" =
        .ok { escapedList with id := 7 } ∧
      ∃ written, Policy.payload { escapedList with id := 7 } = .ok written ∧
        ofPayload .allowList 7 "ops" written = .ok { escapedList with id := 7 } := by
  have hpayload : escapedList.payload =
      .ok "\x7b\"enabled\":true,\"user_agents\":[\"a\\\"b\\\\\\n\"]\x7d" := by
    rfl
  have hread := (ofPayload_payload Url.parse .allowList).1 escapedList _ 7 hpayload
  exact ⟨hpayload, hread, (ofPayload_payload Url.parse .allowList).2 7 "ops" _ _ hread⟩

end Policy

end PolicyStore
