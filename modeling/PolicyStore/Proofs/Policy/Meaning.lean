import PolicyStore.Proofs.Json.Members
import PolicyStore.Proofs.Json.Printing
import PolicyStore.Proofs.Policy.Rules

/-!
# What a payload means

The content that a JSON object stands for is said of its members alone: which members of a field's
name there are, and what their values are. Members of other names say nothing. A payload is read as
what its document means, however the document is spelled.
-/

namespace PolicyStore

open Json (Tree Shape Place SpellsDocument)

/-! ## Rules -/

namespace Rule

/-- The length of an interval in milliseconds. -/
def intervalShape : Shape Nat := .natural (UInt64.size - 1)

/-- The number of requests in an interval. -/
def quotaShape : Shape Nat := .natural (UInt32.size - 1)

/-- The rule of an interval and a quota within their bounds. -/
def ofNats (interval quota : Nat) : Rule := ⟨UInt64.ofNat interval, UInt32.ofNat quota⟩

/-- A rule is an object with exactly one interval and one quota, or the list of the two. -/
def shape : Shape Rule
  | .object members =>
    match Shape.member "interval_ms" intervalShape members,
      Shape.member "quota" quotaShape members with
    | some (some interval), some (some quota) => some (ofNats interval quota)
    | _, _ => none
  | .list [interval, quota] =>
    match intervalShape interval, quotaShape quota with
    | some interval, some quota => some (ofNats interval quota)
    | _, _ => none
  | _ => none

/-- Where a draft of a rule keeps its fields. -/
def places : List (Place Draft) :=
  [{ Value := Nat, name := "interval_ms", required := true, get := Draft.intervalMs
     set := fun draft n => { draft with intervalMs := some n }
     reader := .natural (UInt64.size - 1) "u64", shape := intervalShape
     reads := Json.Reader.reads_natural (by decide) "u64" },
    { Value := Nat, name := "quota", required := true, get := Draft.quota
      set := fun draft n => { draft with quota := some n }
      reader := .natural (UInt32.size - 1) "u32", shape := quotaShape
      reads := Json.Reader.reads_natural (by decide) "u32" }]

theorem layout_fields : layout.fields = places.map Place.field := rfl

theorem places_lawful : Place.Lawful {} places where
  distinct := by simp [places]
  get_set := by simp [places]
  get_set_other := by simp [places]
  ext := by
    rintro ⟨interval, quota⟩ ⟨interval', quota'⟩ h
    simpa [places] using h
  free := by simp [places]

/-- The draft that the members of an object fill. -/
theorem fill_places (members : List (String × Tree)) (done : Draft) :
    Shape.fill places {} members = some done ↔
      Shape.member "interval_ms" intervalShape members = some done.intervalMs ∧
      Shape.member "quota" quotaShape members = some done.quota ∧
      done.intervalMs.isSome ∧ done.quota.isSome := by
  rw [Shape.fill_blank_eq_some_iff places_lawful]
  simp [places, and_assoc]

/-- The rule of a draft whose fields are both there. -/
def Draft.rule (draft : Draft) : Rule := ofNats (draft.intervalMs.getD 0) (draft.quota.getD 0)

theorem record_object (members : List (String × Tree)) :
    (Shape.fill places {} members).map Draft.rule = shape (.object members) := by
  rw [shape]
  cases hfill : Shape.fill places {} members with
  | some done =>
    obtain ⟨hinterval, hquota, hi, hq⟩ := (fill_places members done).1 hfill
    obtain ⟨interval, hi⟩ := Option.isSome_iff_exists.1 hi
    obtain ⟨quota, hq⟩ := Option.isSome_iff_exists.1 hq
    rw [hinterval, hquota, hi, hq]
    simp [Draft.rule, hi, hq]
  | none =>
    split
    next interval quota hinterval hquota =>
      have hdone := (fill_places members ⟨some interval, some quota⟩).2
        ⟨hinterval, hquota, rfl, rfl⟩
      rw [hfill] at hdone
      exact absurd hdone (by simp)
    next => rfl

theorem record_list (items : List Tree) :
    (Shape.fillInOrder places {} items).map Draft.rule = shape (.list items) := by
  rcases items with _ | ⟨interval, _ | ⟨quota, _ | ⟨more, items⟩⟩⟩
  · rfl
  · rw [places, Shape.fillInOrder]
    cases h : intervalShape interval <;> simp [Shape.fillInOrder, shape, h]
  · rw [places, Shape.fillInOrder, shape]
    cases h : intervalShape interval <;> cases h' : quotaShape quota <;>
      simp [Shape.fillInOrder, Draft.rule, h, h']
  · rw [places, Shape.fillInOrder]
    cases h : intervalShape interval <;> cases h' : quotaShape quota <;>
      simp [Shape.fillInOrder, shape, h, h']

theorem record_shape (t : Tree) : (Shape.record places {} t).map Draft.rule = shape t := by
  cases t with
  | object members => exact record_object members
  | list items => exact record_list items
  | null => rfl
  | flag => rfl
  | number => rfl
  | text => rfl

theorem reads_shape : reader.Reads shape := by
  intro t s gap rest hs hg hr
  rw [← record_shape]
  exact ((Json.Reader.reads_record layout_fields {}).map Draft.rule) hs hg hr

end Rule

/-! ## Strategies -/

namespace Strategy

theorem rulesOf_eq_insertMany (members : List (String × Rule)) :
    rulesOf members = (∅ : Rules).insertMany members := by
  have general (rules : Rules) :
      members.foldl (fun rules member => rules.insert member.1 member.2) rules =
        rules.insertMany members := by
    induction members generalizing rules with
    | nil => rw [List.foldl_nil, Std.ExtTreeMap.insertMany_nil]
    | cons member members ih => rw [List.foldl_cons, Std.ExtTreeMap.insertMany_cons, ih]
  exact general ∅

/-- Of several rules with one key the last one counts. -/
theorem rulesOf_getElem? (members : List (String × Rule)) (key : String) :
    (rulesOf members)[key]? =
      members.findSomeRev? fun member => if member.1 = key then some member.2 else none := by
  rw [rulesOf_eq_insertMany, Std.ExtTreeMap.getElem?_insertMany_list]
  simp

/-- The names of the algorithms. -/
def algorithmNames : List (String × Algorithm) :=
  [("fixed_window", .fixedWindow), ("token_bucket", .tokenBucket)]

/-- The strategy that the members of an object stand for. -/
def ofMembers (members : List (String × Tree)) : Option Strategy := do
  let algorithm ← Shape.member "algo" (Shape.choice algorithmNames) members
  let rules ← Shape.member "rules" (Shape.table Rule.shape) members
  return ⟨algorithm.getD .fixedWindow, rulesOf (rules.getD [])⟩

/-- Where a draft of a strategy keeps its fields. -/
def places : List (Place Draft) :=
  [{ Value := Algorithm, name := "algo", required := false, get := Draft.algorithm
     set := fun draft a => { draft with algorithm := some a }
     reader := Algorithm.reader, shape := Shape.choice algorithmNames
     reads := Json.Reader.reads_choice algorithmNames },
    { Value := List (String × Rule), name := "rules", required := false, get := Draft.rules
      set := fun draft members => { draft with rules := some members }
      reader := .table Rule.reader, shape := Shape.table Rule.shape
      reads := Rule.reads_shape.table }]

theorem layout_fields : layout.fields = places.map Place.field := rfl

theorem places_lawful : Place.Lawful {} places where
  distinct := by simp [places]
  get_set := by simp [places]
  get_set_other := by simp [places]
  ext := by
    rintro ⟨algorithm, rules⟩ ⟨algorithm', rules'⟩ h
    simpa [places] using h
  free := by simp [places]

/-- The strategy of a draft, absent fields defaulted. -/
def Draft.strategy (draft : Draft) : Strategy :=
  ⟨draft.algorithm.getD .fixedWindow, rulesOf (draft.rules.getD [])⟩

theorem fill_eq_ofMembers (members : List (String × Tree)) :
    (Shape.fill places {} members).map Draft.strategy = ofMembers members := by
  refine Option.ext fun strategy => ?_
  simp only [Option.map_eq_some_iff, ofMembers, Option.bind_eq_bind, Option.bind_eq_some_iff,
    Option.pure_def, Option.some.injEq, Shape.fill_blank_eq_some_iff places_lawful]
  constructor
  · rintro ⟨⟨algorithm, rules⟩, ⟨hmembers, -⟩, rfl⟩
    have h := hmembers
    simp only [places, List.forall_mem_cons] at h
    exact ⟨algorithm, h.1, rules, h.2.1, rfl⟩
  · rintro ⟨algorithm, halgorithm, rules, hrules, rfl⟩
    exact ⟨⟨algorithm, rules⟩, by simp [places, halgorithm, hrules], rfl⟩

end Strategy

/-! ## Allow-lists -/

namespace AllowList

/-- The allow-list that the members of an object stand for. -/
def ofMembers (members : List (String × Tree)) : Option AllowList := do
  let enabled ← Shape.member "enabled" Shape.flag members
  let userAgents ← Shape.member "user_agents" (Shape.list Shape.text) members
  let origins ← Shape.member "origins" (Shape.list Shape.text) members
  let methods ← Shape.member "methods" (Shape.list Shape.text) members
  let contractAddresses ← Shape.member "contract_addresses" (Shape.list Shape.text) members
  return ⟨enabled.getD false, userAgents.getD [], origins.getD [], methods.getD [],
    contractAddresses.getD []⟩

/-- The place of a list of strings. -/
def listPlace (name : String) (get : Draft → Option (List String))
    (set : Draft → List String → Draft) : Place Draft :=
  { Value := List String, name := name, required := false, get := get, set := set
    reader := .list .text, shape := Shape.list Shape.text
    reads := Json.Reader.reads_text.list }

/-- Where a draft of an allow-list keeps its fields. -/
def places : List (Place Draft) :=
  [{ Value := Bool, name := "enabled", required := false, get := Draft.enabled
     set := fun draft b => { draft with enabled := some b }
     reader := .flag, shape := Shape.flag, reads := Json.Reader.reads_flag },
    listPlace "user_agents" Draft.userAgents fun draft l => { draft with userAgents := some l },
    listPlace "origins" Draft.origins fun draft l => { draft with origins := some l },
    listPlace "methods" Draft.methods fun draft l => { draft with methods := some l },
    listPlace "contract_addresses" Draft.contractAddresses fun draft l =>
      { draft with contractAddresses := some l }]

theorem layout_fields : layout.fields = places.map Place.field := rfl

theorem places_lawful : Place.Lawful {} places where
  distinct := by simp [places, listPlace]
  get_set := by simp [places, listPlace]
  get_set_other := by simp [places, listPlace]
  ext := by
    rintro ⟨enabled, userAgents, origins, methods, contracts⟩
      ⟨enabled', userAgents', origins', methods', contracts'⟩ h
    simpa [places, listPlace] using h
  free := by simp [places, listPlace]

/-- The allow-list of a draft, absent fields defaulted. -/
def Draft.allowList (draft : Draft) : AllowList where
  enabled := draft.enabled.getD false
  userAgents := draft.userAgents.getD []
  origins := draft.origins.getD []
  methods := draft.methods.getD []
  contractAddresses := draft.contractAddresses.getD []

theorem fill_eq_ofMembers (members : List (String × Tree)) :
    (Shape.fill places {} members).map Draft.allowList = ofMembers members := by
  refine Option.ext fun list => ?_
  simp only [Option.map_eq_some_iff, ofMembers, Option.bind_eq_bind, Option.bind_eq_some_iff,
    Option.pure_def, Option.some.injEq, Shape.fill_blank_eq_some_iff places_lawful]
  constructor
  · rintro ⟨⟨enabled, userAgents, origins, methods, contracts⟩, ⟨hmembers, -⟩, rfl⟩
    have h := hmembers
    simp only [places, listPlace, List.forall_mem_cons] at h
    exact ⟨enabled, h.1, userAgents, h.2.1, origins, h.2.2.1, methods, h.2.2.2.1, contracts,
      h.2.2.2.2.1, rfl⟩
  · rintro ⟨enabled, henabled, userAgents, huserAgents, origins, horigins, methods, hmethods,
      contracts, hcontracts, rfl⟩
    refine ⟨⟨enabled, userAgents, origins, methods, contracts⟩, ?_, rfl⟩
    simp [places, listPlace, henabled, huserAgents, horigins, hmethods, hcontracts]

end AllowList

/-! ## Route groups -/

namespace RouteGroup

/-- The group that the members of an object stand for. -/
def ofMembers (members : List (String × Tree)) : Option RouteGroup := do
  let nodes ← Shape.member "nodes" (Shape.list Shape.text) members
  return ⟨nodes.getD []⟩

/-- Where a draft of a group keeps its field. -/
def places : List (Place Draft) :=
  [{ Value := List String, name := "nodes", required := false, get := Draft.nodes
     set := fun _ l => { nodes := some l }
     reader := .list .text, shape := Shape.list Shape.text
     reads := Json.Reader.reads_text.list }]

theorem layout_fields : layout.fields = places.map Place.field := rfl

theorem places_lawful : Place.Lawful {} places where
  distinct := by simp [places]
  get_set := by simp [places]
  get_set_other := by simp [places]
  ext := by
    rintro ⟨nodes⟩ ⟨nodes'⟩ h
    simpa [places] using h
  free := by simp [places]

/-- The group of a draft, its list defaulted. -/
def Draft.group (draft : Draft) : RouteGroup := ⟨draft.nodes.getD []⟩

theorem fill_eq_ofMembers (members : List (String × Tree)) :
    (Shape.fill places {} members).map Draft.group = ofMembers members := by
  refine Option.ext fun group => ?_
  simp only [Option.map_eq_some_iff, ofMembers, Option.bind_eq_bind, Option.bind_eq_some_iff,
    Option.pure_def, Option.some.injEq, Shape.fill_blank_eq_some_iff places_lawful]
  constructor
  · rintro ⟨⟨nodes⟩, ⟨hmembers, -⟩, rfl⟩
    have h := hmembers
    simp only [places, List.forall_mem_cons] at h
    exact ⟨nodes, h.1, rfl⟩
  · rintro ⟨nodes, hnodes, rfl⟩
    exact ⟨⟨nodes⟩, by simp [places, hnodes], rfl⟩

end RouteGroup

/-! ## Payloads -/

/-- The content that the members of an object stand for; `none` when a field has two members or one
of another shape. -/
def Domain.ofMembers : (domain : Domain) → List (String × Tree) → Option domain.Content
  | .strategy => Strategy.ofMembers
  | .allowList => AllowList.ofMembers
  | .routeGroup => RouteGroup.ofMembers

theorem Domain.reader_readWhole (domain : Domain) {members : List (String × Tree)} {s : List Char}
    (h : SpellsDocument (.object members) s) :
    (domain.reader.readWhole s).toOption = domain.ofMembers members := by
  cases domain with
  | strategy =>
    exact Json.Reader.readWhole_record Strategy.layout_fields Strategy.fill_eq_ofMembers h
  | allowList =>
    exact Json.Reader.readWhole_record AllowList.layout_fields AllowList.fill_eq_ofMembers h
  | routeGroup =>
    exact Json.Reader.readWhole_record RouteGroup.layout_fields RouteGroup.fill_eq_ofMembers h

namespace Policy

variable {domain : Domain} {members : List (String × Tree)} {text : String}

/-- A document without a meaning is malformed, and where the fault is depends on its spelling. -/
theorem readContent_meaningless (h : SpellsDocument (.object members) text.toList)
    (hm : domain.ofMembers members = none) (name : String) :
    ∃ problem, readContent domain name text = .error (.malformedPayload domain name problem) := by
  obtain ⟨fault, hf⟩ := Json.toOption_eq_none ((domain.reader_readWhole h).trans hm)
  exact ⟨fault.locate text.toList, by rw [readContent, hf]⟩

theorem readContent_meaning (h : SpellsDocument (.object members) text.toList)
    {content : domain.Content} (hm : domain.ofMembers members = some content) (name : String) :
    readContent domain name text = .ok content := by
  rw [readContent, Json.toOption_eq_some ((domain.reader_readWhole h).trans hm)]

/-- A payload is malformed when its document means nothing. Otherwise it is the policy of what the
document means, or is refused for the first rule that this breaks. -/
theorem ofPayload_document (h : SpellsDocument (.object members) text.toList) (id : RecordId)
    (name : String) :
    (domain.ofMembers members = none →
      ∃ problem, ofPayload domain id name text = .error (.malformedPayload domain name problem)) ∧
    ∀ content, domain.ofMembers members = some content →
      (domain.KeepsRules content → ofPayload domain id name text = .ok ⟨id, name, content⟩) ∧
      (¬domain.KeepsRules content → ∃ violation, domain.violation? content = some violation ∧
        ofPayload domain id name text = .error (.invalidPayload domain name violation)) := by
  constructor
  · intro hm
    obtain ⟨problem, hread⟩ := readContent_meaningless h hm name
    exact ⟨problem, ofPayload_of_readContent_error hread id⟩
  · intro content hm
    have hread := readContent_meaning h hm name
    obtain ⟨hkept, hbroken⟩ := ofPayload_of_readContent_ok hread id
    refine ⟨hkept, fun hnot => ?_⟩
    rw [← domain.violation?_eq_none_iff] at hnot
    obtain ⟨violation, hv⟩ := Option.ne_none_iff_exists'.1 hnot
    exact ⟨violation, hv, hbroken violation hv⟩

/-- The name of a member may be spelled with an escape. -/
theorem ofPayload_escaped_name :
    SpellsDocument (.object [("enabled", .flag true)]) "\x7b\"\\u0065nabled\": true\x7d".toList ∧
      ofPayload .allowList 7 "ops" "\x7b\"\\u0065nabled\": true\x7d" =
        .ok ⟨7, "ops", (⟨true, [], [], [], []⟩ : AllowList)⟩ := by
  have hescape : Json.SpellsChar 'e' ['\\', 'u', '0', '0', '6', '5'] :=
    .unit (by decide) (.digits (.inl rfl) (.inl rfl) (.inl rfl) (.inl rfl))
  have hname : Json.SpellsText "enabled" _ :=
    .quoted (.cons hescape (Json.spellsChars_escapeChar ['n', 'a', 'b', 'l', 'e', 'd']))
  have hgap : Json.IsGap [' '] := by simp [Json.IsGap, Json.isGap]
  have hvalue : Json.Spells (.object [("enabled", .flag true)]) _ :=
    .object Json.isGap_nil (.colon hname Json.isGap_nil hgap (.flag true)) (.nil Json.isGap_nil)
  have h : SpellsDocument (.object [("enabled", .flag true)])
      "\x7b\"\\u0065nabled\": true\x7d".toList :=
    .spaced Json.isGap_nil hvalue Json.isGap_nil
  have hkeeps : Domain.KeepsRules .allowList (⟨true, [], [], [], []⟩ : AllowList) := by
    simp [Domain.KeepsRules, Domain.KeepsRulesBy, AllowList.KeepsRules,
      AllowList.sections]
  exact ⟨h, ((ofPayload_document h 7 "ops").2 _ rfl).1 hkeeps⟩

/-- The document of a strategy whose algorithm is no string and whose rule is no object. -/
def unusualStrategy : Tree :=
  .object [("algo", .object [("fixed_window", .null)]),
    ("rules", .object [("a", .list [.ofNat 1, .ofNat 2])])]

/-- An algorithm may be the one key of an object, and a rule the list of its fields. -/
theorem ofPayload_unusual_forms :
    SpellsDocument unusualStrategy
        "\x7b\"algo\":\x7b\"fixed_window\":null\x7d,\"rules\":\x7b\"a\":[1,2]\x7d\x7d".toList ∧
      ofPayload .strategy 1 "x"
          "\x7b\"algo\":\x7b\"fixed_window\":null\x7d,\"rules\":\x7b\"a\":[1,2]\x7d\x7d" =
        .ok ⟨1, "x", Strategy.empty .fixedWindow |>.withRule "a" ⟨1, 2⟩⟩ := by
  have hwf : unusualStrategy.WellFormed := by
    simp [unusualStrategy, Tree.WellFormed, Tree.ItemsWellFormed, Tree.MembersWellFormed,
      Tree.ofNat, Json.Numeral.wellFormed_ofNat]
  have h : SpellsDocument unusualStrategy
      "\x7b\"algo\":\x7b\"fixed_window\":null\x7d,\"rules\":\x7b\"a\":[1,2]\x7d\x7d".toList :=
    Tree.spellsDocument_compact unusualStrategy hwf
  have hkeeps : Domain.KeepsRules .strategy (Strategy.empty .fixedWindow |>.withRule "a" ⟨1, 2⟩) :=
    (Strategy.keepsRules_empty _).withRule ⟨by decide, by decide, by decide⟩
  exact ⟨h, (ofPayload_of_readContent_ok (readContent_meaning h rfl "x") 1).1 hkeeps⟩

end Policy

end PolicyStore
