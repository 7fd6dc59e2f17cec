import PolicyStore.Policy.Basic

/-!
# What the rules of the domains say

Checking a content looks for the first rule that it breaks. Here the rules are said of the content
as a whole, without an order in which they are looked at; a check finds nothing just when they are
kept.
-/

namespace PolicyStore

/-- A rule has a key that is not blank, and allows some requests in some time. -/
structure Rule.Sound (key : String) (rule : Rule) : Prop where
  named : Text.isBlankText key = false
  interval : rule.intervalMs ≠ 0
  quota : rule.quota ≠ 0

/-- Every rule is sound. -/
def Strategy.KeepsRules (strategy : Strategy) : Prop :=
  ∀ (key : String) (rule : Rule), strategy.rules[key]? = some rule → rule.Sound key

/-- No entry of any list is blank. -/
def AllowList.KeepsRules (list : AllowList) : Prop :=
  ∀ part ∈ list.sections, ∀ entry ∈ part.entries, Text.isBlankText entry = false

section KeepsRules

variable (parse : String → Except Url.Fault Url)

/-- Every node is an absolute URL, of those that there are by `parse`. -/
def RouteGroup.KeepsRulesBy (group : RouteGroup) : Prop :=
  ∀ node ∈ group.nodes, ∃ url, parse node = .ok url

/-- The content keeps the rules of its domain, when `parse` says what a URL is. -/
def Domain.KeepsRulesBy : (domain : Domain) → domain.Content → Prop
  | .strategy => Strategy.KeepsRules
  | .allowList => AllowList.KeepsRules
  | .routeGroup => RouteGroup.KeepsRulesBy parse

end KeepsRules

/-- Every node is an absolute URL. -/
def RouteGroup.KeepsRules (group : RouteGroup) : Prop := group.KeepsRulesBy Url.parse

/-- The content keeps the rules of its domain. -/
def Domain.KeepsRules (domain : Domain) (content : domain.Content) : Prop :=
  domain.KeepsRulesBy Url.parse content

theorem Strategy.keepsRules_empty (algorithm : Algorithm) : (empty algorithm).KeepsRules := by
  intro key rule hrule
  simp [empty] at hrule

theorem Strategy.KeepsRules.withRule {strategy : Strategy} (h : strategy.KeepsRules) {key : String}
    {rule : Rule} (hsound : rule.Sound key) : (strategy.withRule key rule).KeepsRules := by
  intro other found hfound
  rw [Strategy.withRule, Std.ExtTreeMap.getElem?_insert] at hfound
  split at hfound
  next hsame =>
    obtain rfl := Std.LawfulEqCmp.eq_of_compare hsame
    obtain rfl := Option.some.inj hfound
    exact hsound
  next => exact h other found hfound

theorem Strategy.ruleViolation?_eq_none_iff (key : String) (rule : Rule) :
    ruleViolation? key rule = none ↔ rule.Sound key := by
  unfold ruleViolation?
  constructor
  · intro h
    split at h
    · simp at h
    split at h
    · simp at h
    split at h
    · simp at h
    next hkey hinterval hquota => exact ⟨by simpa using hkey, hinterval, hquota⟩
  · intro h
    rw [if_neg (by simp [h.named]), if_neg h.interval, if_neg h.quota]

theorem Strategy.violation?_eq_none_iff (strategy : Strategy) :
    strategy.violation? = none ↔ strategy.KeepsRules := by
  rw [violation?, List.findSome?_eq_none_iff]
  constructor
  · intro h key rule hrule
    have hmem := Std.ExtTreeMap.mem_toList_iff_getElem?_eq_some.mpr hrule
    exact (ruleViolation?_eq_none_iff key rule).mp (h (key, rule) hmem)
  · rintro h ⟨key, rule⟩ hmem
    have hrule := Std.ExtTreeMap.mem_toList_iff_getElem?_eq_some.mp hmem
    exact (ruleViolation?_eq_none_iff key rule).mpr (h key rule hrule)

theorem AllowList.violation?_eq_none_iff (list : AllowList) :
    list.violation? = none ↔ list.KeepsRules := by
  rw [violation?, List.findSome?_eq_none_iff]
  refine forall₂_congr fun part _ => ?_
  rw [Section.violation?, Option.map_eq_none_iff, List.findIdx?_eq_none_iff]

section Checks

variable (parse : String → Except Url.Fault Url)

/-- Parsing stops at the first node that is no URL, so it ends well when there is none. -/
theorem RouteGroup.urlsFrom_eq_ok_iff (index : Nat) (nodes : List String) :
    (∃ urls, urlsFrom parse index nodes = .ok urls) ↔
      ∀ node ∈ nodes, ∃ url, parse node = .ok url := by
  induction nodes generalizing index with
  | nil => simp [urlsFrom]
  | cons node nodes ih =>
    rw [urlsFrom, List.forall_mem_cons, ← ih (index + 1)]
    cases hparse : parse node with
    | error fault => simp
    | ok url => cases hrest : urlsFrom parse (index + 1) nodes <;> simp [Except.map]

theorem RouteGroup.violationBy?_eq_none_iff (group : RouteGroup) :
    group.violationBy? parse = none ↔ group.KeepsRulesBy parse := by
  rw [violationBy?, KeepsRulesBy, ← urlsFrom_eq_ok_iff parse 0]
  cases urlsFrom parse 0 group.nodes <;> simp

theorem Domain.violationBy?_eq_none_iff (domain : Domain) (content : domain.Content) :
    domain.violationBy? parse content = none ↔ domain.KeepsRulesBy parse content := by
  cases domain with
  | strategy => exact Strategy.violation?_eq_none_iff content
  | allowList => exact AllowList.violation?_eq_none_iff content
  | routeGroup => exact RouteGroup.violationBy?_eq_none_iff parse content

namespace Policy

variable {domain : Domain} {id : RecordId} {name text : String}

theorem payloadBy_eq_ok_iff (policy : Policy domain) (text : String) :
    policy.payloadBy parse = .ok text ↔
      domain.KeepsRulesBy parse policy.content ∧ (domain.tree policy.content).compact = text := by
  rw [payloadBy, ← Domain.violationBy?_eq_none_iff]
  cases domain.violationBy? parse policy.content <;> simp

/-- A content that was read becomes a policy just when it keeps the rules. -/
theorem ofPayloadBy_of_readContent_ok {content : domain.Content}
    (h : readContent domain name text = .ok content) (id : RecordId) :
    (domain.KeepsRulesBy parse content →
      ofPayloadBy parse domain id name text = .ok ⟨id, name, content⟩) ∧
      ∀ violation, domain.violationBy? parse content = some violation →
        ofPayloadBy parse domain id name text = .error (.invalidPayload domain name violation) := by
  simp only [ofPayloadBy, h, bind, Except.bind, pure, Except.pure]
  refine ⟨fun hkeeps => ?_, fun violation hv => ?_⟩
  · rw [(domain.violationBy?_eq_none_iff parse content).mpr hkeeps]
  · rw [hv]

theorem ofPayloadBy_eq_ok {policy : Policy domain}
    (h : ofPayloadBy parse domain id name text = .ok policy) :
    policy.id = id ∧ policy.name = name ∧ readContent domain name text = .ok policy.content ∧
      domain.KeepsRulesBy parse policy.content := by
  simp only [ofPayloadBy, bind, Except.bind, pure, Except.pure] at h
  split at h
  · simp at h
  next content hread =>
    split at h
    · simp at h
    next hnone =>
      obtain rfl := Except.ok.inj h
      exact ⟨rfl, rfl, hread, (domain.violationBy?_eq_none_iff parse content).mp hnone⟩

end Policy

end Checks

/-! ## Checks by the parser of URLs -/

theorem Domain.violation?_eq_none_iff (domain : Domain) (content : domain.Content) :
    domain.violation? content = none ↔ domain.KeepsRules content :=
  domain.violationBy?_eq_none_iff Url.parse content

namespace Policy

variable {domain : Domain} {id : RecordId} {name text : String}

theorem payload_eq_ok_iff (policy : Policy domain) (text : String) :
    policy.payload = .ok text ↔
      domain.KeepsRules policy.content ∧ (domain.tree policy.content).compact = text :=
  payloadBy_eq_ok_iff Url.parse policy text

theorem ofPayload_of_readContent_error {error : PolicyError}
    (h : readContent domain name text = .error error) (id : RecordId) :
    ofPayload domain id name text = .error error := by
  simp [ofPayload, ofPayloadBy, h, bind, Except.bind]

theorem ofPayload_of_readContent_ok {content : domain.Content}
    (h : readContent domain name text = .ok content) (id : RecordId) :
    (domain.KeepsRules content → ofPayload domain id name text = .ok ⟨id, name, content⟩) ∧
      ∀ violation, domain.violation? content = some violation →
        ofPayload domain id name text = .error (.invalidPayload domain name violation) :=
  ofPayloadBy_of_readContent_ok Url.parse h id

theorem ofPayload_eq_ok {policy : Policy domain} (h : ofPayload domain id name text = .ok policy) :
    policy.id = id ∧ policy.name = name ∧ readContent domain name text = .ok policy.content ∧
      domain.KeepsRules policy.content :=
  ofPayloadBy_eq_ok Url.parse h

end Policy

end PolicyStore
