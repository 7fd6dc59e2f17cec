import PolicyStore.Proofs.Policy.Rules
import PolicyStore.Proofs.Service.Direct

/-!
# What a service offers

The operations that a service offers, each with its arguments. Some arguments are refused before
anything else happens: a name that is empty, a policy that breaks a rule, and for most operations a
domain that is not registered. All other operations are carried out under the title that an
interruption is reported with.
-/

namespace PolicyStore

namespace Service

/-- What a service offers to do with policies. -/
inductive PolicyOffer
  | load (domain : Domain) (name : String)
  | loadById (domain : Domain) (id : RecordId)
  | loadAll (domain : Domain)
  | loadChanged (domain : Domain) (previous : Fingerprints)
  | store (domain : Domain) (policy : Policy domain)
  | remove (domain : Domain) (name : String)
  | loadRateLimitConfig
  | loadRouteGroups (names : List String)

/-- What a service offers at all. -/
inductive Offer
  | policies (offer : PolicyOffer)
  | loadByNames (names : List String)
  | loadByPattern (namePrefix : String)
  | loadRecordById (id : RecordId)
  | upsert (name value : String)
  | delete (name : String)
  | reorgVersion
  | bumpReorgVersion

namespace PolicyOffer

/-- What is given when it goes well. -/
abbrev Reply : PolicyOffer → Type
  | load domain _ | loadById domain _ => Policy domain
  | loadAll domain => Snapshot domain
  | loadChanged domain _ => Delta domain
  | store _ _ => RecordId
  | remove _ _ => Bool
  | loadRateLimitConfig => RateLimitConfig
  | loadRouteGroups _ => RouteGroups

/-- The operation that is performed. -/
def operation (registry : Registry) : (offer : PolicyOffer) → Operation offer.Reply
  | load domain name => Service.load registry domain name
  | loadById domain id => Service.loadById registry domain id
  | loadAll domain => Service.loadAll registry domain
  | loadChanged domain previous => Service.loadChanged registry domain previous
  | store _ policy => Service.store registry policy
  | remove domain name => Service.remove registry domain name
  | loadRateLimitConfig => Service.loadRateLimitConfig registry
  | loadRouteGroups names => Service.loadRouteGroups registry names

/-- What an interruption is reported with. -/
def title : PolicyOffer → String
  | load _ _ => "load config object"
  | loadById _ _ => "load config object by id"
  | loadAll _ => "load config domain"
  | loadChanged _ _ => "load changed config objects"
  | store _ _ => "store config object"
  | remove _ _ => "remove config object"
  | loadRateLimitConfig => "load rate limit config"
  | loadRouteGroups _ => "load node route groups"

/-- The domain that it is about, if it is about a single one. -/
def domain? : PolicyOffer → Option Domain
  | load domain _ | loadById domain _ | loadAll domain | loadChanged domain _ => some domain
  | store domain _ | remove domain _ => some domain
  | loadRouteGroups _ => some .routeGroup
  | loadRateLimitConfig => none

/-- The domain that has to be registered before it is begun. A load of a whole domain looks for this
only then. -/
def checked? : PolicyOffer → Option Domain
  | loadAll _ => none
  | offer => offer.domain?

/-- The arguments are such as no service takes: the name is empty, or the policy breaks a rule. -/
def Faulty : PolicyOffer → Prop
  | load _ name | remove _ name => name = ""
  | store domain policy => policy.name = "" ∨ ¬domain.KeepsRules policy.content
  | _ => False

/-- The arguments are refused before anything else happens. -/
def Refused (registry : Registry) (offer : PolicyOffer) : Prop :=
  offer.Faulty ∨
    ∃ domain, offer.checked? = some domain ∧ registry.isRegistered domain.namePrefix = false

end PolicyOffer

namespace Offer

/-- What is given when it goes well. -/
abbrev Reply : Offer → Type
  | policies offer => offer.Reply
  | loadByNames _ => Values
  | loadByPattern _ => List Record
  | loadRecordById _ => Record
  | upsert _ _ => RecordId
  | delete _ => Bool
  | reorgVersion | bumpReorgVersion => Int64

/-- The operation that is performed. -/
def operation (registry : Registry) : (offer : Offer) → Operation offer.Reply
  | policies offer => offer.operation registry
  | loadByNames names => Service.loadByNames names
  | loadByPattern namePrefix => Service.loadByPattern namePrefix
  | loadRecordById id => Service.loadRecordById id
  | upsert name value => Service.upsert name value
  | delete name => Service.delete name
  | reorgVersion => Service.reorgVersion
  | bumpReorgVersion => Service.bumpReorgVersion

/-- What an interruption is reported with. -/
def title : Offer → String
  | policies offer => offer.title
  | loadByNames _ => "load configs by name"
  | loadByPattern _ => "load configs by prefix"
  | loadRecordById _ => "load config by id"
  | upsert _ _ => "upsert config"
  | delete _ => "delete config"
  | reorgVersion => "read reorg version"
  | bumpReorgVersion => "bump reorg version"

/-- The arguments are such as no service takes. -/
def Faulty : Offer → Prop
  | policies offer => offer.Faulty
  | _ => False

/-- The arguments are refused before anything else happens. -/
def Refused (registry : Registry) : Offer → Prop
  | policies offer => offer.Refused registry
  | _ => False

end Offer

end Service

/-! ## Checks that fail -/

variable {α β : Type} {registry : Registry} {domain : Domain}

/-- A check that fails for what it was given. -/
def Rejects (check : Except PolicyError α) : Prop :=
  ∃ error, check = .error error ∧ error.kind = .validation

/-- An operation that is refused for what it was given. -/
def Operation.Invalid (operation : Operation α) : Prop :=
  ∃ error, operation = .refused error ∧ error.kind = .validation

/-- An operation that is carried out under a title. -/
def Operation.Titled (title : String) (operation : Operation α) : Prop :=
  ∃ program, operation = .guarded title program

theorem Operation.invalid_after {check : Except PolicyError β} (h : Rejects check)
    (next : β → Operation α) : (Operation.after check next).Invalid := by
  obtain ⟨error, rfl, hkind⟩ := h
  exact ⟨error, rfl, hkind⟩

theorem Operation.invalid_after_ok {check : Except PolicyError β} {b : β} (hcheck : check = .ok b)
    {next : β → Operation α} (h : (next b).Invalid) : (Operation.after check next).Invalid := by
  rw [hcheck]
  exact h

theorem Operation.titled_after {check : Except PolicyError β} {b : β} (hcheck : check = .ok b)
    {next : β → Operation α} {title : String} (h : (next b).Titled title) :
    (Operation.after check next).Titled title := by
  rw [hcheck]
  exact h

theorem rejects_payload {policy : Policy domain} (h : ¬domain.KeepsRules policy.content) :
    Rejects policy.payload := by
  rw [Policy.payload, Policy.payloadBy]
  cases hviolation : domain.violationBy? Url.parse policy.content with
  | none => exact absurd ((domain.violation?_eq_none_iff _).mp hviolation) h
  | some violation => exact ⟨_, rfl, rfl⟩

namespace Service

theorem require_unregistered (h : registry.isRegistered domain.namePrefix = false) :
    registry.require domain.namePrefix = .error (.unregisteredNamespace domain.namePrefix) := by
  rw [Registry.require, if_neg (by simp [h])]

theorem rejects_require (h : registry.isRegistered domain.namePrefix = false) :
    Rejects (registry.require domain.namePrefix) :=
  ⟨_, require_unregistered h, rfl⟩

/-- A domain that is not registered is told before a name that is empty. -/
theorem rejects_domainKey {name : String}
    (h : registry.isRegistered domain.namePrefix = false ∨ name = "") :
    Rejects (domainKey registry domain name) := by
  cases hregistered : registry.isRegistered domain.namePrefix with
  | false =>
    refine ⟨.unregisteredNamespace domain.namePrefix, ?_, rfl⟩
    rw [domainKey, require_unregistered hregistered]
    rfl
  | true =>
    have hname : name = "" := h.resolve_left (by simp [hregistered])
    subst hname
    exact ⟨_, domainKey_empty hregistered, rfl⟩

/-! ## What becomes of an offer -/

namespace PolicyOffer

variable {offer : PolicyOffer}

theorem registered_of_not_refused (h : ¬offer.Refused registry)
    (hchecked : offer.checked? = some domain) :
    registry.isRegistered domain.namePrefix = true := by
  cases hregistered : registry.isRegistered domain.namePrefix with
  | true => rfl
  | false => exact absurd (.inr ⟨domain, hchecked, hregistered⟩) h

theorem invalid_operation (h : offer.Refused registry) : (offer.operation registry).Invalid := by
  cases offer with
  | load domain name =>
    refine Operation.invalid_after (rejects_domainKey ?_) _
    simpa [Refused, Faulty, checked?, domain?, or_comm] using h
  | loadById domain id =>
    refine Operation.invalid_after (rejects_require ?_) _
    simpa [Refused, Faulty, checked?, domain?] using h
  | loadAll domain => simp [Refused, Faulty, checked?] at h
  | loadChanged domain previous =>
    refine Operation.invalid_after (rejects_require ?_) _
    simpa [Refused, Faulty, checked?, domain?] using h
  | store domain policy =>
    by_cases hkey : registry.isRegistered domain.namePrefix = false ∨ policy.name = ""
    · exact Operation.invalid_after (rejects_domainKey hkey) _
    · obtain ⟨hregistered, hname⟩ := not_or.mp hkey
      have hrules : ¬domain.KeepsRules policy.content := by
        simpa [Refused, Faulty, checked?, domain?, hregistered, hname] using h
      have hok := domainKey_ok (eq_true_of_ne_false hregistered) hname
      exact Operation.invalid_after_ok hok (Operation.invalid_after (rejects_payload hrules) _)
  | remove domain name =>
    refine Operation.invalid_after (rejects_domainKey ?_) _
    simpa [Refused, Faulty, checked?, domain?, or_comm] using h
  | loadRateLimitConfig => simp [Refused, Faulty, checked?, domain?] at h
  | loadRouteGroups names =>
    refine Operation.invalid_after (rejects_require ?_) _
    simpa [Refused, Faulty, checked?, domain?] using h

theorem titled_operation (h : ¬offer.Refused registry) :
    (offer.operation registry).Titled offer.title := by
  have hsound : ¬offer.Faulty := fun hfaulty => h (.inl hfaulty)
  cases offer with
  | load domain name =>
    have hregistered := registered_of_not_refused h rfl
    exact Operation.titled_after (domainKey_ok hregistered hsound) ⟨_, rfl⟩
  | loadById domain id =>
    have hregistered := registered_of_not_refused h rfl
    exact Operation.titled_after (require_eq_ok hregistered) ⟨_, rfl⟩
  | loadAll domain => exact ⟨_, rfl⟩
  | loadChanged domain previous =>
    have hregistered := registered_of_not_refused h rfl
    exact Operation.titled_after (require_eq_ok hregistered) ⟨_, rfl⟩
  | store domain policy =>
    obtain ⟨hname, hrules⟩ := not_or.mp hsound
    have hregistered := registered_of_not_refused h rfl
    have hpayload : policy.payload = .ok _ :=
      (Policy.payload_eq_ok_iff policy _).mpr ⟨Classical.not_not.mp hrules, rfl⟩
    refine Operation.titled_after (domainKey_ok hregistered hname) ?_
    exact Operation.titled_after hpayload ⟨_, rfl⟩
  | remove domain name =>
    have hregistered := registered_of_not_refused h rfl
    exact Operation.titled_after (domainKey_ok hregistered hsound) ⟨_, rfl⟩
  | loadRateLimitConfig => exact ⟨_, rfl⟩
  | loadRouteGroups names =>
    have hregistered : registry.isRegistered Domain.routeGroup.namePrefix = true :=
      registered_of_not_refused h rfl
    exact Operation.titled_after (require_eq_ok hregistered) ⟨_, rfl⟩

/-- Where every domain is registered only the arguments matter. -/
theorem refused_iff_faulty
    (hregistered : ∀ domain : Domain, registry.isRegistered domain.namePrefix = true)
    (offer : PolicyOffer) : offer.Refused registry ↔ offer.Faulty := by
  refine or_iff_left ?_
  rintro ⟨domain, -, hunregistered⟩
  rw [hregistered domain] at hunregistered
  cases hunregistered

end PolicyOffer

namespace Offer

variable {offer : Offer}

theorem invalid_operation (h : offer.Refused registry) : (offer.operation registry).Invalid := by
  cases offer with
  | policies offer => exact PolicyOffer.invalid_operation h
  | _ => cases h

theorem titled_operation (h : ¬offer.Refused registry) :
    (offer.operation registry).Titled offer.title := by
  cases offer with
  | policies offer => exact PolicyOffer.titled_operation h
  | _ => exact ⟨_, rfl⟩

theorem refused_iff_faulty
    (hregistered : ∀ domain : Domain, registry.isRegistered domain.namePrefix = true)
    (offer : Offer) : offer.Refused registry ↔ offer.Faulty := by
  cases offer with
  | policies offer => exact offer.refused_iff_faulty hregistered
  | _ => exact Iff.rfl

end Offer

end Service

end PolicyStore
