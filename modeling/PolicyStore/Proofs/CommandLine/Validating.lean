import PolicyStore.Database.Script
import PolicyStore.Proofs.CommandLine.Performing
import PolicyStore.Proofs.Service.Storing

/-!
# Arguments are checked before the record store is asked

Whatever a record store answers, policies are written only under the names of registered domains, and
only with payloads that decode to them again. What is at fault by its arguments is told without asking
the record store. A payload file is read before that, so where it cannot be read this is told instead.
-/

namespace PolicyStore

variable {σ α β : Type} {registry : Registry} {domain : Domain}

/-! ## Operations that fail for what they were given -/

/-- An operation that fails without asking for anything. -/
def Operation.Fails (operation : Operation α) : Prop :=
  ∃ error, error.kind = .validation ∧
    (operation = .refused error ∨ ∃ title, operation = .guarded title (.done (.error error)))

theorem Operation.Invalid.fails {operation : Operation α} (h : operation.Invalid) :
    operation.Fails := by
  obtain ⟨error, hoperation, hkind⟩ := h
  exact ⟨error, hkind, .inl hoperation⟩

theorem Operation.Fails.map (f : α → β) {operation : Operation α} (h : operation.Fails) :
    (operation.map f).Fails := by
  obtain ⟨error, hkind, rfl | ⟨title, rfl⟩⟩ := h
  · exact ⟨error, hkind, .inl rfl⟩
  · exact ⟨error, hkind, .inr ⟨title, rfl⟩⟩

theorem Operation.Fails.perform {service : Service σ} (operation : Registry → Operation α)
    (h : (operation service.registry).Fails) (hgiven : service.interrupt.isGiven = false)
    (signal : Option Nat) : ∃ error, error.kind = .validation ∧
      service.perform operation signal = (some (.error error), service, []) := by
  obtain ⟨error, hkind, hoperation | ⟨title, hoperation⟩⟩ := h
  · refine ⟨error, hkind, ?_⟩
    rw [Service.perform, hoperation]
    rfl
  · refine ⟨error, hkind, ?_⟩
    rw [Service.perform, hoperation, Operation.perform, if_neg (by simp [hgiven])]
    rfl

/-- The domain of an operation is not registered, or its arguments are such as no service takes. -/
def Service.PolicyOffer.AtFault (registry : Registry) (offer : PolicyOffer) : Prop :=
  offer.Faulty ∨
    ∃ domain, offer.domain? = some domain ∧ registry.isRegistered domain.namePrefix = false

theorem Service.PolicyOffer.AtFault.fails {offer : PolicyOffer} (h : offer.AtFault registry) :
    (offer.operation registry).Fails := by
  rcases h with hfaulty | ⟨domain, hdomain, hunregistered⟩
  · exact (invalid_operation (.inl hfaulty)).fails
  cases offer with
  | loadAll other =>
    -- the one operation on a domain that is not refused outright
    cases hdomain
    refine ⟨.unregisteredNamespace domain.namePrefix, rfl, .inr ⟨"load config domain", ?_⟩⟩
    rw [operation, Service.loadAll, withSnapshot, require_unregistered hunregistered]
  | _ =>
    refine (invalid_operation (.inr ⟨domain, ?_, hunregistered⟩)).fails
    exact hdomain

namespace Command

/-! ## Commands that fail for what they were given -/

/-- The commands that are about policies. -/
def OfPolicies : Command → Prop
  | .listPolicies _ | .showPolicy _ _ | .showPolicyById _ _ => True
  | .putPolicy _ _ _ | .removePolicy _ _ | .setRouteGroup _ _ => True
  | .getRecords _ | .setRecord _ _ | .deleteRecord _ | .readReorg | .bumpReorg => False

/-- The domain of a command is not registered, or the policy that it names or gives has no name or is
not well-formed or breaks a rule. -/
def AtFault (registry : Registry) (files : Files) : Command → Prop
  | .listPolicies domain | .showPolicyById domain _ =>
    registry.isRegistered domain.namePrefix = false
  | .showPolicy domain name | .removePolicy domain name =>
    registry.isRegistered domain.namePrefix = false ∨ name = ""
  | .putPolicy domain name path =>
    registry.isRegistered domain.namePrefix = false ∨ name = "" ∨
      ∃ text, files path = .ok text ∧ ∀ policy, Policy.ofPayload domain 0 name text ≠ .ok policy
  | .setRouteGroup name nodes =>
    registry.isRegistered Domain.routeGroup.namePrefix = false ∨ name = "" ∨
      ¬RouteGroup.KeepsRules ⟨nodes⟩
  | _ => False

/-- The file that a command reads, if it reads one, has a text. -/
def Readable (files : Files) (command : Command) : Prop :=
  ∀ path, command.path? = some path → ∃ text, files path = .ok text

end Command

theorem CommandError.ofPolicyError_validation {error : PolicyError} (h : error.kind = .validation) :
    ∃ message, ofPolicyError error = .validation message := by
  rw [ofPolicyError, h]
  exact ⟨_, rfl⟩

theorem Policy.ofPayload_error_kind {id : RecordId} {name text : String} {error : PolicyError}
    (h : ofPayload domain id name text = .error error) : error.kind = .validation := by
  rw [ofPayload, ofPayloadBy, readContent] at h
  cases hread : domain.reader.readWhole text.toList with
  | error fault =>
    rw [hread] at h
    cases h
    rfl
  | ok content =>
    rw [hread] at h
    cases hviolation : domain.violationBy? Url.parse content with
    | none =>
      simp only [bind, Except.bind, hviolation] at h
      cases h
    | some violation =>
      simp only [bind, Except.bind, hviolation] at h
      cases h
      rfl

namespace Command

variable {command : Command} {files : Files}

/-- A command that is at fault fails before its operation, or with it. -/
theorem AtFault.offer (h : command.AtFault registry files) (hreadable : command.Readable files) :
    (∃ message, command.offer files = .error (.validation message)) ∨
      ∃ offer, command.offer files = .ok (.policies offer) ∧ offer.AtFault registry := by
  cases command with
  | listPolicies domain => exact .inr ⟨.loadAll domain, rfl, .inr ⟨domain, rfl, h⟩⟩
  | showPolicy domain name =>
    refine .inr ⟨.load domain name, rfl, ?_⟩
    rcases h with hunregistered | hname
    · exact .inr ⟨domain, rfl, hunregistered⟩
    · exact .inl hname
  | showPolicyById domain id => exact .inr ⟨.loadById domain id, rfl, .inr ⟨domain, rfl, h⟩⟩
  | putPolicy domain name path =>
    obtain ⟨text, htext⟩ := hreadable path rfl
    rw [Command.offer, policyInFile_of_text htext]
    cases hpolicy : Policy.ofPayload domain 0 name text with
    | error error =>
      obtain ⟨message, hmessage⟩ :=
        CommandError.ofPolicyError_validation (Policy.ofPayload_error_kind hpolicy)
      exact .inl ⟨message, congrArg Except.error hmessage⟩
    | ok policy =>
      obtain ⟨-, hnamed, -⟩ := Policy.ofPayload_eq_ok hpolicy
      refine .inr ⟨.store domain policy, rfl, ?_⟩
      rcases h with hunregistered | hname | ⟨other, hother, hnone⟩
      · exact .inr ⟨domain, rfl, hunregistered⟩
      · exact .inl (.inl (hnamed.trans hname))
      · rw [htext] at hother
        cases hother
        exact absurd hpolicy (hnone policy)
  | removePolicy domain name =>
    refine .inr ⟨.remove domain name, rfl, ?_⟩
    rcases h with hunregistered | hname
    · exact .inr ⟨domain, rfl, hunregistered⟩
    · exact .inl hname
  | setRouteGroup name nodes =>
    refine .inr ⟨.store .routeGroup ⟨0, name, ⟨nodes⟩⟩, rfl, ?_⟩
    rcases h with hunregistered | hname | hrules
    · exact .inr ⟨.routeGroup, rfl, hunregistered⟩
    · exact .inl (.inl hname)
    · exact .inl (.inr hrules)
  | _ => exact h.elim

theorem AtFault.perform {service : Service σ} (h : command.AtFault service.registry files)
    (hreadable : command.Readable files) (hgiven : service.interrupt.isGiven = false)
    (format : OutputFormat) (signal : Option Nat) : ∃ message,
      command.perform format files service signal =
        (some (.error (.validation message)), service, []) := by
  rcases h.offer hreadable with ⟨message, hoffer⟩ | ⟨offer, hoffer, hfault⟩
  · exact ⟨message, perform_of_offer_error hoffer service signal⟩
  · obtain ⟨f, hperform, -⟩ := perform_of_offer_ok hoffer format service signal
    obtain ⟨error, hkind, hfailed⟩ := Operation.Fails.perform
      (fun registry => (offer.operation registry).map f) (hfault.fails.map f) hgiven signal
    obtain ⟨message, hmessage⟩ := CommandError.ofPolicyError_validation hkind
    refine ⟨message, ?_⟩
    rw [hperform]
    change ((service.perform (fun registry => (offer.operation registry).map f) signal).1.map conclude,
      (service.perform (fun registry => (offer.operation registry).map f) signal).2) = _
    rw [hfailed, ← hmessage]
    rfl

end Command

/-! ## Deeds -/

/-- An operation on policies, of the service or of the command line. -/
inductive Deed
  | ofOffer (offer : Service.PolicyOffer)
  | ofCommand (command : Command) (ofPolicies : command.OfPolicies) (format : OutputFormat)
    (files : Files)

namespace Deed

/-- The service after a deed whose signal would be given at `signal`. -/
def perform (deed : Deed) (service : Service σ) (signal : Option Nat) : Service σ :=
  match deed with
  | .ofOffer offer => (service.perform (fun registry => offer.operation registry) signal).2.1
  | .ofCommand command _ format files => (command.perform format files service signal).2.1

/-- The service after several deeds, each with the time of its signal. -/
def performAll (deeds : List (Deed × Option Nat)) (service : Service σ) : Service σ :=
  deeds.foldl (fun service (deed, signal) => deed.perform service signal) service

/-- A deed fails for what it was given. -/
def Rejected (deed : Deed) (service : Service σ) (signal : Option Nat) : Prop :=
  match deed with
  | .ofOffer offer => ∃ error, error.kind = .validation ∧
    (service.perform (fun registry => offer.operation registry) signal).1 = some (.error error)
  | .ofCommand command _ format files => ∃ message,
    (command.perform format files service signal).1 = some (.error (.validation message))

/-- The arguments of a deed are at fault, or its domain is not registered. -/
def AtFault (registry : Registry) : Deed → Prop
  | .ofOffer offer => offer.AtFault registry
  | .ofCommand command _ _ files => command.AtFault registry files

/-- The file that a deed reads, if it reads one, has a text. -/
def Readable : Deed → Prop
  | .ofOffer _ => True
  | .ofCommand command _ _ files => command.Readable files

/-- A deed stores a policy. -/
inductive Stores : Deed → {domain : Domain} → Policy domain → Prop
  | store {domain : Domain} (policy : Policy domain) : Stores (.ofOffer (.store domain policy)) policy
  | put {domain : Domain} {policy : Policy domain} {name path text : String} {files : Files}
    (typed : (Command.putPolicy domain name path).OfPolicies) (format : OutputFormat)
    (read : files path = .ok text) (decoded : Policy.ofPayload domain 0 name text = .ok policy) :
    Stores (.ofCommand (.putPolicy domain name path) typed format files) policy
  | setRouteGroup (name : String) (nodes : List String)
    (typed : (Command.setRouteGroup name nodes).OfPolicies) (format : OutputFormat)
    (files : Files) : Stores (.ofCommand (.setRouteGroup name nodes) typed format files)
      (⟨0, name, ⟨nodes⟩⟩ : Policy .routeGroup)

/-- What a deed may ask of the record store. What is written is a policy of a registered domain: its
payload, under its name, and a record like this decodes to the policy. Names and prefixes are those
of registered domains. -/
def May (registry : Registry) (deed : Deed) : Request → Prop
  | .upsert key value => ∃ (domain : Domain) (policy : Policy domain),
    deed.Stores policy ∧ registry.isRegistered domain.namePrefix = true ∧ policy.name ≠ "" ∧
      key = domain.key policy.name ∧ policy.payload = .ok value ∧
      ∀ record : Record, record.name = key → record.value = value →
        Policy.ofRecord domain record = .ok { policy with id := record.id }
  | .delete key | .loadByName key => ∃ (domain : Domain) (name : String),
    registry.isRegistered domain.namePrefix = true ∧ name ≠ "" ∧ key = domain.key name
  | .loadByPrefix namePrefix => ∃ domain : Domain,
    registry.isRegistered domain.namePrefix = true ∧ namePrefix = domain.namePrefix
  | .loadRecords keys => registry.isRegistered Domain.routeGroup.namePrefix = true ∧
    ∃ names : List String, keys = names.map Domain.routeGroup.key
  | .loadById _ => ∃ domain : Domain, registry.isRegistered domain.namePrefix = true
  | .increment _ => False

variable {deed : Deed} {request : Request}

theorem may_of_makes {offer : Service.PolicyOffer}
    (hstores : ∀ (domain : Domain) (policy : Policy domain), offer = .store domain policy →
      deed.Stores policy)
    (h : offer.Makes registry request) : deed.May registry request := by
  cases offer with
  | load domain name =>
    obtain ⟨hregistered, hname, rfl⟩ := h
    exact ⟨domain, name, hregistered, hname, rfl⟩
  | loadById domain id =>
    obtain ⟨hregistered, rfl⟩ := h
    exact ⟨domain, hregistered⟩
  | loadAll domain =>
    obtain ⟨hregistered, rfl⟩ := h
    exact ⟨domain, hregistered, rfl⟩
  | loadChanged domain previous =>
    obtain ⟨hregistered, rfl⟩ := h
    exact ⟨domain, hregistered, rfl⟩
  | store domain policy =>
    obtain ⟨hregistered, hname, text, htext, rfl⟩ := h
    have hwritten := (Policy.payload_eq_ok_iff policy text).mp htext
    refine ⟨domain, policy, hstores domain policy rfl, hregistered, hname, rfl, htext, ?_⟩
    intro record hkey hvalue
    exact Policy.ofRecord_written hname hwritten.1 hkey (hvalue.trans hwritten.2.symm)
  | remove domain name =>
    obtain ⟨hregistered, hname, rfl⟩ := h
    exact ⟨domain, name, hregistered, hname, rfl⟩
  | loadRateLimitConfig =>
    obtain ⟨domain, hregistered, rfl⟩ := h
    exact ⟨domain, hregistered, rfl⟩
  | loadRouteGroups names =>
    obtain ⟨hregistered, rfl | rfl⟩ := h
    · exact ⟨.routeGroup, hregistered, rfl⟩
    · exact ⟨hregistered, names, rfl⟩

/-- The offer that a command about policies takes up is one on policies, and what this stores the
command stores. -/
theorem offer_of_command {command : Command} (typed : command.OfPolicies) (format : OutputFormat)
    {files : Files} {offer : Service.Offer} (h : command.offer files = .ok offer) :
    ∃ policies : Service.PolicyOffer, offer = .policies policies ∧
      ∀ (domain : Domain) (policy : Policy domain), policies = .store domain policy →
        (Deed.ofCommand command typed format files).Stores policy := by
  cases command with
  | putPolicy domain name path =>
    obtain ⟨policy, hfile, rfl⟩ := Command.offer_putPolicy h
    obtain ⟨text, htext, hpolicy⟩ := Command.policyInFile_eq_ok hfile
    refine ⟨_, rfl, fun other stored hstored => ?_⟩
    cases hstored
    exact .put typed format htext hpolicy
  | setRouteGroup name nodes =>
    cases h
    refine ⟨_, rfl, fun other stored hstored => ?_⟩
    cases hstored
    exact .setRouteGroup name nodes typed format files
  | getRecords names => exact typed.elim
  | setRecord name value => exact typed.elim
  | deleteRecord name => exact typed.elim
  | readReorg => exact typed.elim
  | bumpReorg => exact typed.elim
  -- the rest stores nothing
  | _ =>
    cases h
    refine ⟨_, rfl, fun other stored hstored => ?_⟩
    cases hstored

/-! ## The calls of several deeds -/

variable {Kind : Request → Prop} {records : RecordStore σ}
  {service : Service (σ × List StoreCall)}

/-- One deed makes calls of a kind when all that it may ask is of this kind. -/
theorem kept_perform (h : service.Kept Kind records registry)
    (hmay : ∀ request, deed.May registry request → Kind request) (signal : Option Nat) :
    (deed.perform service signal).Kept Kind records registry := by
  cases deed with
  | ofOffer offer =>
    refine h.perform (fun registry => offer.operation registry) ?_ signal
    refine (offer.asks_operation registry).mono fun request hmakes => ?_
    refine hmay request (may_of_makes (fun domain policy hoffer => ?_) hmakes)
    rw [hoffer]
    exact .store policy
  | ofCommand command typed format files =>
    change (command.perform format files service signal).2.1.Kept Kind records registry
    cases hoffer : command.offer files with
    | error error =>
      rw [Command.perform_of_offer_error hoffer]
      exact h
    | ok offer =>
      obtain ⟨f, hperform, -⟩ := Command.perform_of_offer_ok hoffer format service signal
      obtain ⟨policies, rfl, hstores⟩ := offer_of_command typed format hoffer
      rw [hperform]
      have hasks : (policies.operation registry).Asks Kind :=
        (policies.asks_operation registry).mono fun request hmakes =>
          hmay request (may_of_makes hstores hmakes)
      exact h.perform (fun registry => (policies.operation registry).map f)
        (Operation.asks_map f hasks) signal

theorem kept_performAll (h : service.Kept Kind records registry) {deeds : List (Deed × Option Nat)}
    (hmay : ∀ deed ∈ deeds, ∀ request, deed.1.May registry request → Kind request) :
    (performAll deeds service).Kept Kind records registry := by
  induction deeds generalizing service with
  | nil => exact h
  | cons deed deeds ih =>
    obtain ⟨hfirst, hrest⟩ := List.forall_mem_cons.mp hmay
    exact ih (kept_perform h hfirst deed.2) hrest

theorem AtFault.perform {deed : Deed} {service : Service σ} (h : deed.AtFault service.registry)
    (hreadable : deed.Readable) (hgiven : service.interrupt.isGiven = false)
    (signal : Option Nat) : deed.perform service signal = service ∧ deed.Rejected service signal := by
  cases deed with
  | ofOffer offer =>
    have hfails : (offer.operation service.registry).Fails := Service.PolicyOffer.AtFault.fails h
    obtain ⟨error, hkind, hfailed⟩ := Operation.Fails.perform
      (fun registry => offer.operation registry) hfails hgiven signal
    rw [Deed.perform, Rejected, hfailed]
    exact ⟨rfl, error, hkind, rfl⟩
  | ofCommand command typed format files =>
    have hfault : command.AtFault service.registry files := h
    obtain ⟨message, hfailed⟩ := hfault.perform hreadable hgiven format signal
    rw [Deed.perform, Rejected, hfailed]
    exact ⟨rfl, message, rfl⟩

/-- Whatever the record store answers and whatever is interrupted, all calls are such as the deeds may
make. A deed that is at fault makes none and fails for what it was given; only a payload file that
cannot be read is told before that, and as a failure. -/
theorem arguments_checked (service : Service σ) :
    (∀ deeds : List (Deed × Option Nat), ∀ call ∈ (performAll deeds service.keeping).state.2,
      ∃ deed ∈ deeds, deed.1.May service.registry call.request) ∧
    (service.interrupt.isGiven = false → ∀ (deed : Deed) (signal : Option Nat),
      deed.AtFault service.registry → deed.Readable →
        (deed.perform service.keeping signal).state.2 = [] ∧ deed.Rejected service signal) ∧
    ∀ (domain : Domain) (name path : String) (fault : FileFault) (files : Files)
      (format : OutputFormat) (signal : Option Nat), files path = .error fault →
        ((Command.putPolicy domain name path).perform format files service.keeping
          signal).2.1.state.2 = [] ∧
        ((Command.putPolicy domain name path).perform format files service signal).1 =
          some (.error (.failure ("failed to read " ++ path) [fault.message])) := by
  refine ⟨fun deeds => ?_, fun hgiven deed signal hfault hreadable => ?_, ?_⟩
  · have hkept : (performAll deeds service.keeping).Kept
        (fun request => ∃ deed ∈ deeds, deed.1.May service.registry request) service.records
        service.registry :=
      kept_performAll (service.kept_keeping _) fun deed hdeed request hmay =>
        ⟨deed, hdeed, hmay⟩
    exact hkept.calls
  · have hfaultKept : deed.AtFault service.keeping.registry := hfault
    have hcalls : deed.perform service.keeping signal = service.keeping :=
      (hfaultKept.perform hreadable hgiven signal).1
    refine ⟨?_, (hfault.perform hreadable hgiven signal).2⟩
    rw [hcalls]
    rfl
  · intro domain name path fault files format signal hfault
    have hoffer : (Command.putPolicy domain name path).offer files =
        .error (.failure ("failed to read " ++ path) [fault.message]) := by
      rw [Command.offer, Command.policyInFile, Files.read, hfault]
      rfl
    rw [Command.perform_of_offer_error hoffer, Command.perform_of_offer_error hoffer]
    exact ⟨rfl, rfl⟩

/-- A policy without a name, from a file that is not there. -/
def namelessPut : Deed :=
  .ofCommand (.putPolicy .strategy "" "missing.json") trivial .table noFiles

/-- Without a file to read a put of a policy without a name fails, but not for what it was given. -/
theorem nameless_put_unread :
    namelessPut.AtFault (Service.inMemory .builtin).registry ∧
      ¬namelessPut.Rejected (Service.inMemory .builtin) none := by
  refine ⟨.inr (.inl rfl), ?_⟩
  rintro ⟨message, hmessage⟩
  cases hmessage

/-- A service over a database that replies to one statement and then hangs up. -/
def scripted : Service (Database.Client Database.Script) :=
  ⟨Database.Client.records Database.Script.server,
    (Database.Script.ofReplies [.rows [[.integer 1]], .hangUp]).client none, .builtin, .unbounded⟩

/-- A store that succeeds, a removal that fails, and a group whose node is no URL. -/
def mixedDeeds : List (Deed × Option Nat) :=
  [(.ofOffer (.store .allowList Policy.escapedList), none),
    (.ofCommand (.removePolicy .strategy "free") trivial .table noFiles, some 3),
    (.ofCommand (.setRouteGroup "vip" ["vip-node"]) trivial .json noFiles, none)]

theorem arguments_checked_scripted :
    (performAll mixedDeeds scripted.keeping).state.2.map StoreCall.request =
        [.upsert "acl.allowlist.ops" "\x7b\"enabled\":true,\"user_agents\":[\"a\\\"b\\\\\\n\"]\x7d",
          .delete "ratelimit.strategy.free"] ∧
      (∀ call ∈ (performAll mixedDeeds scripted.keeping).state.2,
        ∃ deed ∈ mixedDeeds, deed.1.May scripted.registry call.request) ∧
      (Deed.ofOffer (.remove .strategy "")).Rejected scripted none ∧
      ((Command.putPolicy .strategy "" "missing.json").perform .table noFiles scripted none).1 =
        some (.error (.failure "failed to read missing.json" [FileFault.missing.message])) := by
  obtain ⟨hcalls, hrejected, hunread⟩ := arguments_checked scripted
  refine ⟨rfl, hcalls mixedDeeds, ?_, ?_⟩
  · exact (hrejected rfl (.ofOffer (.remove .strategy "")) none (.inl rfl) trivial).2
  · exact (hunread .strategy "" "missing.json" .missing noFiles .table none rfl).2

end Deed

end PolicyStore
