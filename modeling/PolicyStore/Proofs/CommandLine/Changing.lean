import PolicyStore.Proofs.CommandLine.Performing

/-!
# What commands change

A command that fails leaves the table as it was, whatever the table holds, and so does one that only
shows something. Any other command changes at most the row that its arguments name.
-/

namespace PolicyStore.Command

/-- The name of the row that a command may change. -/
def target? : Command → Option String
  | .setRecord name _ | .deleteRecord name => some name
  | .putPolicy domain name _ | .removePolicy domain name => some (domain.key name)
  | .setRouteGroup name _ => some (Domain.routeGroup.key name)
  | .bumpReorg => some reorgKey
  | .getRecords _ | .listPolicies _ | .showPolicy _ _ | .showPolicyById _ _ | .readReorg => none

/-- What a command may do to a table, by what it comes to. -/
structure Changes (command : Command) (before after : Memory) (result : Option Result) : Prop where
  ended : ∃ found, result = some found
  failed : ∀ error, result = some (.error error) → after = before
  shown : command.target? = none → after = before
  others : ∀ name, command.target? ≠ some name → after.rows[name]? = before.rows[name]?

theorem changes_of_eq (command : Command) {before after : Memory} (h : after = before)
    (result : Result) : Changes command before after (some result) where
  ended := ⟨result, rfl⟩
  failed _ _ := h
  shown _ := h
  others name _ := by rw [h]

theorem target?_of_offer {command : Command} {files : Files} {offer : Service.Offer}
    (h : command.offer files = .ok offer) : offer.target? = command.target? := by
  cases command with
  | putPolicy domain name path =>
    obtain ⟨policy, hfile, rfl⟩ := offer_putPolicy h
    obtain ⟨text, -, hpolicy⟩ := policyInFile_eq_ok hfile
    obtain ⟨-, hname, -⟩ := Policy.ofPayload_eq_ok hpolicy
    change some (domain.key policy.name) = some (domain.key name)
    rw [hname]
  | _ =>
    cases h
    rfl

/-- A command that fails changes nothing, and neither does one that only shows something; any other
one changes no row but its own. -/
theorem perform_changes (command : Command) (format : OutputFormat) (files : Files)
    (registry : Registry) (memory : Memory) (interrupt : Interrupt) (signal : Option Nat) :
    Changes command memory
      (command.perform format files ((Service.onTable registry memory).under interrupt)
        signal).2.1.state
      (command.perform format files ((Service.onTable registry memory).under interrupt)
        signal).1 := by
  cases hoffer : command.offer files with
  | error error =>
    rw [perform_of_offer_error hoffer]
    exact changes_of_eq command rfl _
  | ok offer =>
    have htarget := target?_of_offer hoffer
    obtain ⟨f, hperform, hundone⟩ := perform_of_offer_ok hoffer format
      ((Service.onTable registry memory).under interrupt) signal
    rw [hperform]
    dsimp only
    rcases Service.perform_under (fun registry => (offer.operation registry).map f) registry memory
      interrupt signal with ⟨⟨error, herror⟩, hsame⟩ | ⟨hresult, hdone⟩
    · rw [herror, hsame]
      exact changes_of_eq command rfl _
    · rw [hresult, hdone, Operation.eval_map]
      refine ⟨⟨_, rfl⟩, fun error hfailed => ?_, fun hshown => ?_, fun name hother => ?_⟩
      · refine Service.Offer.clean_operation registry offer memory fun reply hreply => ?_
        rw [hreply] at hfailed
        exact hundone reply error (Option.some.inj hfailed)
      · rw [← htarget] at hshown
        exact Service.Offer.clean_reading registry hshown memory fun _ _ => trivial
      · rw [← htarget] at hother
        exact (Service.Offer.spares_operation registry hother).eval memory

end PolicyStore.Command
