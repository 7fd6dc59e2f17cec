import PolicyStore.Proofs.Interrupting
import PolicyStore.Proofs.Service.Offers

/-!
# Operations are carried out in full or not at all

On a table that answers at once no operation is stopped half-way. Only a signal that was given before
keeps an operation from being carried out, and then the table is not touched. A deadline never does,
however short it is: the work is complete by the time at which it is looked at. So an operation comes to
what the race of its guard makes of work that takes no time.
-/

namespace PolicyStore

/-! ## Work that takes no time -/

namespace Event

/-- An event at time zero beats an event before it that happens at another time. -/
theorem earliest_zero {first : Event} (h : first.time ≠ some 0) (winner : Winner)
    (events : List Event) : earliest (first :: ⟨some 0, winner⟩ :: events) = winner := by
  have hnot : ¬first.isDue 0 = true := fun hdue =>
    h (time_eq_of_isDue hdue fun later _ => Nat.zero_le later)
  refine earliest_of_due (fun _ _ later _ => Nat.zero_le later) ?_
  rw [due, List.find?_cons_of_neg hnot, List.find?_cons_of_pos (by rfl), Option.map_some]

end Event

namespace Interrupt

/-- Work that takes no time is complete before anything else happens, unless the signal comes at the
same time. -/
theorem await_zero {signal : Option Nat} (h : signal ≠ some 0) (interrupt : Interrupt) :
    interrupt.await signal (some 0) = .ok () := by
  have hlater : (if interrupt.signal.any Signal.held then
      signal.map fun millis => (Duration.ofMillis millis).nanos else none) ≠ some 0 := by
    split
    · intro hzero
      obtain ⟨millis, hmillis, hnanos⟩ := Option.map_eq_some_iff.mp hzero
      have hmillisZero : millis = 0 := by
        simp only [Duration.ofMillis] at hnanos
        omega
      exact h (by rw [hmillis, hmillisZero])
    · simp
  have hwork : Event.earliest (interrupt.events signal (some 0)) = .work :=
    Event.earliest_zero hlater .work _
  rw [await, hwork]

theorem run_zero {ε α : Type} {interrupt : Interrupt} (hgiven : interrupt.isGiven = false)
    {signal : Option Nat} (h : signal ≠ some 0) (stopped : Interruption → ε)
    (result : Except ε α) :
    interrupt.run signal (some 0) stopped result = (some result, interrupt) := by
  rw [run, hgiven, await_zero h]
  rfl

end Interrupt

/-! ## Operations under a policy for interruption -/

namespace Service

variable {α : Type} {registry : Registry} {memory : Memory} {interrupt : Interrupt}

/-- The policy under which an operation that is not interrupted runs does not matter. -/
theorem perform_live (hgiven : interrupt.isGiven = false) (operation : Registry → Operation α)
    (signal : Option Nat) :
    ((onTable registry memory).under interrupt).perform operation signal =
      (some ((operation registry).eval memory).result,
        (onTable registry ((operation registry).eval memory).memory).under interrupt,
        ((operation registry).eval memory).skipped) := by
  rw [perform, under, onTable]
  dsimp only
  cases operation registry with
  | refused error => rfl
  | guarded title program =>
    rw [Operation.perform, if_neg (by simp [hgiven]), Program.run_instant]
    rfl

theorem perform_given (hgiven : interrupt.isGiven = true) {operation : Registry → Operation α}
    {title : String} (h : (operation registry).Titled title) (signal : Option Nat) :
    ((onTable registry memory).under interrupt).perform operation signal =
      (some (.error (.interrupted title .cancelled)), (onTable registry memory).under interrupt,
        []) := by
  obtain ⟨program, hprogram⟩ := h
  rw [perform, under, onTable]
  dsimp only
  rw [hprogram, Operation.perform, if_pos hgiven]

/-- An operation that is carried out under a title comes to what a guard around its result makes of
it. -/
theorem perform_guard {operation : Registry → Operation α} {title : String}
    (h : (operation registry).Titled title) {signal : Option Nat} (hsignal : signal ≠ some 0)
    (memory : Memory) (interrupt : Interrupt) :
    (((onTable registry memory).under interrupt).perform operation signal).1 =
      (interrupt.run signal (some 0) (.interrupted title)
        ((operation registry).eval memory).result).1 := by
  cases hgiven : interrupt.isGiven with
  | true =>
    rw [perform_given hgiven h, Interrupt.run, if_pos hgiven]
  | false => rw [perform_live hgiven, Interrupt.run_zero hgiven hsignal]

/-- What is performed for an offer. -/
def fulfil {σ : Type} (service : Service σ) (offer : Offer) (signal : Option Nat) :
    Option (Except PolicyError offer.Reply) × Service σ × List Skipped :=
  service.perform (fun registry => offer.operation registry) signal

/-- Unless the signal was given before, an offer is fulfilled as if it could not be interrupted,
whatever the signal and the deadline are. Where the signal was given before, the table is not touched
and the offer fails: it is reported as cancelled under its title, or its arguments are refused just as
they are without a signal. Either way an offer that is not refused comes to what a guard with its title
makes of work that is complete at once, unless the signal is given in the same instant. -/
theorem interruption_whole (registry : Registry) (memory : Memory) (offer : Offer)
    (interrupt : Interrupt) (signal : Option Nat) :
    (interrupt.isGiven = false →
      ((onTable registry memory).under interrupt).fulfil offer signal =
        (((onTable registry memory).fulfil offer none).1,
          ((onTable registry memory).fulfil offer none).2.1.under interrupt,
          ((onTable registry memory).fulfil offer none).2.2)) ∧
    (interrupt.isGiven = true →
      (((onTable registry memory).under interrupt).fulfil offer signal).2 =
        ((onTable registry memory).under interrupt, []) ∧
      (¬offer.Refused registry →
        (((onTable registry memory).under interrupt).fulfil offer signal).1 =
          some (.error (.interrupted offer.title .cancelled))) ∧
      (offer.Refused registry → ∃ error, error.kind = .validation ∧
        (((onTable registry memory).under interrupt).fulfil offer signal).1 =
          some (.error error) ∧
        ((onTable registry memory).fulfil offer none).1 = some (.error error))) ∧
    ((∀ domain : Domain, registry.isRegistered domain.namePrefix = true) →
      (offer.Refused registry ↔ offer.Faulty)) ∧
    (¬offer.Refused registry → signal ≠ some 0 → ∀ result,
      ((onTable registry memory).fulfil offer none).1 = some result →
        (((onTable registry memory).under interrupt).fulfil offer signal).1 =
          (interrupt.run signal (some 0) (.interrupted offer.title) result).1) := by
  refine ⟨fun hgiven => ?_, fun hgiven => ?_, fun hregistered => ?_, fun hsound hsignal result h => ?_⟩
  · rw [fulfil, perform_live hgiven, fulfil, perform_onTable]
  · by_cases hrefused : offer.Refused registry
    · obtain ⟨error, hoperation, hkind⟩ := Offer.invalid_operation hrefused
      have hperform : ∀ (service : Service Memory) (signal : Option Nat),
          service.registry = registry →
            service.fulfil offer signal = (some (.error error), service, []) := by
        rintro service signal rfl
        rw [fulfil, perform, hoperation]
        rfl
      rw [hperform _ signal rfl, hperform _ none rfl]
      exact ⟨rfl, fun hsound => absurd hrefused hsound, fun _ => ⟨error, hkind, rfl, rfl⟩⟩
    · rw [fulfil, perform_given hgiven (Offer.titled_operation hrefused)]
      exact ⟨rfl, fun _ => rfl, fun hfaulty => absurd hfaulty hrefused⟩
  · exact Offer.refused_iff_faulty hregistered offer
  · rw [fulfil, perform_onTable] at h
    rw [fulfil, perform_guard (Offer.titled_operation hsound) hsignal, Option.some.inj h]

/-- A signal that nobody holds any more, and a deadline that is over at once. -/
def letGo : Interrupt := ⟨some ⟨false, false⟩, some (.ofMillis 0)⟩

/-- A signal that has been given. -/
def called : Interrupt := ⟨some ⟨true, true⟩, none⟩

/-- A write with no time left, the same write after the signal, after the signal a removal that is
refused, and what the race makes of the first. -/
theorem interruption_whole_three :
    ((onTable .builtin .empty).under letGo).fulfil (.upsert "a" "1") (some 0) =
        (((onTable .builtin .empty).fulfil (.upsert "a" "1") none).1,
          ((onTable .builtin .empty).fulfil (.upsert "a" "1") none).2.1.under letGo,
          ((onTable .builtin .empty).fulfil (.upsert "a" "1") none).2.2) ∧
      (((onTable .builtin .empty).under called).fulfil (.upsert "a" "1") none).1 =
        some (.error (.interrupted "upsert config" .cancelled)) ∧
      (∃ error, error.kind = .validation ∧
        (((onTable .builtin .empty).under called).fulfil
          (.policies (.remove .strategy "")) none).1 = some (.error error) ∧
        ((onTable .builtin .empty).fulfil (.policies (.remove .strategy "")) none).1 =
          some (.error error)) ∧
      (((onTable .builtin .empty).under letGo).fulfil (.upsert "a" "1") none).1 =
        (letGo.run none (some 0) (.interrupted "upsert config") (.ok 1)).1 := by
  obtain ⟨hlive, -, -, -⟩ :=
    interruption_whole .builtin .empty (.upsert "a" "1") letGo (some 0)
  obtain ⟨-, hgiven, -, -⟩ := interruption_whole .builtin .empty (.upsert "a" "1") called none
  obtain ⟨-, hgivenRefused, hiff, -⟩ :=
    interruption_whole .builtin .empty (.policies (.remove .strategy "")) called none
  obtain ⟨-, -, -, hrace⟩ := interruption_whole .builtin .empty (.upsert "a" "1") letGo none
  have hfaulty : (Offer.policies (.remove .strategy "")).Faulty := rfl
  have hrefused := (hiff builtin_isRegistered).mpr hfaulty
  have hstored : ((onTable .builtin .empty).fulfil (.upsert "a" "1") none).1 = some (.ok 1) := by
    rw [fulfil, perform_onTable]
    rfl
  exact ⟨hlive rfl, (hgiven rfl).2.1 id, (hgivenRefused rfl).2.2 hrefused,
    hrace id nofun _ hstored⟩

end Service

end PolicyStore
