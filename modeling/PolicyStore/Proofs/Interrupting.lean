import Mathlib.Data.Nat.Find
import PolicyStore.Interrupt

/-!
# What ends a wait

Of the events that may end a wait the earliest one does. Work that takes a time is completed or
stopped, and work that never completes is stopped or waited for without end.
-/

namespace PolicyStore

namespace Event

variable {first : Option (Nat × Winner)} {events : List Event}

theorem earlier_eq_none {event : Event} (h : earlier first event = none) :
    first = none ∧ event.time = none := by
  rw [earlier.eq_def] at h
  split at h
  next htime => exact ⟨h, htime⟩
  next => exact nomatch h
  next =>
    split at h
    · exact nomatch h
    · exact nomatch h

theorem earlier_eq_some {event : Event} {time : Nat} {winner : Winner}
    (h : earlier first event = some (time, winner)) :
    first = some (time, winner) ∨ event.time = some time ∧ event.winner = winner := by
  rw [earlier.eq_def] at h
  split at h
  next => exact .inl h
  next htime =>
    cases h
    exact .inr ⟨htime, rfl⟩
  next htime =>
    split at h
    · cases h
      exact .inr ⟨htime, rfl⟩
    · exact .inl h

theorem foldl_earlier_eq_none (h : events.foldl earlier first = none) :
    first = none ∧ ∀ event ∈ events, event.time = none := by
  induction events generalizing first with
  | nil => exact ⟨h, nofun⟩
  | cons event events ih =>
    obtain ⟨hfirst, hrest⟩ := ih h
    obtain ⟨hbefore, htime⟩ := earlier_eq_none hfirst
    exact ⟨hbefore, List.forall_mem_cons.mpr ⟨htime, hrest⟩⟩

theorem foldl_earlier_eq_some {time : Nat} {winner : Winner}
    (h : events.foldl earlier first = some (time, winner)) :
    first = some (time, winner) ∨
      ∃ event ∈ events, event.time = some time ∧ event.winner = winner := by
  induction events generalizing first with
  | nil => exact .inl h
  | cons event events ih =>
    rcases ih h with hfirst | ⟨later, hlater, hwins⟩
    · refine (earlier_eq_some hfirst).imp_right fun hwins => ?_
      exact ⟨event, List.mem_cons_self, hwins⟩
    · exact .inr ⟨later, List.mem_cons_of_mem event hlater, hwins⟩

/-- The earliest event is one of those that happen, unless none does. -/
theorem earliest_cases (events : List Event) :
    (earliest events = .nothing ∧ ∀ event ∈ events, event.time = none) ∨
      ∃ event ∈ events, event.time ≠ none ∧ earliest events = event.winner := by
  rw [earliest]
  cases hfold : events.foldl earlier none with
  | none => exact .inl ⟨rfl, (foldl_earlier_eq_none hfold).2⟩
  | some best =>
    obtain ⟨time, winner⟩ := best
    obtain ⟨event, hevent, htime, hwinner⟩ := (foldl_earlier_eq_some hfold).resolve_left nofun
    exact .inr ⟨event, hevent, by simp [htime], hwinner.symm⟩

/-! ## Events that are due -/

/-- The event has happened by a time. -/
def isDue (time : Nat) (event : Event) : Bool := event.time.any (· ≤ time)

/-- The first of the events that have happened by a time. -/
def due (events : List Event) (time : Nat) : Option Winner :=
  (events.find? (isDue time)).map Event.winner

/-- No event happens before a time. -/
def NoneBefore (events : List Event) (time : Nat) : Prop :=
  ∀ event ∈ events, ∀ later, event.time = some later → time ≤ later

variable {time : Nat} {winner : Winner}

theorem isDue_iff {event : Event} :
    event.isDue time = true ↔ ∃ earlier, event.time = some earlier ∧ earlier ≤ time := by
  rw [isDue, Option.any_eq_true]
  simp only [decide_eq_true_eq]

theorem lt_of_not_isDue {event : Event} (h : ¬event.isDue time = true) {later : Nat}
    (hlater : event.time = some later) : time < later :=
  Nat.lt_of_not_le fun hle => h (isDue_iff.mpr ⟨later, hlater, hle⟩)

/-- An event that is due and does not happen before happens now. -/
theorem time_eq_of_isDue {event : Event} (h : event.isDue time = true)
    (hnone : ∀ later, event.time = some later → time ≤ later) : event.time = some time := by
  obtain ⟨now, hnow, hle⟩ := isDue_iff.mp h
  rw [hnow, Nat.le_antisymm hle (hnone now hnow)]

theorem due_eq_none (h : due events time = none) : NoneBefore events (time + 1) := by
  intro event hevent later hlater
  have hnot := List.find?_eq_none.mp (Option.map_eq_none_iff.mp h) event hevent
  exact lt_of_not_isDue hnot hlater

/-- The best event so far stays the best when nothing happens before it. -/
theorem foldl_earlier_kept (h : NoneBefore events time) :
    events.foldl earlier (some (time, winner)) = some (time, winner) := by
  induction events with
  | nil => rfl
  | cons event events ih =>
    obtain ⟨hevent, hevents⟩ := List.forall_mem_cons.mp h
    have hkept : earlier (some (time, winner)) event = some (time, winner) := by
      obtain ⟨happens, other⟩ := event
      cases happens with
      | none => rfl
      | some later => exact if_neg (Nat.not_lt.mpr (hevent later rfl))
    rw [List.foldl_cons, hkept]
    exact ih hevents

theorem earlier_later {first : Option (Nat × Winner)} {event : Event}
    (hfirst : ∀ best, first = some best → time < best.1)
    (hevent : ∀ later, event.time = some later → time < later) :
    ∀ best, earlier first event = some best → time < best.1 := by
  rintro ⟨best, kept⟩ hbest
  rcases earlier_eq_some hbest with hsame | ⟨htime, -⟩
  · exact hfirst _ hsame
  · exact hevent best htime

theorem earlier_beats {first : Option (Nat × Winner)} {event : Event}
    (hfirst : ∀ best, first = some best → time < best.1) (hevent : event.time = some time) :
    earlier first event = some (time, event.winner) := by
  obtain ⟨happens, other⟩ := event
  obtain rfl : happens = some time := hevent
  cases first with
  | none => rfl
  | some best => exact if_pos (hfirst best rfl)

theorem foldl_earlier_due {first : Option (Nat × Winner)}
    (hfirst : ∀ best, first = some best → time < best.1) (hnone : NoneBefore events time)
    (h : due events time = some winner) : events.foldl earlier first = some (time, winner) := by
  induction events generalizing first with
  | nil => cases h
  | cons event events ih =>
    obtain ⟨hevent, hevents⟩ := List.forall_mem_cons.mp hnone
    rw [List.foldl_cons]
    by_cases hdue : event.isDue time = true
    · rw [due, List.find?_cons_of_pos hdue] at h
      obtain rfl := Option.some.inj h
      rw [earlier_beats hfirst (time_eq_of_isDue hdue hevent)]
      exact foldl_earlier_kept hevents
    · rw [due, List.find?_cons_of_neg hdue] at h
      exact ih (earlier_later hfirst fun _ => lt_of_not_isDue hdue) hevents h

/-- When nothing happens before a time, the first event that is due then is the earliest one. -/
theorem earliest_of_due (hnone : NoneBefore events time) (h : due events time = some winner) :
    earliest events = winner := by
  rw [earliest, foldl_earlier_due (by simp) hnone h]

theorem earliest_of_never (h : ∀ event ∈ events, event.time = none) :
    earliest events = .nothing := by
  rcases earliest_cases events with ⟨hnothing, -⟩ | ⟨event, hevent, htime, -⟩
  · exact hnothing
  · exact absurd (h event hevent) htime

/-- Either no event ever happens, or the earliest one is the first that is due at a time before which
nothing happens. -/
theorem earliest_due_or_never (events : List Event) :
    (earliest events = .nothing ∧ ∀ event ∈ events, event.time = none) ∨
      ∃ time, NoneBefore events time ∧ due events time = some (earliest events) := by
  by_cases hsome : ∃ time, due events time ≠ none
  · obtain ⟨winner, hdue⟩ := Option.ne_none_iff_exists'.mp (Nat.find_spec hsome)
    have hnone : NoneBefore events (Nat.find hsome) := by
      cases hfirst : Nat.find hsome with
      | zero => exact fun _ _ later _ => Nat.zero_le later
      | succ before =>
        have hbefore : before < Nat.find hsome := hfirst ▸ Nat.lt_succ_self before
        exact due_eq_none (Decidable.not_not.mp (Nat.find_min hsome hbefore))
    refine .inr ⟨Nat.find hsome, hnone, ?_⟩
    rw [earliest_of_due hnone hdue, hdue]
  · have hnever : ∀ event ∈ events, event.time = none := by
      intro event hevent
      cases htime : event.time with
      | none => rfl
      | some time =>
        have hdue : due events time = none := Decidable.not_not.mp fun h => hsome ⟨time, h⟩
        exact absurd (due_eq_none hdue event hevent time htime) (Nat.not_succ_le_self time)
    exact .inl ⟨earliest_of_never hnever, hnever⟩

end Event

namespace Interrupt

theorem mem_events {interrupt : Interrupt} {signal work : Option Nat} {event : Event}
    (h : event ∈ interrupt.events signal work) :
    event.winner = .signal ∨ (∃ limit, event.winner = .deadline limit) ∨
      event.winner = .work ∧ (event.time = none ↔ work = none) := by
  rcases List.mem_append.mp h with hbefore | hdeadline
  · rcases List.mem_cons.mp hbefore with rfl | hwork
    · exact .inl rfl
    · rw [List.mem_singleton.mp hwork]
      exact .inr (.inr ⟨rfl, Option.map_eq_none_iff⟩)
  · obtain ⟨limit, -, rfl⟩ := Option.map_eq_some_iff.mp (Option.mem_toList.mp hdeadline)
    exact .inr (.inl ⟨limit, rfl⟩)

/-- Work that takes a time is completed, or stopped. -/
theorem await_some (interrupt : Interrupt) (signal : Option Nat) (work : Nat) :
    interrupt.await signal (some work) = .ok () ∨
      ∃ reason, interrupt.await signal (some work) = .error (.stopped reason) := by
  rw [await]
  rcases Event.earliest_cases (interrupt.events signal (some work)) with
    ⟨-, hnever⟩ | ⟨event, hevent, -, hwinner⟩
  · have hwork := hnever ⟨some (Duration.ofMillis work).nanos, .work⟩ (by simp [events])
    exact nomatch hwork
  · rw [hwinner]
    rcases mem_events hevent with hsignal | ⟨limit, hdeadline⟩ | ⟨hwork, -⟩
    · exact .inr ⟨.cancelled, by rw [hsignal]⟩
    · exact .inr ⟨.deadlineExceeded limit, by rw [hdeadline]⟩
    · exact .inl (by rw [hwork])

/-- Work that never completes is stopped, or else waited for without end. -/
theorem await_none (interrupt : Interrupt) (signal : Option Nat) :
    interrupt.await signal none = .error .never ∨
      ∃ reason, interrupt.await signal none = .error (.stopped reason) := by
  rw [await]
  rcases Event.earliest_cases (interrupt.events signal none) with
    ⟨hnothing, -⟩ | ⟨event, hevent, htime, hwinner⟩
  · exact .inl (by rw [hnothing])
  · rw [hwinner]
    rcases mem_events hevent with hsignal | ⟨limit, hdeadline⟩ | ⟨-, hnone⟩
    · exact .inr ⟨.cancelled, by rw [hsignal]⟩
    · exact .inr ⟨.deadlineExceeded limit, by rw [hdeadline]⟩
    · exact absurd (hnone.mpr rfl) htime

end Interrupt

end PolicyStore
