import PolicyStore.Proofs.Interrupting

/-!
# Which event of a run comes first

Three events may end a run: the signal, the completion of the work, and the deadline. `First` says what
it takes for one of them to come first, and the earliest event is the one of which this holds.
-/

namespace PolicyStore

/-- A time that comes before another one, if that comes at all. -/
def Precedes (first second : Option Nat) : Prop :=
  ∃ time, first = some time ∧ ∀ other, second = some other → time < other

/-- A time that comes no later than another one, if that comes at all. -/
def NotAfter (first second : Option Nat) : Prop :=
  ∃ time, first = some time ∧ ∀ other, second = some other → time ≤ other

theorem precedes_some_iff {time : Nat} {second : Option Nat} :
    Precedes (some time) second ↔ ∀ other, second = some other → time < other := by
  simp [Precedes]

theorem notAfter_some_iff {time : Nat} {second : Option Nat} :
    NotAfter (some time) second ↔ ∀ other, second = some other → time ≤ other := by
  simp [NotAfter]

theorem notAfter_self (time : Nat) : NotAfter (some time) (some time) := ⟨time, rfl, by simp⟩

theorem Precedes.notAfter {first second : Option Nat} (h : Precedes first second) :
    NotAfter first second := by
  obtain ⟨time, hfirst, hbefore⟩ := h
  exact ⟨time, hfirst, fun other hother => Nat.le_of_lt (hbefore other hother)⟩

/-- Times that do not coincide come one before the other. -/
theorem NotAfter.precedes {first second : Option Nat} (h : NotAfter first second)
    (hapart : ∀ time, first = some time → second ≠ some time) : Precedes first second := by
  obtain ⟨time, hfirst, hbefore⟩ := h
  refine ⟨time, hfirst, fun other hother => Nat.lt_of_le_of_ne (hbefore other hother) ?_⟩
  rintro rfl
  exact hapart time hfirst hother

/-- A time that precedes another one is there while the other is not. -/
theorem Precedes.not_yet {time : Nat} {second : Option Nat} (h : Precedes (some time) second) :
    ¬second.any (· ≤ time) = true := by
  rw [Option.any_eq_true]
  rintro ⟨other, hother, hle⟩
  exact Nat.not_lt.mpr (of_decide_eq_true hle) (precedes_some_iff.mp h other hother)

namespace Race

/-- What may end a run: the signal, the work, and the deadline. -/
def events (signal work : Option Nat) (deadline : Option Duration) : List Event :=
  [⟨signal, .signal⟩, ⟨work, .work⟩] ++
    (deadline.map fun limit => Event.mk (some limit.nanos) (.deadline limit)).toList

variable {signal work : Option Nat} {deadline : Option Duration}

/-- Which event of a run comes first: at one time the signal goes before the work, and the work before
the deadline. -/
inductive First (signal work : Option Nat) (deadline : Option Duration) : Winner → Prop
  | signal (hwork : NotAfter signal work) (hdeadline : NotAfter signal (deadline.map (·.nanos))) :
    First signal work deadline .signal
  | work (hsignal : Precedes work signal) (hdeadline : NotAfter work (deadline.map (·.nanos))) :
    First signal work deadline .work
  | deadline (limit : Duration) (hlimit : deadline = some limit)
    (hsignal : Precedes (some limit.nanos) signal) (hwork : Precedes (some limit.nanos) work) :
    First signal work deadline (.deadline limit)
  | nothing (hsignal : signal = none) (hwork : work = none) (hdeadline : deadline = none) :
    First signal work deadline .nothing

theorem first_signal_iff : First signal work deadline .signal ↔
    NotAfter signal work ∧ NotAfter signal (deadline.map (·.nanos)) := by
  constructor
  · intro h
    cases h with
    | signal hwork hdeadline => exact ⟨hwork, hdeadline⟩
  · rintro ⟨hwork, hdeadline⟩
    exact .signal hwork hdeadline

theorem first_work_iff : First signal work deadline .work ↔
    Precedes work signal ∧ NotAfter work (deadline.map (·.nanos)) := by
  constructor
  · intro h
    cases h with
    | work hsignal hdeadline => exact ⟨hsignal, hdeadline⟩
  · rintro ⟨hsignal, hdeadline⟩
    exact .work hsignal hdeadline

theorem first_deadline_iff {limit : Duration} : First signal work deadline (.deadline limit) ↔
    deadline = some limit ∧ Precedes (some limit.nanos) signal ∧
      Precedes (some limit.nanos) work := by
  constructor
  · intro h
    cases h with
    | deadline _ hlimit hsignal hwork => exact ⟨hlimit, hsignal, hwork⟩
  · rintro ⟨hlimit, hsignal, hwork⟩
    exact .deadline limit hlimit hsignal hwork

theorem first_nothing_iff :
    First signal work deadline .nothing ↔ signal = none ∧ work = none ∧ deadline = none := by
  constructor
  · intro h
    cases h with
    | nothing hsignal hwork hdeadline => exact ⟨hsignal, hwork, hdeadline⟩
  · rintro ⟨hsignal, hwork, hdeadline⟩
    exact .nothing hsignal hwork hdeadline

/-- Of what may end a run, the signal is due first, then the work, then the deadline. -/
theorem due_events (time : Nat) : Event.due (events signal work deadline) time =
    if signal.any (· ≤ time) then some .signal
    else if work.any (· ≤ time) then some .work
    else deadline.bind fun limit => if limit.nanos ≤ time then some (.deadline limit) else none := by
  rw [Event.due, events, List.cons_append, List.cons_append, List.find?_cons, List.find?_cons,
    Event.isDue, Event.isDue]
  dsimp only
  cases signal.any (· ≤ time) with
  | true => rfl
  | false =>
    cases work.any (· ≤ time) with
    | true => rfl
    | false =>
      cases deadline with
      | none => rfl
      | some limit => by_cases hle : limit.nanos ≤ time <;> simp [Event.isDue, hle]

/-- When no event comes before a time, what is due then is the earliest. -/
theorem earliest_of_due {time : Nat} {winner : Winner} (hsignal : NotAfter (some time) signal)
    (hwork : NotAfter (some time) work) (hdeadline : NotAfter (some time) (deadline.map (·.nanos)))
    (h : Event.due (events signal work deadline) time = some winner) :
    Event.earliest (events signal work deadline) = winner := by
  refine Event.earliest_of_due (fun event hevent => ?_) h
  rcases List.mem_append.mp hevent with hbefore | hlast
  · rcases List.mem_cons.mp hbefore with rfl | hbefore
    · exact notAfter_some_iff.mp hsignal
    · obtain rfl := List.mem_singleton.mp hbefore
      exact notAfter_some_iff.mp hwork
  · obtain ⟨limit, rfl, rfl⟩ := Option.map_eq_some_iff.mp (Option.mem_toList.mp hlast)
    exact notAfter_some_iff.mp hdeadline

/-- What is due first at a time before which nothing happens comes first. -/
theorem First.of_due {time : Nat} {winner : Winner}
    (hnone : Event.NoneBefore (events signal work deadline) time)
    (h : Event.due (events signal work deadline) time = some winner) :
    First signal work deadline winner := by
  have hsignal := hnone ⟨signal, .signal⟩ (by simp [events])
  have hwork := hnone ⟨work, .work⟩ (by simp [events])
  have hdeadline : ∀ later, deadline.map (·.nanos) = some later → time ≤ later := by
    intro later hlater
    obtain ⟨limit, hlimit, rfl⟩ := Option.map_eq_some_iff.mp hlater
    exact hnone ⟨some limit.nanos, .deadline limit⟩ (by simp [events, hlimit]) _ rfl
  rw [due_events] at h
  split at h
  next hdue =>
    obtain rfl := Option.some.inj h
    have hnow := @Event.time_eq_of_isDue _ ⟨signal, .signal⟩ hdue hsignal
    exact .signal ⟨time, hnow, hwork⟩ ⟨time, hnow, hdeadline⟩
  next hsignalNot =>
    have hsignalLater : ∀ later, signal = some later → time < later := fun _ =>
      @Event.lt_of_not_isDue _ ⟨signal, .signal⟩ hsignalNot _
    split at h
    next hdue =>
      obtain rfl := Option.some.inj h
      have hnow := @Event.time_eq_of_isDue _ ⟨work, .work⟩ hdue hwork
      exact .work ⟨time, hnow, hsignalLater⟩ ⟨time, hnow, hdeadline⟩
    next hworkNot =>
      have hworkLater : ∀ later, work = some later → time < later := fun _ =>
        @Event.lt_of_not_isDue _ ⟨work, .work⟩ hworkNot _
      obtain ⟨limit, hlimit, hwins⟩ := Option.bind_eq_some_iff.mp h
      split at hwins
      next hle =>
        obtain rfl := Option.some.inj hwins
        have hnow : limit.nanos = time :=
          Nat.le_antisymm hle (hdeadline _ (by rw [hlimit]; rfl))
        exact .deadline limit hlimit ⟨time, congrArg some hnow, hsignalLater⟩
          ⟨time, congrArg some hnow, hworkLater⟩
      next => cases hwins

theorem first_earliest (signal work : Option Nat) (deadline : Option Duration) :
    First signal work deadline (Event.earliest (events signal work deadline)) := by
  rcases Event.earliest_due_or_never (events signal work deadline) with
    ⟨hnothing, hnever⟩ | ⟨time, hnone, hdue⟩
  · rw [hnothing]
    refine .nothing (hnever ⟨signal, .signal⟩ ?_) (hnever ⟨work, .work⟩ ?_) ?_
    · simp [events]
    · simp [events]
    · cases hdeadline : deadline with
      | none => rfl
      | some limit =>
        have hlimit := hnever ⟨some limit.nanos, .deadline limit⟩ (by simp [events, hdeadline])
        cases hlimit
  · exact .of_due hnone hdue

/-- Nothing else comes first. -/
theorem First.eq_earliest {winner : Winner} (h : First signal work deadline winner) :
    Event.earliest (events signal work deadline) = winner := by
  cases h with
  | signal hwork hdeadline =>
    obtain ⟨time, rfl, -⟩ := id hwork
    refine earliest_of_due (notAfter_self time) hwork hdeadline ?_
    rw [due_events, if_pos (by simp)]
  | work hsignal hdeadline =>
    obtain ⟨time, rfl, -⟩ := id hsignal
    refine earliest_of_due hsignal.notAfter (notAfter_self time) hdeadline ?_
    rw [due_events, if_neg hsignal.not_yet, if_pos (by simp)]
  | deadline limit hlimit hsignal hwork =>
    subst hlimit
    refine earliest_of_due hsignal.notAfter hwork.notAfter (notAfter_self limit.nanos) ?_
    rw [due_events, if_neg hsignal.not_yet, if_neg hwork.not_yet, Option.bind_some,
      if_pos (Nat.le_refl _)]
  | nothing hsignal hwork hdeadline =>
    subst hsignal hwork hdeadline
    rfl

theorem earliest_eq_iff {winner : Winner} :
    Event.earliest (events signal work deadline) = winner ↔ First signal work deadline winner :=
  ⟨fun h => h ▸ first_earliest signal work deadline, First.eq_earliest⟩

end Race

end PolicyStore
