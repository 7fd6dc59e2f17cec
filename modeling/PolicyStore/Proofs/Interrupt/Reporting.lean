import PolicyStore.Proofs.Interrupt.Racing
import PolicyStore.StoreError

/-!
# A run reports what came first

A run gives the result of the work as it is, or an error of its own with the label of the operation,
according to the event that came first. A signal that was given before keeps the work from being begun,
whenever the token was made and whatever became of the handle; a handle that is dropped without a signal
makes no difference.
-/

namespace PolicyStore

variable {ε α : Type}

/-- What a run gives, by what ended it: `none` when nothing did. -/
def Winner.answer (stopped : Interruption → ε) (result : Except ε α) :
    Winner → Option (Except ε α)
  | .signal => some (.error (stopped .cancelled))
  | .work => some result
  | .deadline limit => some (.error (stopped (.deadlineExceeded limit)))
  | .nothing => none

theorem Interrupt.run_eq_answer {interrupt : Interrupt} (h : interrupt.isGiven = false)
    (signal work : Option Nat) (stopped : Interruption → ε) (result : Except ε α) :
    (interrupt.run signal work stopped result).1 =
      (Event.earliest (interrupt.events signal work)).answer stopped result := by
  rw [Interrupt.run, h, Interrupt.await]
  cases Event.earliest (interrupt.events signal work) <;> rfl

namespace Course

/-- What a run gives. -/
def reply (course : Course) (times : List Nat) (stopped : Interruption → ε) (result : Except ε α) :
    Option (Except ε α) :=
  (course.run times).2.answer stopped result

/-- The same run under a policy without a token. -/
def withoutToken (course : Course) : Course := { course with token := none }

variable {course : Course} {times : List Nat}

/-- A run of some milliseconds gives what `Interrupt.run` says. -/
theorem reply_eq_run {signal work : Option Nat}
    (hsignal : course.given = signal.map fun millis => (Duration.ofMillis millis).nanos)
    (hwork : course.work = work.map fun millis => (Duration.ofMillis millis).nanos)
    (hprompt : course.Prompt times) (stopped : Interruption → ε) (result : Except ε α) :
    course.reply times stopped result = (course.interrupt.run signal work stopped result).1 := by
  cases hgiven : course.interrupt.isGiven with
  | true => rw [reply, (run_given hgiven times).1, Interrupt.run, if_pos hgiven, Winner.answer]
  | false =>
    have hevents : Race.events course.signal course.work course.deadline =
        course.interrupt.events signal work := by
      rw [Course.signal, hsignal, hwork]
      rfl
    rw [reply, run_eq_earliest hgiven hprompt, Interrupt.run_eq_answer hgiven, hevents]

/-- A run ends in the same way without a token when no signal comes. -/
theorem run_withoutToken (hgiven : course.interrupt.isGiven = false) (hsignal : course.signal = none)
    (hprompt : course.Prompt times) :
    (course.withoutToken.run times).2 = (course.run times).2 := by
  have hsame : course.withoutToken.Prompt times :=
    ⟨hprompt.start, hprompt.ordered, nofun, hprompt.work, hprompt.deadline⟩
  rw [run_eq_earliest hgiven hprompt, run_eq_earliest rfl hsame, hsignal]
  rfl

/-- What it takes for a run to be ended by the work, the deadline, the signal, or nothing. A signal that
comes at the same time as the completion of the work is left out. -/
structure Reports (course : Course) (ended : Winner) : Prop where
  work : ended = .work ↔ Precedes course.work course.signal ∧
    NotAfter course.work (course.deadline.map (·.nanos))
  deadline : ∀ limit, ended = .deadline limit ↔ course.deadline = some limit ∧
    Precedes (some limit.nanos) course.signal ∧ Precedes (some limit.nanos) course.work
  signal : (∀ time, course.signal = some time → course.work ≠ some time) →
    (ended = .signal ↔ Precedes course.signal course.work ∧
      NotAfter course.signal (course.deadline.map (·.nanos)))
  nothing : ended = .nothing ↔
    course.signal = none ∧ course.work = none ∧ course.deadline = none

theorem run_reports (hgiven : course.interrupt.isGiven = false) (hprompt : course.Prompt times) :
    course.Reports (course.run times).2 where
  work := by rw [run_eq_iff hgiven hprompt, Race.first_work_iff]
  deadline limit := by rw [run_eq_iff hgiven hprompt, Race.first_deadline_iff]
  signal hapart := by
    rw [run_eq_iff hgiven hprompt, Race.first_signal_iff]
    exact and_congr_left' ⟨fun h => h.precedes hapart, Precedes.notAfter⟩
  nothing := by rw [run_eq_iff hgiven hprompt, Race.first_nothing_iff]

end Course

/-- What runs give of an operation with a label, whose work has a result. An error of the run's own is
made of the label and the reason. -/
structure RunsToFirst (convert : String × Interruption → ε) (operation : String)
    (result : Except ε α) : Prop where
  /-- With a signal that was given before, a run is cancelled, and the work is not begun. -/
  before : ∀ (course : Course) times, course.interrupt.isGiven = true →
    course.reply times (convert ⟨operation, ·⟩) result =
        some (.error (convert (operation, .cancelled))) ∧
      (course.run times).1.begun = none
  /-- Otherwise a run that is looked at whenever something happens gives what came first. -/
  first : ∀ (course : Course) times, course.interrupt.isGiven = false → course.Prompt times →
    ∃ ended, course.Reports ended ∧
      course.reply times (convert ⟨operation, ·⟩) result = ended.answer (convert ⟨operation, ·⟩) result
  /-- When no signal comes, because the handle is dropped or for another reason, a token makes no
  difference. -/
  released : ∀ (course : Course) times, course.interrupt.isGiven = false → course.signal = none →
    course.Prompt times → course.reply times (convert ⟨operation, ·⟩) result =
      course.withoutToken.reply times (convert ⟨operation, ·⟩) result
  /-- A signal that is given through a handle stays given for all tokens there will be: they see it,
  waits for it are over, and runs are cancelled. -/
  permanent : ∀ early late, (Handle.new.after early).channel.held = true →
    ∀ seen ∈ (Handle.new.after (early ++ .give :: late)).tokens,
      (Handle.new.after (early ++ .give :: late)).channel.given = true ∧
      Wait.poll (Handle.new.after (early ++ .give :: late)).channel (.begun seen) = none ∧
      ∀ (course : Course) times, course.token = some seen →
        course.channel = (Handle.new.after (early ++ .give :: late)).channel →
          course.reply times (convert ⟨operation, ·⟩) result =
              some (.error (convert (operation, .cancelled))) ∧
            (course.run times).1.begun = none
  /-- An error is that of the work, or has the label. -/
  labelled : ∀ (course : Course) times error,
    course.reply times (convert ⟨operation, ·⟩) result = some (.error error) →
      result = .error error ∨ ∃ reason, error = convert (operation, reason)
  /-- All this is what `Interrupt.run` says about runs of some milliseconds. -/
  agrees : ∀ (course : Course) times signal work,
    course.given = signal.map (fun millis => (Duration.ofMillis millis).nanos) →
    course.work = work.map (fun millis => (Duration.ofMillis millis).nanos) →
    course.Prompt times → course.reply times (convert ⟨operation, ·⟩) result =
      (course.interrupt.run signal work (convert ⟨operation, ·⟩) result).1

theorem Course.reply_given {course : Course} (h : course.interrupt.isGiven = true)
    (times : List Nat) (stopped : Interruption → ε) (result : Except ε α) :
    course.reply times stopped result = some (.error (stopped .cancelled)) ∧
      (course.run times).1.begun = none := by
  obtain ⟨hended, hbegun⟩ := Course.run_given h times
  rw [Course.reply, hended]
  exact ⟨rfl, hbegun⟩

theorem Winner.answer_error {stopped : Interruption → ε} {result : Except ε α} {winner : Winner}
    {error : ε} (h : winner.answer stopped result = some (.error error)) :
    result = .error error ∨ ∃ reason, error = stopped reason := by
  cases winner with
  | signal => exact .inr ⟨_, (Except.error.inj (Option.some.inj h)).symm⟩
  | work => exact .inl (Option.some.inj h)
  | deadline limit => exact .inr ⟨_, (Except.error.inj (Option.some.inj h)).symm⟩
  | nothing => cases h

/-- A run reports the event that came first. -/
theorem runs_to_first (convert : String × Interruption → ε) (operation : String)
    (result : Except ε α) : RunsToFirst convert operation result where
  before course times hgiven := Course.reply_given hgiven times _ _
  first course times hgiven hprompt := ⟨_, Course.run_reports hgiven hprompt, rfl⟩
  released course times hgiven hsignal hprompt := by
    rw [Course.reply, Course.reply, Course.run_withoutToken hgiven hsignal hprompt]
  permanent early late hheld seen hseen := by
    have hgiven := Handle.given_of_give hheld late
    refine ⟨hgiven, Wait.poll_begun hgiven seen, fun course times htoken hchannel => ?_⟩
    refine Course.reply_given ?_ times _ _
    rw [Course.interrupt, htoken, hchannel]
    exact hgiven
  labelled course times error herror := Winner.answer_error herror
  agrees course times signal work hsignal hwork hprompt :=
    Course.reply_eq_run hsignal hwork hprompt _ _

/-- Work of ten milliseconds under a deadline of as many, with a token of a handle that gives the signal
after twenty and is dropped at the same time. -/
def contended : Course where
  channel := .fresh
  token := some 0
  deadline := some (.ofMillis 10)
  work := some 10000000
  given := some 20000000
  released := some 20000000
  ordered := by
    rintro give release ⟨⟩ ⟨⟩
    exact Nat.le_refl _

/-- Work that is complete at the deadline is not stopped by it. -/
theorem runs_to_first_contended :
    contended.reply [0, 5000000, 10000000, 20000000] (StoreError.interrupted "load") (.ok 7) =
      some (.ok 7) := by
  have hprompt : contended.Prompt [0, 5000000, 10000000, 20000000] := by
    refine ⟨rfl, by decide, ?_, ?_, ?_⟩
    · rintro time ⟨⟩
      decide
    · rintro time ⟨⟩
      decide
    · rintro limit ⟨⟩
      decide
  have hruns := runs_to_first (fun stopped => StoreError.interrupted stopped.1 stopped.2) "load"
    (.ok 7)
  obtain ⟨ended, hreports, hreply⟩ := hruns.first contended _ rfl hprompt
  have hended : ended = .work := by
    refine hreports.work.mpr ⟨⟨10000000, rfl, ?_⟩, ⟨10000000, rfl, ?_⟩⟩
    · rintro other ⟨⟩
      decide
    · rintro other ⟨⟩
      decide
  rw [hended] at hreply
  exact hreply

end PolicyStore
