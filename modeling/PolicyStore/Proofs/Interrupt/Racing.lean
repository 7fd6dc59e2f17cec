import PolicyStore.Proofs.Interrupt.Earliest
import PolicyStore.Proofs.Interrupt.Watching

/-!
# The race that ends a run

Running work under a policy is a race of three waits: for the signal, for the work, and for the
deadline. The race is looked at from time to time, each time in this order, and the first wait that is
over ends it. When it is looked at whenever something happens, the event that comes first ends it, just
as `Interrupt.run` says; when else it is looked at does not matter.

Times are in nanoseconds from the start of the run.
-/

namespace PolicyStore

/-- A run of work under a policy, and what happens meanwhile. -/
structure Course where
  /-- The channel of the policy's signal as it is when the run starts. -/
  channel : Channel
  /-- What the policy's token has seen of the channel, if the policy has a token. -/
  token : Option Nat
  deadline : Option Duration
  /-- How long the work takes; `none` when it never completes. -/
  work : Option Nat
  /-- When the signal is given through the handle, if ever. -/
  given : Option Nat
  /-- When the handle is dropped, if ever. -/
  released : Option Nat
  /-- Nothing is given through a handle that has been dropped. -/
  ordered : ∀ give release, given = some give → released = some release → give ≤ release

/-- How far a run has come. -/
structure Race where
  wait : Wait
  /-- When the work was begun, if it was. -/
  begun : Option Nat

namespace Course

/-- The channel of the policy's signal at a time of the run. -/
def channelAt (course : Course) (time : Nat) : Channel :=
  let channel :=
    if course.given.any (· ≤ time) then course.channel.give else course.channel
  if course.released.any (· ≤ time) then channel.release else channel

/-- Looks at work under a deadline: at the work before the clock. -/
def bounded (course : Course) (begun time : Nat) : Option Winner :=
  if course.work.any (begun + · ≤ time) then some .work
  else course.deadline.bind fun limit =>
    if begun + limit.nanos ≤ time then some (.deadline limit) else none

/-- Looks at the race: at the signal before the work, which is begun when it is first looked at. -/
def poll (course : Course) (race : Race) (time : Nat) : Race × Option Winner :=
  match race.wait.poll (course.channelAt time) with
  | none => (race, some .signal)
  | some wait =>
    let begun := race.begun.getD time
    (⟨wait, some begun⟩, course.bounded begun time)

/-- Looks at the race at one time after the other, until something ends it. -/
def pollAll (course : Course) (race : Race) : List Nat → Race × Winner
  | [] => (race, .nothing)
  | time :: times =>
    match course.poll race time with
    | (race, some winner) => (race, winner)
    | (race, none) => course.pollAll race times

/-- The race before it has been looked at; without a token there is no signal to wait for. -/
def start (course : Course) : Race :=
  ⟨match course.token with
    | some seen => .begun seen
    | none => .parked,
  none⟩

/-- The policy that the work is run under. -/
def interrupt (course : Course) : Interrupt :=
  ⟨course.token.map fun _ => course.channel.signal, course.deadline⟩

/-- Runs the work, looking at the race at the given times. It does not come to a race when the signal has
been given before. -/
def run (course : Course) (times : List Nat) : Race × Winner :=
  if course.interrupt.isGiven then (course.start, .signal) else course.pollAll course.start times

/-- When the signal reaches the run: it takes a handle to give it, and a token to see it. -/
def signal (course : Course) : Option Nat :=
  if course.interrupt.signal.any Signal.held then course.given else none

/-! ## The wait for the signal -/

variable {course : Course} {time : Nat}

/-- A wait that does not miss the signal of a run. -/
def Awaits (course : Course) : Wait → Prop
  | .begun _ => course.token.isSome = true
  | .watching seen => course.token.isSome = true ∧ seen = course.channel.version
  | .parked => course.signal = none

theorem awaits_start (course : Course) : course.Awaits course.start.wait := by
  rw [start]
  cases htoken : course.token with
  | none => simp [Awaits, signal, interrupt, htoken]
  | some seen => simp [Awaits, htoken]

theorem signal_of_token (h : course.token.isSome = true) :
    course.signal = if course.channel.held then course.given else none := by
  obtain ⟨seen, hseen⟩ := Option.isSome_iff_exists.mp h
  simp [signal, interrupt, hseen, Channel.signal]

theorem given_of_token (h : course.token.isSome = true) (hgiven : course.interrupt.isGiven = false) :
    course.channel.given = false := by
  obtain ⟨seen, hseen⟩ := Option.isSome_iff_exists.mp h
  simpa [interrupt, Interrupt.isGiven, hseen, Channel.signal] using hgiven

/-- When the signal has come, it has been given, and the channel has a version that was not there
before. -/
theorem channelAt_due (h : course.token.isSome = true) (hdue : course.signal.any (· ≤ time) = true) :
    (course.channelAt time).given = true ∧
      (course.channelAt time).version = course.channel.version + 1 := by
  rw [signal_of_token h] at hdue
  split at hdue
  next hheld =>
    rw [channelAt, hdue]
    split <;> simp [Channel.give_given, Channel.give_version hheld, hheld]
  next => cases hdue

/-- Until the signal comes, the channel has not changed. -/
theorem channelAt_not_due (h : course.token.isSome = true)
    (hdue : ¬course.signal.any (· ≤ time) = true) :
    (course.channelAt time).given = course.channel.given ∧
      (course.channelAt time).version = course.channel.version := by
  rw [signal_of_token h] at hdue
  have hsame : (if course.given.any (· ≤ time) then course.channel.give else course.channel) =
      course.channel := by
    split
    next hgiven =>
      rw [Channel.give, if_neg]
      intro hheld
      rw [if_pos hheld] at hdue
      exact hdue hgiven
    next => rfl
  rw [channelAt, hsame]
  split <;> exact ⟨rfl, rfl⟩

theorem channelAt_held : (course.channelAt time).held =
    (course.channel.held && !course.released.any (· ≤ time)) := by
  have hgive : (if course.given.any (· ≤ time) then course.channel.give else course.channel).held =
      course.channel.held := by
    split
    next => exact course.channel.give_held
    next => rfl
  rw [channelAt]
  split
  next hreleased => simp [hreleased]
  next hreleased => simp [hgive, hreleased]

/-- Once the handle is dropped, a signal that has not come does not come any more. -/
theorem signal_of_not_held (h : course.token.isSome = true)
    (hdue : ¬course.signal.any (· ≤ time) = true)
    (hheld : (course.channelAt time).held = false) : course.signal = none := by
  rw [signal_of_token h] at hdue ⊢
  rw [channelAt_held] at hheld
  split at hdue
  next hthere =>
    rw [hthere, Bool.true_and, Bool.not_eq_eq_eq_not, Bool.not_false, Option.any_eq_true] at hheld
    obtain ⟨release, hrelease, hle⟩ := hheld
    rw [if_pos hthere]
    cases hgive : course.given with
    | none => rfl
    | some give =>
      have hgiveLe := course.ordered give release hgive hrelease
      refine absurd ?_ hdue
      rw [hgive]
      exact decide_eq_true (Nat.le_trans hgiveLe (of_decide_eq_true hle))
  next hthere => exact if_neg hthere

theorem awaits_look (h : course.token.isSome = true)
    (hgiven : course.channel.given = false) (hdue : ¬course.signal.any (· ≤ time) = true) :
    ∃ wait, Wait.look (course.channelAt time) = some wait ∧ course.Awaits wait := by
  obtain ⟨hgivenAt, hversion⟩ := channelAt_not_due h hdue
  rw [Wait.look, hgivenAt, hgiven]
  cases hheld : (course.channelAt time).held with
  | true => exact ⟨_, rfl, h, hversion⟩
  | false => exact ⟨_, rfl, signal_of_not_held h hdue hheld⟩

/-- Until the signal comes, the wait goes on and does not miss it. -/
theorem poll_wait_not_due (hgiven : course.interrupt.isGiven = false) {wait : Wait}
    (hwait : course.Awaits wait) (hdue : ¬course.signal.any (· ≤ time) = true) :
    ∃ after, wait.poll (course.channelAt time) = some after ∧ course.Awaits after := by
  cases wait with
  | parked => exact ⟨.parked, rfl, hwait⟩
  | begun seen => exact awaits_look hwait (given_of_token hwait hgiven) hdue
  | watching seen =>
    obtain ⟨htoken, rfl⟩ := hwait
    obtain ⟨-, hversion⟩ := channelAt_not_due htoken hdue
    rw [Wait.poll, if_neg (not_not.mpr hversion)]
    cases hheld : (course.channelAt time).held with
    | true => exact ⟨_, rfl, htoken, rfl⟩
    | false => exact ⟨_, rfl, signal_of_not_held htoken hdue hheld⟩

/-- When the signal has come, the wait is over. -/
theorem poll_wait_due {wait : Wait} (hwait : course.Awaits wait)
    (hdue : course.signal.any (· ≤ time) = true) : wait.poll (course.channelAt time) = none := by
  cases wait with
  | parked =>
    rw [Awaits] at hwait
    rw [hwait] at hdue
    cases hdue
  | begun seen => exact Wait.look_given (channelAt_due hwait hdue).1
  | watching seen =>
    obtain ⟨htoken, rfl⟩ := hwait
    obtain ⟨hgiven, hversion⟩ := channelAt_due htoken hdue
    have hother : (course.channelAt time).version ≠ course.channel.version := by
      rw [hversion]
      exact Nat.succ_ne_self _
    rw [Wait.poll, if_pos hother]
    exact Wait.look_given hgiven

/-! ## The race -/

/-- A race under way that does not miss the signal, and whose work is begun at the start of the run. -/
structure UnderWay (course : Course) (race : Race) (times : List Nat) : Prop where
  awaits : course.Awaits race.wait
  begun : race.begun = some 0 ∨ race.begun = none ∧ times.head? = some 0

theorem UnderWay.begun_eq {race : Race} {times : List Nat}
    (h : course.UnderWay race (time :: times)) : race.begun.getD time = 0 := by
  rcases h.begun with hbegun | ⟨hbegun, hfirst⟩
  · rw [hbegun]
    rfl
  · rw [hbegun]
    exact Option.some.inj hfirst

/-- A look at the race tells which event is due first; when none is, the race goes on. -/
theorem poll_eq_due (hgiven : course.interrupt.isGiven = false) {race : Race} {times : List Nat}
    (h : course.UnderWay race (time :: times)) :
    (course.poll race time).2 =
        Event.due (Race.events course.signal course.work course.deadline) time ∧
      ((course.poll race time).2 = none → course.UnderWay (course.poll race time).1 times) := by
  rw [poll, Race.due_events]
  by_cases hdue : course.signal.any (· ≤ time) = true
  · rw [poll_wait_due h.awaits hdue, if_pos hdue]
    exact ⟨rfl, nofun⟩
  · obtain ⟨after, hafter, hawaits⟩ := poll_wait_not_due hgiven h.awaits hdue
    rw [hafter, if_neg hdue, h.begun_eq]
    refine ⟨?_, fun _ => ⟨hawaits, .inl rfl⟩⟩
    simp only [bounded, Nat.zero_add]

/-- Looking at a race whenever something happens finds the earliest event. -/
theorem pollAll_eq_earliest (hgiven : course.interrupt.isGiven = false) {race : Race}
    {times : List Nat} (h : course.UnderWay race times) (hordered : times.Pairwise (· ≤ ·))
    (hahead : ∀ event ∈ Race.events course.signal course.work course.deadline,
      ∀ time, event.time = some time → time ∈ times) :
    (course.pollAll race times).2 =
      Event.earliest (Race.events course.signal course.work course.deadline) := by
  induction times generalizing race with
  | nil =>
    refine (Event.earliest_of_never fun event hevent => ?_).symm
    cases htime : event.time with
    | none => rfl
    | some time => cases hahead event hevent time htime
  | cons time times ih =>
    obtain ⟨hlater, hrest⟩ := List.pairwise_cons.mp hordered
    obtain ⟨hpoll, hunderWay⟩ := poll_eq_due hgiven h
    rw [pollAll]
    cases hlook : course.poll race time with
    | mk after ended =>
      rw [hlook] at hpoll hunderWay
      cases ended with
      | some winner =>
        refine (Event.earliest_of_due (fun event hevent later htime => ?_) hpoll.symm).symm
        rcases List.mem_cons.mp (hahead event hevent later htime) with rfl | hmem
        · exact Nat.le_refl later
        · exact hlater later hmem
      | none =>
        refine ih (hunderWay rfl) hrest fun event hevent later htime => ?_
        have hlt := Event.due_eq_none hpoll.symm event hevent later htime
        exact (List.mem_cons.mp (hahead event hevent later htime)).resolve_left (Nat.ne_of_gt hlt)

/-- Times in order at which a run is looked at: at its start and whenever something happens. -/
structure Prompt (course : Course) (times : List Nat) : Prop where
  start : times.head? = some 0
  ordered : times.Pairwise (· ≤ ·)
  signal : ∀ time, course.signal = some time → time ∈ times
  work : ∀ time, course.work = some time → time ∈ times
  deadline : ∀ limit, course.deadline = some limit → limit.nanos ∈ times

theorem Prompt.ahead {times : List Nat} (h : course.Prompt times) :
    ∀ event ∈ Race.events course.signal course.work course.deadline,
      ∀ time, event.time = some time → time ∈ times := by
  intro event hevent time htime
  rcases List.mem_append.mp hevent with hbefore | hlast
  · rcases List.mem_cons.mp hbefore with rfl | hbefore
    · exact h.signal time htime
    · obtain rfl := List.mem_singleton.mp hbefore
      exact h.work time htime
  · obtain ⟨limit, hlimit, rfl⟩ := Option.map_eq_some_iff.mp (Option.mem_toList.mp hlast)
    obtain rfl := Option.some.inj htime
    exact h.deadline limit hlimit

/-- A run is ended by the earliest event. -/
theorem run_eq_earliest (hgiven : course.interrupt.isGiven = false) {times : List Nat}
    (h : course.Prompt times) : (course.run times).2 =
      Event.earliest (Race.events course.signal course.work course.deadline) := by
  rw [run, hgiven]
  exact pollAll_eq_earliest hgiven ⟨awaits_start course, .inr ⟨rfl, h.start⟩⟩ h.ordered h.ahead

/-- A run is ended by the event that comes first. -/
theorem run_eq_iff (hgiven : course.interrupt.isGiven = false) {times : List Nat}
    (h : course.Prompt times) {winner : Winner} : (course.run times).2 = winner ↔
      Race.First course.signal course.work course.deadline winner := by
  rw [run_eq_earliest hgiven h, Race.earliest_eq_iff]

/-- When the signal has been given before, the run is ended by it, and the work is not begun. -/
theorem run_given (h : course.interrupt.isGiven = true) (times : List Nat) :
    (course.run times).2 = .signal ∧ (course.run times).1.begun = none := by
  rw [run, if_pos h]
  exact ⟨rfl, rfl⟩

end Course

end PolicyStore
