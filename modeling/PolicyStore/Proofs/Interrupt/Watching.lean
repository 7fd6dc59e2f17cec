import PolicyStore.Interrupt

/-!
# Watching a signal

A signal is given through its handle, and who may be stopped by it has a token. A token remembers which
version of the signal it saw last. To wait for the signal is to look, to wait for another version, and
to look again; without a handle no other version can come, and the wait is parked.

All that matters in the end is whether the signal has been given and whether its handle is still there.
What is proved here is that tokens and waits see the first of these, whenever they were made.
-/

namespace PolicyStore

/-- What a handle and its tokens share. -/
structure Channel where
  given : Bool
  /-- How often the signal has been given. -/
  version : Nat
  /-- Whether the handle is still there. -/
  held : Bool

namespace Channel

/-- The channel of a new handle. -/
def fresh : Channel := ⟨false, 0, true⟩

/-- Gives the signal, which takes the handle. -/
def give (channel : Channel) : Channel :=
  if channel.held then ⟨true, channel.version + 1, true⟩ else channel

/-- Drops the handle. -/
def release (channel : Channel) : Channel := { channel with held := false }

/-- The signal that is watched over a channel. -/
def signal (channel : Channel) : Signal := ⟨channel.given, channel.held⟩

variable (channel : Channel)

theorem signal_give : channel.give.signal = channel.signal.give := by
  obtain ⟨given, version, held⟩ := channel
  cases held <;> simp [give, signal, Signal.give]

theorem signal_release : channel.release.signal = channel.signal.release := rfl

@[simp] theorem release_given : channel.release.given = channel.given := rfl

@[simp] theorem release_version : channel.release.version = channel.version := rfl

@[simp] theorem release_held : channel.release.held = false := rfl

theorem give_given : channel.give.given = (channel.given || channel.held) :=
  congrArg Signal.given channel.signal_give

@[simp] theorem give_held : channel.give.held = channel.held :=
  congrArg Signal.held channel.signal_give

variable {channel}

theorem give_version (h : channel.held = true) : channel.give.version = channel.version + 1 := by
  rw [give, if_pos h]

end Channel

/-! ## Handles and tokens -/

/-- What may be done with a handle and its tokens. -/
inductive Handling
  | give
  | release
  /-- The handle issues a token. -/
  | issue
  /-- A token, counted from the oldest one, is copied. -/
  | copy (token : Nat)

/-- A handle, or what is left of it, with the tokens there are: for each the version that it saw last,
the oldest token first. -/
structure Handle where
  channel : Channel
  tokens : List Nat

namespace Handle

/-- A new handle. -/
def new : Handle := ⟨.fresh, []⟩

/-- A handle after one thing is done with it. -/
def act (handle : Handle) : Handling → Handle
  | .give => { handle with channel := handle.channel.give }
  | .release => { handle with channel := handle.channel.release }
  | .issue =>
    if handle.channel.held then
      { handle with tokens := handle.tokens ++ [handle.channel.version] }
    else handle
  | .copy token => { handle with tokens := handle.tokens ++ handle.tokens[token]?.toList }

/-- A handle after several things are done with it. -/
def after (handle : Handle) (acts : List Handling) : Handle := acts.foldl act handle

/-- What happens to the signal when something is done with its handle. -/
def signalAfter (signal : Signal) : Handling → Signal
  | .give => signal.give
  | .release => signal.release
  | .issue | .copy _ => signal

theorem signal_act (handle : Handle) (handling : Handling) :
    (handle.act handling).channel.signal = signalAfter handle.channel.signal handling := by
  cases handling with
  | give => exact handle.channel.signal_give
  | release => exact handle.channel.signal_release
  | issue =>
    rw [act]
    split <;> rfl
  | copy token => rfl

/-- Once given, a signal stays given. -/
theorem given_act {handle : Handle} (h : handle.channel.given = true) (handling : Handling) :
    (handle.act handling).channel.given = true := by
  have hsignal := congrArg Signal.given (handle.signal_act handling)
  refine hsignal.trans ?_
  cases handling with
  | give => simp [signalAfter, Signal.give, Channel.signal, h]
  | release => exact h
  | issue => exact h
  | copy token => exact h

theorem given_after {handle : Handle} (h : handle.channel.given = true) (acts : List Handling) :
    (handle.after acts).channel.given = true := by
  induction acts generalizing handle with
  | nil => exact h
  | cons handling acts ih => exact ih (given_act h handling)

/-- A handle gives its signal for good. -/
theorem given_of_give {early : List Handling} (h : (new.after early).channel.held = true)
    (late : List Handling) : (new.after (early ++ .give :: late)).channel.given = true := by
  have hgiven : ((new.after early).act .give).channel.given = true := by
    rw [act, Channel.give_given, h, Bool.or_true]
  rw [after, List.foldl_append]
  exact given_after hgiven late

end Handle

/-! ## Waiting -/

/-- How far a wait for a signal has come. -/
inductive Wait
  /-- It has a copy of a token, and has not looked yet. -/
  | begun (seen : Nat)
  /-- It waits for another version than the one it saw. -/
  | watching (seen : Nat)
  /-- It never ends. -/
  | parked

namespace Wait

/-- Looks at the signal: how to wait for another version, or `none` when the signal has been given. -/
def look (channel : Channel) : Option Wait :=
  if channel.given then none
  else if channel.held then some (.watching channel.version)
  else some .parked

/-- Goes on waiting; `none` when the wait is over. -/
def poll (channel : Channel) : Wait → Option Wait
  | .begun _ => look channel
  | .watching seen =>
    if channel.version ≠ seen then look channel
    else if channel.held then some (.watching seen)
    else some .parked
  | .parked => some .parked

theorem look_given {channel : Channel} (h : channel.given = true) : look channel = none := by
  rw [look, if_pos h]

/-- A wait that begins when the signal has been given is over at once. -/
theorem poll_begun {channel : Channel} (h : channel.given = true) (seen : Nat) :
    poll channel (.begun seen) = none :=
  look_given h

end Wait

end PolicyStore
