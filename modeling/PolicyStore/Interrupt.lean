import PolicyStore.Interruption

/-!
# Interrupting operations

An operation may be given a signal, by which its caller can stop it, and a deadline. Of the events
that end an operation the earliest counts: the signal, the completion of the work, the deadline, in
this order when they coincide. Times are in milliseconds from the start of the operation.
-/

namespace PolicyStore

/-- A signal to stop. Once given it stays; it cannot be given when nobody holds it any more. -/
structure Signal where
  given : Bool
  held : Bool
  deriving DecidableEq, Repr

namespace Signal

def fresh : Signal := ⟨false, true⟩

def give (signal : Signal) : Signal := { signal with given := signal.given || signal.held }

def release (signal : Signal) : Signal := { signal with held := false }

end Signal

structure Interrupt where
  signal : Option Signal
  deadline : Option Duration
  deriving DecidableEq, Repr

inductive Winner
  | signal
  | work
  | deadline (limit : Duration)
  | nothing
  deriving DecidableEq, Repr

/-- An event that may happen at a time in nanoseconds. -/
structure Event where
  time : Option Nat
  winner : Winner
  deriving DecidableEq, Repr

/-- The earlier of an event that happens and another one; the former when they coincide. -/
def Event.earlier (first : Option (Nat × Winner)) (event : Event) : Option (Nat × Winner) :=
  match event.time, first with
  | none, first => first
  | some time, none => some (time, event.winner)
  | some time, some (best, winner) =>
    if time < best then some (time, event.winner) else some (best, winner)

/-- The earliest of several events, the first of them when they coincide. -/
def Event.earliest (events : List Event) : Winner :=
  match events.foldl Event.earlier none with
  | none => .nothing
  | some (_, winner) => winner

inductive Halt
  | stopped (reason : Interruption)
  | never
  deriving DecidableEq, Repr

namespace Interrupt

def unbounded : Interrupt := ⟨none, none⟩

def isGiven (interrupt : Interrupt) : Bool := interrupt.signal.any Signal.given

def give (interrupt : Interrupt) : Interrupt :=
  { interrupt with signal := interrupt.signal.map Signal.give }

def release (interrupt : Interrupt) : Interrupt :=
  { interrupt with signal := interrupt.signal.map Signal.release }

/-- The events of an operation whose signal would be given at `signal` and whose work would be
complete at `work`. -/
def events (interrupt : Interrupt) (signal work : Option Nat) : List Event :=
  let nanos (millis : Nat) : Nat := (Duration.ofMillis millis).nanos
  [⟨if interrupt.signal.any Signal.held then signal.map nanos else none, .signal⟩,
    ⟨work.map nanos, .work⟩] ++
    (interrupt.deadline.map fun limit => Event.mk (some limit.nanos) (.deadline limit)).toList

/-- Waits until the work is complete, unless something else happens first. -/
def await (interrupt : Interrupt) (signal work : Option Nat) : Except Halt Unit :=
  match Event.earliest (interrupt.events signal work) with
  | .work => .ok ()
  | .signal => .error (.stopped .cancelled)
  | .deadline limit => .error (.stopped (.deadlineExceeded limit))
  | .nothing => .error .never

/-- The policy after waiting: the signal has been given if it ended the wait. -/
def afterWait {α : Type} (interrupt : Interrupt) : Except Halt α → Interrupt
  | .error (.stopped .cancelled) => interrupt.give
  | _ => interrupt

/-- Runs work that takes the given time; gives its result, or `none` when there never is one, and
the policy afterwards. Work is not begun when the signal has been given before. -/
def run {ε α : Type} (interrupt : Interrupt) (signal work : Option Nat)
    (stopped : Interruption → ε) (result : Except ε α) : Option (Except ε α) × Interrupt :=
  if interrupt.isGiven then (some (.error (stopped .cancelled)), interrupt)
  else
    let wait := interrupt.await signal work
    (match wait with
      | .ok () => some result
      | .error (.stopped reason) => some (.error (stopped reason))
      | .error .never => none,
    interrupt.afterWait wait)

end Interrupt

end PolicyStore
