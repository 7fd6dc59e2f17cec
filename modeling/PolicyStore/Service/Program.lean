import PolicyStore.Interrupt
import PolicyStore.Policy.Snapshot
import PolicyStore.RecordStore.Request

/-!
# Programs over a record store

An operation on policies is a program that asks a record store and goes on with the answers. What a
program means is fixed by running it: against any store, which may take its time, and under a policy
for interruption. What a request did to the store before an interruption stays done.
-/

namespace PolicyStore

/-- A program that ends with a result or an error. -/
inductive Program (α : Type) where
  | done (result : Except PolicyError α)
  /-- Reports records that are left out, and goes on. -/
  | report (skipped : List Skipped) (next : Program α)
  | ask (request : Request) (next : Answer request → Program α)

namespace Program

/-- Asks for something; a failure of the store ends the program. -/
def request {α : Type} (request : Request) (next : request.Reply → Program α) : Program α :=
  .ask request fun
    | .ok reply => next reply
    | .error fault => .done (.error (.ofStoreError fault))

def pure {α : Type} (a : α) : Program α := .done (.ok a)

def mapResult {α β : Type} (f : Except PolicyError α → Except PolicyError β) :
    Program α → Program β
  | .done result => .done (f result)
  | .report skipped next => .report skipped (next.mapResult f)
  | .ask request next => .ask request fun answer => (next answer).mapResult f

structure Run (σ α : Type) where
  ending : Except Halt (Except PolicyError α)
  state : σ
  skipped : List Skipped

/-- The time after waiting, unless something else happens first. A wait of no time is over before
anything else can happen. -/
def wait (interrupt : Interrupt) (signal : Option Nat) (time : Nat) : Option Nat → Except Halt Nat
  | some 0 => .ok time
  | some duration => (interrupt.await signal (some (time + duration))).map fun () => time + duration
  | none => (interrupt.await signal none).map fun () => time

def run {σ α : Type} (store : RecordStore σ) (interrupt : Interrupt) (signal : Option Nat) :
    Program α → Nat → σ → Run σ α
  | .done result, _, state => ⟨.ok result, state, []⟩
  | .report skipped next, time, state =>
    let rest := next.run store interrupt signal time state
    { rest with skipped := skipped ++ rest.skipped }
  | .ask request next, time, state =>
    let exchange := store state request
    match wait interrupt signal time (some exchange.lead) with
    | .error halt => ⟨.error halt, state, []⟩
    | .ok time =>
      match wait interrupt signal time exchange.lag with
      | .error halt => ⟨.error halt, exchange.state, []⟩
      | .ok time => (next exchange.answer).run store interrupt signal time exchange.state

end Program

/-- An operation: it is refused outright, or it runs a program under a name that an interruption is
reported with. -/
inductive Operation (α : Type) where
  | refused (error : PolicyError)
  | guarded (name : String) (program : Program α)

structure Outcome (σ α : Type) where
  /-- The result; `none` when there never is one. -/
  result : Option (Except PolicyError α)
  state : σ
  skipped : List Skipped
  /-- The policy afterwards: the signal has been given if it stopped the operation. -/
  interrupt : Interrupt

namespace Operation

/-- An operation that comes after a check and is refused when the check fails. -/
def after {α β : Type} (check : Except PolicyError β) (next : β → Operation α) : Operation α :=
  match check with
  | .error error => .refused error
  | .ok b => next b

def map {α β : Type} (f : α → β) : Operation α → Operation β
  | .refused error => .refused error
  | .guarded name program => .guarded name (program.mapResult (Except.map f))

/-- Performs an operation. When the signal has been given before, the store is not asked at all. -/
def perform {σ α : Type} (operation : Operation α) (store : RecordStore σ) (interrupt : Interrupt)
    (signal : Option Nat) (state : σ) : Outcome σ α :=
  match operation with
  | .refused error => ⟨some (.error error), state, [], interrupt⟩
  | .guarded name program =>
    if interrupt.isGiven then
      ⟨some (.error (.interrupted name .cancelled)), state, [], interrupt⟩
    else
      let run := program.run store interrupt signal 0 state
      let result := match run.ending with
        | .ok result => some result
        | .error (.stopped reason) => some (.error (.interrupted name reason))
        | .error .never => none
      ⟨result, run.state, run.skipped, interrupt.afterWait run.ending⟩

end Operation

end PolicyStore
