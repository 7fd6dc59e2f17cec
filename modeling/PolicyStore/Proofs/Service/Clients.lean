import Mathlib.Algebra.BigOperators.Group.Finset.Piecewise
import PolicyStore.Proofs.Service.Sparing

/-!
# Clients that take turns

Several clients work on one table, each through its own list of errands. They take turns in any
order: a turn is one request of a client, which the table answers before anybody else has a turn,
together with what the client does by itself up to its next request.

No errand is lost or made up: what a client is through with, what is under way and what is still to be
done are together what it was given. A client that has two turns for each of its errands is through
with all of them, whatever turns the others have in between.

A client that is alone with the table comes to what the operation of its errand comes to on it, which
is what a service gives that performs it.
-/

namespace PolicyStore

/-! ## Programs request by request -/

variable {α β : Type} {name : String}

namespace Program

/-- A program from its next request on, or from its end. -/
def ahead : Program α → Program α
  | .report _ next => next.ahead
  | program => program

/-- The rest of a program after its next request, and the table after it. -/
def turn (program : Program α) (memory : Memory) : Program α × Memory :=
  match program.ahead with
  | .ask request next => ((next (memory.answer request).1).ahead, (memory.answer request).2)
  | program => (program, memory)

theorem eval_ahead (program : Program α) (memory : Memory) :
    (program.ahead.eval memory).result = (program.eval memory).result ∧
      (program.ahead.eval memory).memory = (program.eval memory).memory := by
  induction program with
  | done result => exact ⟨rfl, rfl⟩
  | report skipped next ih => exact ih
  | ask request next ih => exact ⟨rfl, rfl⟩

theorem ahead_ne_report (program : Program α) (skipped : List Skipped) (next : Program α) :
    program.ahead ≠ .report skipped next := by
  induction program with
  | done result => nofun
  | report skipped next ih => exact ih
  | ask request next ih => nofun

theorem ahead_ahead (program : Program α) : program.ahead.ahead = program.ahead := by
  cases h : program.ahead with
  | done result => rfl
  | report skipped next => exact absurd h (ahead_ne_report program skipped next)
  | ask request next => rfl

theorem turn_ahead (program : Program α) (memory : Memory) :
    program.ahead.turn memory = program.turn memory := by
  rw [turn, turn, ahead_ahead]

theorem turn_request (request : Request) (memory : Memory) :
    (Program.request request .pure).turn memory =
      (.done ((memory.answer request).1.mapError .ofStoreError), (memory.answer request).2) := by
  change (Program.ahead _, (memory.answer request).2) = _
  cases (memory.answer request).1 <;> rfl

end Program

/-! ## How much programs ask -/

/-- A program makes at most so many requests, whatever it is answered. -/
def Program.AsksAtMost : Nat → Program α → Prop
  | _, .done _ => True
  | bound, .report _ next => AsksAtMost bound next
  | 0, .ask _ _ => False
  | bound + 1, .ask _ next => ∀ answer, AsksAtMost bound (next answer)

/-- An operation makes at most so many requests. -/
def Operation.AsksAtMost (bound : Nat) : Operation α → Prop
  | .refused _ => True
  | .guarded _ program => program.AsksAtMost bound

section AsksAtMost

variable {bound : Nat}

theorem Program.asksAtMost_done (bound : Nat) (result : Except PolicyError α) :
    (Program.done result).AsksAtMost bound := by
  cases bound <;> trivial

theorem Program.asksAtMost_report {skipped : List Skipped} {next : Program α}
    (h : next.AsksAtMost bound) : (Program.report skipped next).AsksAtMost bound := by
  cases bound <;> exact h

theorem Program.asksAtMost_request (request : Request) {next : request.Reply → Program α}
    (h : ∀ reply, (next reply).AsksAtMost bound) :
    (Program.request request next).AsksAtMost (bound + 1) := by
  intro answer
  cases answer with
  | ok reply => exact h reply
  | error fault => exact asksAtMost_done bound _

theorem Operation.asksAtMost_after {check : Except PolicyError β} {next : β → Operation α}
    (h : ∀ b, (next b).AsksAtMost bound) : (Operation.after check next).AsksAtMost bound := by
  cases check with
  | error error => trivial
  | ok b => exact h b

theorem Service.asksAtMost_withSnapshot (registry : Registry) {domain : Domain}
    {next : Snapshot domain → Program α} (h : ∀ snapshot, (next snapshot).AsksAtMost bound) :
    (withSnapshot registry domain next).AsksAtMost (bound + 1) := by
  rw [withSnapshot]
  split
  · trivial
  · exact Program.asksAtMost_request (.loadByPrefix _) fun _ => Program.asksAtMost_report (h _)

theorem Program.AsksAtMost.ahead {program : Program α} (h : program.AsksAtMost bound) :
    program.ahead.AsksAtMost bound := by
  induction program with
  | done result => exact h
  | report skipped next ih => cases bound <;> exact ih h
  | ask request next ih => exact h

theorem Program.AsksAtMost.ahead_done {program : Program α} (h : program.AsksAtMost 0) :
    ∃ result, program.ahead = .done result := by
  induction program with
  | done result => exact ⟨result, rfl⟩
  | report skipped next ih => exact ih h
  | ask request next ih => exact h.elim

/-- A turn is one of the requests. -/
theorem Program.AsksAtMost.turn {program : Program α} (h : program.AsksAtMost (bound + 1))
    (memory : Memory) : (program.turn memory).1.AsksAtMost bound := by
  have hahead := h.ahead
  rw [Program.turn]
  cases hprogram : program.ahead with
  | done result => exact asksAtMost_done bound result
  | report skipped next => exact absurd hprogram (ahead_ne_report program skipped next)
  | ask request next =>
    rw [hprogram] at hahead
    exact (hahead _).ahead

/-- After its last request a program is at its end. -/
theorem Program.AsksAtMost.turn_done {program : Program α} (h : program.AsksAtMost 1)
    (memory : Memory) : ∃ result, (program.turn memory).1 = .done result := by
  have hahead := h.ahead
  rw [Program.turn]
  cases hprogram : program.ahead with
  | done result => exact ⟨result, rfl⟩
  | report skipped next => exact absurd hprogram (ahead_ne_report program skipped next)
  | ask request next =>
    rw [hprogram] at hahead
    exact (hahead _).ahead_done

end AsksAtMost

/-! ## Errands -/

/-- What a client may do: anything but to write under the name of the counter by itself. -/
inductive Errand
  | bump
  | version
  | load (domain : Domain) (name : String)
  | loadById (domain : Domain) (id : RecordId)
  | loadAll (domain : Domain)
  | loadChanged (domain : Domain) (previous : Fingerprints)
  | store (domain : Domain) (policy : Policy domain)
  | remove (domain : Domain) (name : String)
  | loadRateLimitConfig
  | loadRouteGroups (names : List String)
  | upsert (name value : String) (other : name ≠ reorgKey)
  | delete (name : String) (other : name ≠ reorgKey)

namespace Errand

/-- What an errand gives. -/
abbrev Reply : Errand → Type
  | bump | version => Int64
  | load domain _ | loadById domain _ => Policy domain
  | loadAll domain => Snapshot domain
  | loadChanged domain _ => Delta domain
  | store _ _ | upsert _ _ _ => RecordId
  | remove _ _ | delete _ _ => Bool
  | loadRateLimitConfig => Service.RateLimitConfig
  | loadRouteGroups _ => Service.RouteGroups

/-- The operation that an errand performs. -/
def operation (registry : Registry) : (errand : Errand) → Operation errand.Reply
  | bump => Service.bumpReorgVersion
  | version => Service.reorgVersion
  | load domain name => Service.load registry domain name
  | loadById domain id => Service.loadById registry domain id
  | loadAll domain => Service.loadAll registry domain
  | loadChanged domain previous => Service.loadChanged registry domain previous
  | store _ policy => Service.store registry policy
  | remove domain name => Service.remove registry domain name
  | loadRateLimitConfig => Service.loadRateLimitConfig registry
  | loadRouteGroups names => Service.loadRouteGroups registry names
  | upsert name value _ => Service.upsert name value
  | delete name _ => Service.delete name

/-- No errand takes more than two requests. -/
theorem asksAtMost_operation (registry : Registry) (errand : Errand) :
    (errand.operation registry).AsksAtMost 2 := by
  have hrequest : ∀ {α : Type} (title : String) (request : Request) {next : request.Reply → Program α},
      (∀ reply, (next reply).AsksAtMost 1) →
        (Operation.guarded title (.request request next)).AsksAtMost 2 :=
    fun _ request _ hnext => Program.asksAtMost_request request hnext
  cases errand with
  | bump => exact hrequest _ (.increment _) fun _ => trivial
  | version => exact hrequest _ (.loadByName _) fun _ => trivial
  | load domain name =>
    refine Operation.asksAtMost_after fun key => hrequest _ (.loadByName key) fun record => ?_
    cases record <;> trivial
  | loadById domain id =>
    exact Operation.asksAtMost_after fun _ => hrequest _ (.loadById id) fun _ => trivial
  | loadAll domain => exact Service.asksAtMost_withSnapshot registry fun _ => trivial
  | loadChanged domain previous =>
    exact Operation.asksAtMost_after fun _ => hrequest _ (.loadByPrefix _) fun _ => trivial
  | store domain policy =>
    refine Operation.asksAtMost_after fun key => Operation.asksAtMost_after fun text => ?_
    exact hrequest _ (.upsert key text) fun _ => trivial
  | remove domain name =>
    exact Operation.asksAtMost_after fun key => hrequest _ (.delete key) fun _ => trivial
  | loadRateLimitConfig =>
    refine Service.asksAtMost_withSnapshot registry fun _ => ?_
    exact Service.asksAtMost_withSnapshot registry fun _ => trivial
  | loadRouteGroups names =>
    refine Operation.asksAtMost_after fun _ => ?_
    change Program.AsksAtMost 2 (if _ then _ else _)
    split
    · exact Program.asksAtMost_request (.loadByPrefix _) fun _ => trivial
    · exact Program.asksAtMost_request (.loadRecords _) fun _ => trivial
  | upsert name value other => exact hrequest _ (.upsert name value) fun _ => trivial
  | delete name other => exact hrequest _ (.delete name) fun _ => trivial

end Errand

/-! ## Turns -/

/-- A client: the errand that is under way with what is left of its program, and the errands that
are still to be done. -/
structure Client where
  underWay : Option ((errand : Errand) × Program errand.Reply)
  queue : List Errand

/-- The errand that is under way, if there is one, and those that are still to be done. -/
def Client.pending (client : Client) : List Errand :=
  (client.underWay.map Sigma.fst).toList ++ client.queue

/-- The turns that are enough for a client to be through with everything. -/
def Client.due (client : Client) : Nat :=
  2 * client.queue.length + if client.underWay.isSome then 1 else 0

theorem Client.eq_idle {client : Client} (h : client.due = 0) : client = ⟨none, []⟩ := by
  obtain ⟨underWay, queue⟩ := client
  cases underWay with
  | some task => simp [due] at h
  | none =>
    cases queue with
    | nil => rfl
    | cons errand queue => simp [due] at h

/-- An errand that a client is through with. -/
structure Finished (ι : Type) where
  client : ι
  errand : Errand
  result : Except PolicyError errand.Reply

/-- The errands that a client is through with, of those that anybody is. -/
def Finished.doneBy {ι : Type} [DecidableEq ι] (client : ι) (log : List (Finished ι)) : List Errand :=
  (log.filter fun finished => finished.client = client).map Finished.errand

/-- Clients that share a table, with the errands that they are through with, in the order in which
these came to their ends. -/
structure Shared (ι : Type) where
  memory : Memory
  clients : ι → Client
  log : List (Finished ι)

namespace Shared

variable {ι : Type} [DecidableEq ι]

/-- Clients that have everything still to do. -/
def start (memory : Memory) (queues : ι → List Errand) : Shared ι :=
  ⟨memory, fun client => ⟨none, queues client⟩, []⟩

/-- A client goes on with the program of an errand. -/
def goOn (shared : Shared ι) (client : ι) (queue : List Errand) (errand : Errand)
    (program : Program errand.Reply) : Shared ι :=
  match program.turn shared.memory with
  | (.done result, memory) =>
    ⟨memory, Function.update shared.clients client ⟨none, queue⟩,
      shared.log ++ [⟨client, errand, result⟩]⟩
  | (rest, memory) =>
    ⟨memory, Function.update shared.clients client ⟨some ⟨errand, rest⟩, queue⟩, shared.log⟩

/-- A client has a turn: it goes on with its errand, or begins with its next one. -/
def turn (registry : Registry) (shared : Shared ι) (client : ι) : Shared ι :=
  match shared.clients client with
  | ⟨some ⟨errand, program⟩, queue⟩ => shared.goOn client queue errand program
  | ⟨none, []⟩ => shared
  | ⟨none, errand :: queue⟩ =>
    match errand.operation registry with
    | .refused error =>
      ⟨shared.memory, Function.update shared.clients client ⟨none, queue⟩,
        shared.log ++ [⟨client, errand, .error error⟩]⟩
    | .guarded _ program => shared.goOn client queue errand program

/-- Clients have turns in the order of a schedule. -/
def run (registry : Registry) (shared : Shared ι) (schedule : List ι) : Shared ι :=
  schedule.foldl (turn registry) shared

/-! ## What a turn comes to -/

variable {registry : Registry} {shared : Shared ι} {client : ι} {queue : List Errand}
  {errand : Errand}

theorem run_cons (registry : Registry) (shared : Shared ι) (client : ι) (schedule : List ι) :
    shared.run registry (client :: schedule) =
      (shared.turn registry client).run registry schedule :=
  rfl

/-- A client that goes on with a program is through with it after its next request, or has the rest of
it under way. -/
theorem goOn_cases (shared : Shared ι) (client : ι) (queue : List Errand)
    (program : Program errand.Reply) :
    (∃ result, (program.turn shared.memory).1 = .done result ∧
      shared.goOn client queue errand program =
        ⟨(program.turn shared.memory).2, Function.update shared.clients client ⟨none, queue⟩,
          shared.log ++ [⟨client, errand, result⟩]⟩) ∨
    ((∀ result, (program.turn shared.memory).1 ≠ .done result) ∧
      shared.goOn client queue errand program =
        ⟨(program.turn shared.memory).2, Function.update shared.clients client
          ⟨some ⟨errand, (program.turn shared.memory).1⟩, queue⟩, shared.log⟩) := by
  rw [goOn]
  cases program.turn shared.memory with
  | mk rest memory =>
    cases rest with
    | done result => exact .inl ⟨result, rfl, rfl⟩
    | report skipped next =>
      refine .inr ⟨?_, rfl⟩
      intro result h
      cases h
    | ask request next =>
      refine .inr ⟨?_, rfl⟩
      intro result h
      cases h

/-- A turn of a client: it has nothing to do, or its first errand comes to its end or is under way. -/
inductive Turned (shared : Shared ι) (client : ι) : Shared ι → Prop
  | idle (h : shared.clients client = ⟨none, []⟩) : Turned shared client shared
  | ends {errand : Errand} {queue : List Errand} (memory : Memory)
      (result : Except PolicyError errand.Reply)
      (h : (shared.clients client).pending = errand :: queue) :
      Turned shared client ⟨memory, Function.update shared.clients client ⟨none, queue⟩,
        shared.log ++ [⟨client, errand, result⟩]⟩
  | goesOn {errand : Errand} {queue : List Errand} (memory : Memory)
      (program : Program errand.Reply) (h : (shared.clients client).pending = errand :: queue) :
      Turned shared client ⟨memory, Function.update shared.clients client
        ⟨some ⟨errand, program⟩, queue⟩, shared.log⟩

theorem turned_goOn (h : (shared.clients client).pending = errand :: queue)
    (program : Program errand.Reply) :
    Turned shared client (shared.goOn client queue errand program) := by
  rcases goOn_cases shared client queue program with ⟨result, -, hends⟩ | ⟨-, hgoesOn⟩
  · rw [hends]
    exact .ends _ result h
  · rw [hgoesOn]
    exact .goesOn _ _ h

theorem turned (registry : Registry) (shared : Shared ι) (client : ι) :
    Turned shared client (shared.turn registry client) := by
  rw [turn]
  split
  next errand program queue hclient =>
    exact turned_goOn (by rw [hclient]; rfl) program
  next hclient => exact .idle hclient
  next errand queue hclient =>
    have hpending : (shared.clients client).pending = errand :: queue := by
      rw [hclient]
      rfl
    split
    next error _ => exact .ends _ (.error error) hpending
    next program _ => exact turned_goOn hpending program

theorem log_turn (registry : Registry) (shared : Shared ι) (client : ι) :
    shared.log <+: (shared.turn registry client).log := by
  have hturned := turned registry shared client
  generalize shared.turn registry client = after at hturned ⊢
  cases hturned with
  | idle h => exact List.prefix_refl _
  | ends memory result h => exact List.prefix_append _ _
  | goesOn memory program h => exact List.prefix_refl _

theorem log_run (registry : Registry) (shared : Shared ι) (schedule : List ι) :
    shared.log <+: (shared.run registry schedule).log := by
  induction schedule generalizing shared with
  | nil => exact List.prefix_refl _
  | cons client schedule ih => exact (log_turn registry shared client).trans (ih _)

/-- A turn brings at most one errand to its end. -/
theorem length_log_turn (registry : Registry) (shared : Shared ι) (client : ι) :
    (shared.turn registry client).log.length ≤ shared.log.length + 1 := by
  have hturned := turned registry shared client
  generalize shared.turn registry client = after at hturned ⊢
  cases hturned with
  | idle h => exact Nat.le_succ _
  | ends memory result h => simp
  | goesOn memory program h => exact Nat.le_succ _

theorem length_log_run (registry : Registry) (shared : Shared ι) (schedule : List ι) :
    (shared.run registry schedule).log.length ≤ shared.log.length + schedule.length := by
  induction schedule generalizing shared with
  | nil => exact Nat.le_refl _
  | cons client schedule ih =>
    have hfirst := length_log_turn registry shared client
    have hrest := ih (shared.turn registry client)
    rw [List.length_cons, run_cons]
    omega

/-! ## What clients have been given -/

/-- All that a client has been given: what it is through with, what is under way and what is left. -/
def account (shared : Shared ι) (client : ι) : List Errand :=
  Finished.doneBy client shared.log ++ (shared.clients client).pending

theorem account_start (memory : Memory) (queues : ι → List Errand) (client : ι) :
    (start memory queues).account client = queues client := rfl

/-- No turn loses an errand or makes one up. -/
theorem account_turn (registry : Registry) (shared : Shared ι) (client other : ι) :
    (shared.turn registry client).account other = shared.account other := by
  have hturned := turned registry shared client
  generalize shared.turn registry client = after at hturned ⊢
  by_cases hother : other = client
  · subst hother
    cases hturned with
    | idle h => rfl
    | ends memory result h =>
      rw [account, account, h]
      simp [Finished.doneBy, Client.pending]
    | goesOn memory program h =>
      rw [account, account, h]
      simp [Client.pending]
  · cases hturned with
    | idle h => rfl
    | ends memory result h =>
      simp [account, Finished.doneBy, Function.update_of_ne hother, Ne.symm hother]
    | goesOn memory program h => simp [account, Function.update_of_ne hother]

theorem account_run (registry : Registry) (shared : Shared ι) (schedule : List ι) (client : ι) :
    (shared.run registry schedule).account client = shared.account client := by
  induction schedule generalizing shared with
  | nil => rfl
  | cons first schedule ih => rw [run_cons, ih, account_turn]

/-- The errands in a log are those that clients are through with, client by client. -/
theorem countP_log {clients : Finset ι} {log : List (Finished ι)}
    (h : ∀ finished ∈ log, finished.client ∈ clients) (p : Errand → Bool) :
    (log.countP fun finished => p finished.errand) =
      ∑ client ∈ clients, (Finished.doneBy client log).countP p := by
  induction log with
  | nil => simp [Finished.doneBy]
  | cons finished log ih =>
    obtain ⟨hfirst, hothers⟩ := List.forall_mem_cons.mp h
    have hcons : ∀ client, (Finished.doneBy client (finished :: log)).countP p =
        (Finished.doneBy client log).countP p +
          if finished.client = client then (if p finished.errand then 1 else 0) else 0 := by
      intro client
      by_cases hclient : finished.client = client
      · simp [Finished.doneBy, hclient, List.countP_cons]
      · simp [Finished.doneBy, hclient]
    rw [List.countP_cons, ih hothers]
    simp only [hcons, Finset.sum_add_distrib, Finset.sum_ite_eq, hfirst, if_true]

/-- When nothing is left to some clients and the others had nothing to do, the log has the errands that
the former were given. -/
theorem countP_log_of_through {queues : ι → List Errand}
    (haccount : ∀ client, shared.account client = queues client) {clients : Finset ι}
    (hothers : ∀ client, client ∉ clients → queues client = [])
    (hthrough : ∀ client ∈ clients, (shared.clients client).pending = []) (p : Errand → Bool) :
    (shared.log.countP fun finished => p finished.errand) =
      ∑ client ∈ clients, (queues client).countP p := by
  have hmem : ∀ finished ∈ shared.log, finished.client ∈ clients := by
    intro finished hfinished
    by_contra hnot
    have hnone := (haccount finished.client).trans (hothers _ hnot)
    have hdone := (List.append_eq_nil_iff.mp hnone).1
    rw [Finished.doneBy, List.map_eq_nil_iff, List.filter_eq_nil_iff] at hdone
    exact hdone finished hfinished (by simp)
  rw [countP_log hmem]
  refine Finset.sum_congr rfl fun client hclient => ?_
  rw [← haccount client, account, hthrough client hclient, List.append_nil]

/-! ## How long clients take -/

/-- What is under way takes one more request at most. -/
def Brief (shared : Shared ι) : Prop :=
  ∀ client errand program, (shared.clients client).underWay = some ⟨errand, program⟩ →
    program.AsksAtMost 1

omit [DecidableEq ι] in
theorem brief_start (memory : Memory) (queues : ι → List Errand) : (start memory queues).Brief := by
  intro client errand program hway
  simp [start] at hway

theorem Brief.update (h : shared.Brief) (client : ι) {left : Client}
    (hleft : ∀ errand program, left.underWay = some ⟨errand, program⟩ → program.AsksAtMost 1)
    (memory : Memory) (log : List (Finished ι)) :
    Brief ⟨memory, Function.update shared.clients client left, log⟩ := by
  intro other errand program hway
  by_cases hother : other = client
  · subst hother
    dsimp only at hway
    rw [Function.update_self] at hway
    exact hleft errand program hway
  · dsimp only at hway
    rw [Function.update_of_ne hother] at hway
    exact h other errand program hway

/-- A client that takes its next errand from its queue has a turn less before it. -/
theorem Brief.next (h : shared.Brief) (hclient : shared.clients client = ⟨none, errand :: queue⟩)
    {underWay : Option ((errand : Errand) × Program errand.Reply)}
    (hleft : ∀ errand program, underWay = some ⟨errand, program⟩ → program.AsksAtMost 1)
    (memory : Memory) (log : List (Finished ι)) :
    Brief ⟨memory, Function.update shared.clients client ⟨underWay, queue⟩, log⟩ ∧
      (Function.update shared.clients client ⟨underWay, queue⟩ client).due ≤
        (shared.clients client).due - 1 := by
  refine ⟨h.update client hleft memory log, ?_⟩
  rw [Function.update_self, hclient, Client.due, Client.due, List.length_cons]
  cases underWay with
  | none =>
    simp only [Option.isSome_none, Bool.false_eq_true, if_false]
    omega
  | some task =>
    simp only [Option.isSome_some, Option.isSome_none, Bool.false_eq_true, if_false, if_true]
    omega

/-- A turn of a client leaves one turn less to it. -/
theorem Brief.turn (h : shared.Brief) (registry : Registry) (client : ι) :
    (shared.turn registry client).Brief ∧
      ((shared.turn registry client).clients client).due ≤ (shared.clients client).due - 1 := by
  rw [Shared.turn]
  split
  next errand program queue hclient =>
    obtain ⟨result, hdone⟩ :=
      (h client errand program (by rw [hclient])).turn_done shared.memory
    rcases goOn_cases shared client queue program with ⟨result, -, hends⟩ | ⟨hrest, -⟩
    · rw [hends]
      refine ⟨h.update client (fun _ _ hway => by cases hway) _ _, ?_⟩
      simp [hclient, Client.due]
    · exact absurd hdone (hrest result)
  next hclient => exact ⟨h, by simp [hclient, Client.due]⟩
  next errand queue hclient =>
    have hasks := errand.asksAtMost_operation registry
    split
    next error _ => exact h.next hclient (fun _ _ hway => by cases hway) _ _
    next title program heq =>
      rw [heq] at hasks
      rcases goOn_cases shared client queue program with ⟨result, -, hends⟩ | ⟨-, hgoesOn⟩
      · rw [hends]
        exact h.next hclient (fun _ _ hway => by cases hway) _ _
      · rw [hgoesOn]
        refine h.next hclient (fun _ _ hway => ?_) _ _
        cases hway
        exact Program.AsksAtMost.turn hasks shared.memory

theorem clients_turn_other (registry : Registry) (shared : Shared ι) {client other : ι}
    (hother : other ≠ client) :
    (shared.turn registry client).clients other = shared.clients other := by
  have hturned := turned registry shared client
  generalize shared.turn registry client = after at hturned ⊢
  cases hturned with
  | idle h => rfl
  | ends memory result h => exact Function.update_of_ne hother _ _
  | goesOn memory program h => exact Function.update_of_ne hother _ _

/-- Whoever has turns in between, each turn of a client leaves one turn less to it. -/
theorem Brief.due_run (h : shared.Brief) (registry : Registry) (schedule : List ι) (client : ι) :
    ((shared.run registry schedule).clients client).due ≤
      (shared.clients client).due - schedule.count client := by
  induction schedule generalizing shared with
  | nil => exact Nat.le_refl _
  | cons first schedule ih =>
    obtain ⟨hbrief, hdue⟩ := h.turn registry first
    have hrest := ih hbrief
    rw [run_cons]
    by_cases hfirst : client = first
    · subst hfirst
      rw [List.count_cons_self]
      omega
    · rw [clients_turn_other registry shared hfirst] at hrest
      rwa [List.count_cons_of_ne (Ne.symm hfirst)]

/-- With two turns for each of its errands a client is through with all of them. -/
theorem through_run (memory : Memory) (queues : ι → List Errand) (registry : Registry)
    {schedule : List ι} {client : ι}
    (h : 2 * (queues client).length ≤ schedule.count client) :
    ((start memory queues).run registry schedule).clients client = ⟨none, []⟩ := by
  have hdue := (brief_start memory queues).due_run registry schedule client
  have hstart : ((start memory queues).clients client).due = 2 * (queues client).length := rfl
  exact Client.eq_idle (by omega)

/-! ## A client alone -/

theorem goOn_ahead (shared : Shared ι) (client : ι) (queue : List Errand)
    (program : Program errand.Reply) :
    shared.goOn client queue errand program.ahead = shared.goOn client queue errand program := by
  rw [goOn, goOn, Program.turn_ahead]

theorem turn_underWay {program : Program errand.Reply}
    (hclient : shared.clients client = ⟨some ⟨errand, program⟩, queue⟩) :
    shared.turn registry client = shared.goOn client queue errand program := by
  rw [turn, hclient]

theorem run_goOn_alone (registry : Registry) (client : ι) (queue : List Errand)
    (program : Program errand.Reply) (shared : Shared ι) :
    ∃ turns, (shared.goOn client queue errand program).run registry (List.replicate turns client) =
      ⟨(program.eval shared.memory).memory, Function.update shared.clients client ⟨none, queue⟩,
        shared.log ++ [⟨client, errand, (program.eval shared.memory).result⟩]⟩ := by
  induction program generalizing shared with
  | done result => exact ⟨0, rfl⟩
  | report skipped next ih => exact ih shared
  | ask request next ih =>
    obtain ⟨answer, hanswer⟩ : ∃ answer, (shared.memory.answer request).1 = answer := ⟨_, rfl⟩
    obtain ⟨hresult, hmemory⟩ := (next answer).eval_ahead (shared.memory.answer request).2
    have hturn : (Program.ask request next).turn shared.memory =
        ((next answer).ahead, (shared.memory.answer request).2) := by
      rw [← hanswer]
      rfl
    rw [Program.eval, hanswer, goOn, hturn]
    cases hrest : (next answer).ahead with
    | done result =>
      rw [hrest] at hresult hmemory
      rw [← hresult, ← hmemory]
      exact ⟨0, rfl⟩
    | report skipped rest => exact absurd hrest ((next answer).ahead_ne_report skipped rest)
    | ask later rest =>
      -- the next turn goes on from where this one stopped
      obtain ⟨waiting, hwaiting⟩ : ∃ waiting : Shared ι, waiting =
          ⟨(shared.memory.answer request).2, Function.update shared.clients client
            ⟨some ⟨errand, .ask later rest⟩, queue⟩, shared.log⟩ := ⟨_, rfl⟩
      have hclient : waiting.clients client = ⟨some ⟨errand, .ask later rest⟩, queue⟩ := by
        rw [hwaiting]
        exact Function.update_self _ _ _
      obtain ⟨turns, hturns⟩ := ih answer waiting
      rw [← goOn_ahead, hrest, ← turn_underWay hclient] at hturns
      refine ⟨turns + 1, ?_⟩
      dsimp only
      rw [← hwaiting, List.replicate_succ, run_cons, hturns, hwaiting, Function.update_idem]

/-- Alone, a client comes to what a service gives that performs its errand. -/
theorem run_alone (hclient : shared.clients client = ⟨none, errand :: queue⟩) :
    ∃ turns result after skipped,
      (Service.onTable registry shared.memory).perform (Errand.operation · errand) none =
        (some result, Service.onTable registry after, skipped) ∧
      shared.run registry (List.replicate turns client) =
        ⟨after, Function.update shared.clients client ⟨none, queue⟩,
          shared.log ++ [⟨client, errand, result⟩]⟩ := by
  rw [Service.perform_onTable]
  cases hoperation : errand.operation registry with
  | refused error =>
    refine ⟨1, _, _, _, rfl, ?_⟩
    rw [List.replicate_one, run_cons, turn, hclient]
    dsimp only
    rw [hoperation]
    rfl
  | guarded title program =>
    obtain ⟨turns, hturns⟩ := run_goOn_alone registry client queue program shared
    refine ⟨turns + 1, _, _, _, rfl, ?_⟩
    rw [List.replicate_succ, run_cons, turn, hclient]
    dsimp only
    rw [hoperation]
    exact hturns

end Shared

end PolicyStore
