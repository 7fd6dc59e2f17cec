import PolicyStore.Proofs.Namespace.Keys
import PolicyStore.Proofs.RecordStore.History
import PolicyStore.Proofs.Service.Direct

/-!
# Names that an operation leaves alone

What a program asks for depends on what it is answered, but often the requests are of one kind whatever
the answers are. A program spares a name when none of its requests writes under it. The row of a name
that is spared is as before, however the program ends.
-/

namespace PolicyStore

variable {α β : Type} {name : String}

/-! ## What programs ask for -/

/-- Every request of a program is of a kind, whatever it is answered. -/
def Program.Asks (Kind : Request → Prop) : Program α → Prop
  | .done _ => True
  | .report _ next => next.Asks Kind
  | .ask request next => Kind request ∧ ∀ answer, (next answer).Asks Kind

/-- Every request of an operation is of a kind. -/
def Operation.Asks (Kind : Request → Prop) : Operation α → Prop
  | .refused _ => True
  | .guarded _ program => program.Asks Kind

section Asks

variable {Kind : Request → Prop}

theorem Program.asks_request (request : Request) (h : Kind request)
    {next : request.Reply → Program α} (hnext : ∀ reply, (next reply).Asks Kind) :
    (Program.request request next).Asks Kind := by
  refine ⟨h, fun answer => ?_⟩
  cases answer with
  | ok reply => exact hnext reply
  | error fault => trivial

theorem Operation.asks_guarded {title : String} (request : Request) (h : Kind request)
    {next : request.Reply → Program α} (hnext : ∀ reply, (next reply).Asks Kind) :
    (Operation.guarded title (.request request next)).Asks Kind :=
  Program.asks_request request h hnext

theorem Operation.asks_after {check : Except PolicyError β} {next : β → Operation α}
    (h : ∀ b, check = .ok b → (next b).Asks Kind) : (Operation.after check next).Asks Kind := by
  cases hcheck : check with
  | error error => trivial
  | ok b => exact h b hcheck

theorem Service.asks_withSnapshot (registry : Registry) {domain : Domain}
    (h : Kind (.loadByPrefix domain.namePrefix)) {next : Snapshot domain → Program α}
    (hnext : ∀ snapshot, (next snapshot).Asks Kind) :
    (withSnapshot registry domain next).Asks Kind := by
  rw [withSnapshot]
  split
  · trivial
  · exact Program.asks_request (.loadByPrefix _) h fun records => hnext _

theorem Program.Asks.mono {Other : Request → Prop} {program : Program α} (h : program.Asks Kind)
    (himp : ∀ request, Kind request → Other request) : program.Asks Other := by
  induction program with
  | done result => trivial
  | report skipped next ih => exact ih h
  | ask request next ih => exact ⟨himp request h.1, fun answer => ih answer (h.2 answer)⟩

theorem Operation.Asks.mono {Other : Request → Prop} {operation : Operation α}
    (h : operation.Asks Kind) (himp : ∀ request, Kind request → Other request) :
    operation.Asks Other := by
  cases operation with
  | refused error => trivial
  | guarded title program => exact Program.Asks.mono h himp

theorem Program.asks_mapResult (f : Except PolicyError α → Except PolicyError β)
    {program : Program α} (h : program.Asks Kind) : (program.mapResult f).Asks Kind := by
  induction program with
  | done result => trivial
  | report skipped next ih => exact ih h
  | ask request next ih => exact ⟨h.1, fun answer => ih answer (h.2 answer)⟩

theorem Operation.asks_map (f : α → β) {operation : Operation α} (h : operation.Asks Kind) :
    (operation.map f).Asks Kind := by
  cases operation with
  | refused error => trivial
  | guarded title program => exact Program.asks_mapResult _ h

end Asks

/-! ## What is spared -/

/-- A request that does not write under a name. -/
def Request.Spares (name : String) : Request → Prop
  | .upsert other _ | .delete other | .increment other => other ≠ name
  | _ => True

theorem Memory.answer_spares {request : Request} (h : request.Spares name) (memory : Memory) :
    (memory.answer request).2.rows[name]? = memory.rows[name]? := by
  cases request with
  | loadRecords names => rfl
  | loadByName other => rfl
  | loadByPrefix namePrefix => rfl
  | loadById id => rfl
  | upsert other value =>
    change (memory.upsert other value).2.rows[name]? = _
    cases hover : overflow? other value with
    | some overflow => rw [upsert_overflow hover]
    | none =>
      obtain ⟨id, -, hwritten⟩ := upsert_fits hover memory
      exact hwritten.others name fun hname => h hname.symm
  | delete other =>
    change (memory.delete other).2.rows[name]? = _
    rw [delete]
    split
    · exact (erase_rows memory other name).trans (if_neg h)
    · rfl
  | increment other =>
    change (memory.increment other).2.rows[name]? = _
    rcases increment_eq memory other with ⟨fault, hfault⟩ | ⟨n, id, -, -, hwritten⟩
    · rw [hfault]
    · exact hwritten.others name fun hname => h hname.symm

/-- A program that never writes under a name, whatever it is answered. -/
abbrev Program.Spares (name : String) (program : Program α) : Prop :=
  program.Asks (Request.Spares name)

/-- An operation whose program never writes under a name. -/
abbrev Operation.Spares (name : String) (operation : Operation α) : Prop :=
  operation.Asks (Request.Spares name)

theorem Program.Spares.eval {program : Program α} (h : program.Spares name) (memory : Memory) :
    (program.eval memory).memory.rows[name]? = memory.rows[name]? := by
  induction program generalizing memory with
  | done result => rfl
  | report skipped next ih => exact ih h memory
  | ask request next ih =>
    obtain ⟨hrequest, hnext⟩ := h
    exact (ih _ (hnext _) _).trans (Memory.answer_spares hrequest memory)

theorem Operation.Spares.eval {operation : Operation α} (h : operation.Spares name)
    (memory : Memory) : (operation.eval memory).memory.rows[name]? = memory.rows[name]? := by
  cases operation with
  | refused error => rfl
  | guarded title program => exact Program.Spares.eval h memory

namespace Service

variable {domain : Domain}

/-- An interruption does not change what is spared. -/
theorem spares_perform (operation : Registry → Operation α) {registry : Registry}
    (h : (operation registry).Spares name) (memory : Memory) (interrupt : Interrupt)
    (signal : Option Nat) :
    (((onTable registry memory).under interrupt).perform operation signal).2.1.state.rows[name]? =
      memory.rows[name]? := by
  rcases perform_under operation registry memory interrupt signal with ⟨-, hsame⟩ | ⟨-, hdone⟩
  · rw [hsame]
  · rw [hdone]
    exact h.eval memory

/-! ## Operations that write -/

theorem spares_store (h : startsWith domain.namePrefix name = false) (registry : Registry)
    (policy : Policy domain) : (store registry policy).Spares name := by
  refine Operation.asks_after fun key hkey => Operation.asks_after fun payload _ => ?_
  obtain ⟨-, rfl⟩ := domainKey_eq_ok hkey
  exact Operation.asks_guarded (.upsert _ payload) (key_ne h policy.name) fun _ => trivial

theorem spares_remove (h : startsWith domain.namePrefix name = false) (registry : Registry)
    (other : String) : (remove registry domain other).Spares name := by
  refine Operation.asks_after fun key hkey => ?_
  obtain ⟨-, rfl⟩ := domainKey_eq_ok hkey
  exact Operation.asks_guarded (.delete _) (key_ne h other) fun _ => trivial

theorem spares_bump (h : reorgKey ≠ name) : bumpReorgVersion.Spares name :=
  Operation.asks_guarded (.increment reorgKey) h fun _ => trivial

end Service

end PolicyStore
