import PolicyStore.Proofs.Service.Asking
import PolicyStore.Proofs.Service.Clients
import PolicyStore.Proofs.Service.Reorg

/-!
# Clients that share a table

Whatever else clients of one table do, and in whatever order they have their turns, each advance of the
reorganization counter counts once, and each reading tells how many there have been. Since clients come
to the end of all that they are given, as many advances count as they are given.
-/

namespace PolicyStore

variable {α : Type} {name : String}

/-! ## Names that a program leaves alone -/

theorem Program.Asks.ahead {Kind : Request → Prop} {program : Program α} (h : program.Asks Kind) :
    program.ahead.Asks Kind := by
  induction program with
  | done result => exact h
  | report skipped next ih => exact ih h
  | ask request next ih => exact h

theorem Program.Spares.turn {program : Program α} (h : program.Spares name) (memory : Memory) :
    (program.turn memory).1.Spares name ∧
      (program.turn memory).2.rows[name]? = memory.rows[name]? := by
  have hahead := h.ahead
  rw [Program.turn]
  split
  next request next heq =>
    rw [heq] at hahead
    exact ⟨(hahead.2 _).ahead, Memory.answer_spares hahead.1 memory⟩
  next => exact ⟨hahead, rfl⟩

/-! ## Errands beside the counter -/

namespace Errand

variable {registry : Registry} {errand : Errand}

/-- Whether an errand advances the counter. -/
def isBump : Errand → Bool
  | bump => true
  | _ => false

/-- Whether an errand has to do with policies and not with the counter. -/
def Plain (errand : Errand) : Prop := errand ≠ bump ∧ errand ≠ version

theorem spares_operation (h : errand ≠ bump) (registry : Registry) :
    (errand.operation registry).Spares reorgKey := by
  have hpolicies : ∀ offer : Service.PolicyOffer, (offer.operation registry).Spares reorgKey :=
    fun offer => Service.Offer.spares_policies registry offer startsWith_reorgKey
  cases errand with
  | bump => exact absurd rfl h
  | version => exact Operation.asks_guarded (.loadByName _) trivial fun _ => trivial
  | load domain name => exact hpolicies (.load domain name)
  | loadById domain id => exact hpolicies (.loadById domain id)
  | loadAll domain => exact hpolicies (.loadAll domain)
  | loadChanged domain previous => exact hpolicies (.loadChanged domain previous)
  | store domain policy => exact hpolicies (.store domain policy)
  | remove domain name => exact hpolicies (.remove domain name)
  | loadRateLimitConfig => exact hpolicies .loadRateLimitConfig
  | loadRouteGroups names => exact hpolicies (.loadRouteGroups names)
  | upsert name value other =>
    exact Operation.asks_guarded (.upsert name value) other fun _ => trivial
  | delete name other => exact Operation.asks_guarded (.delete name) other fun _ => trivial

end Errand

/-! ## Counting -/

namespace Finished

variable {ι : Type} {log : List (Finished ι)} {version : Int64} {client : ι} {errand : Errand}

/-- What an advance of the counter gave. -/
def bump? : Finished ι → Option (Except PolicyError Int64)
  | ⟨_, .bump, result⟩ => some result
  | _ => none

/-- What the advances of the counter gave, in the order in which they took effect. -/
def bumps (log : List (Finished ι)) : List (Except PolicyError Int64) := log.filterMap bump?

/-- A log counts from a number: the advances of the counter succeed and give the numbers after it,
one after the other, and each reading gives the number that the advances before it came to. -/
structure CountsFrom (version : Int64) (log : List (Finished ι)) : Prop where
  advances : (bumps log).map (·.map Int64.toInt) =
    (List.range (bumps log).length).map fun k => .ok (version.toInt + k + 1)
  readings : ∀ early late client result, log = early ++ ⟨client, .version, result⟩ :: late →
    result.map Int64.toInt = .ok (version.toInt + (bumps early).length)

/-- What an errand has to give for a log to count on after a number of advances. -/
def CountsOn (version : Int64) (number : Nat) : Finished ι → Prop
  | ⟨_, .bump, result⟩ => result.map Int64.toInt = .ok (version.toInt + number + 1)
  | ⟨_, .version, result⟩ => result.map Int64.toInt = .ok (version.toInt + number)
  | _ => True

theorem bump?_eq_none (h : errand ≠ .bump) (client : ι) (result : Except PolicyError errand.Reply) :
    bump? ⟨client, errand, result⟩ = none := by
  cases errand with
  | bump => exact absurd rfl h
  | _ => rfl

theorem countsOn_of_plain (h : errand.Plain) (client : ι)
    (result : Except PolicyError errand.Reply) (number : Nat) :
    CountsOn version number ⟨client, errand, result⟩ := by
  cases errand with
  | bump => exact absurd rfl h.1
  | version => exact absurd rfl h.2
  | _ => trivial

theorem bumps_append (early late : List (Finished ι)) :
    bumps (early ++ late) = bumps early ++ bumps late :=
  List.filterMap_append

theorem length_bumps_le (log : List (Finished ι)) : (bumps log).length ≤ log.length :=
  List.length_filterMap_le _ _

theorem length_bumps (log : List (Finished ι)) :
    (bumps log).length = log.countP fun finished => finished.errand.isBump := by
  rw [bumps, List.length_filterMap_eq_countP]
  refine List.countP_congr fun finished _ => ?_
  obtain ⟨client, errand, result⟩ := finished
  cases errand <;> simp [bump?, Errand.isBump]

theorem countsFrom_nil (version : Int64) : CountsFrom version ([] : List (Finished ι)) := by
  refine ⟨rfl, fun early late client result hlog => ?_⟩
  simp at hlog

theorem CountsFrom.concat (h : CountsFrom version log) {last : Finished ι}
    (hlast : CountsOn version (bumps log).length last) : CountsFrom version (log ++ [last]) := by
  obtain ⟨client, errand, result⟩ := last
  constructor
  · rw [bumps_append, List.map_append, h.advances]
    by_cases hbump : errand = .bump
    · subst hbump
      change Except.map _ _ = _ at hlast
      simp [bumps, bump?, List.range_succ, hlast]
    · simp [bumps, bump?_eq_none hbump]
  · intro early late other reply hlog
    rcases concat_eq_append_cons hlog with ⟨rfl, rfl, hlast'⟩ | ⟨init, rfl, rfl⟩
    · cases hlast'
      exact hlast
    · exact h.readings early init other reply rfl

end Finished

namespace Shared

open Finished

variable {ι : Type} {registry : Registry} {shared : Shared ι} {client : ι} {version : Int64}
  {queue : List Errand} {errand : Errand}

/-- Clients count from a number: so does their log, the table stands for what the advances have come
to, and what is under way leaves the counter alone. -/
structure Counting (version : Int64) (shared : Shared ι) : Prop where
  table : ∃ n, shared.memory.Counts n ∧ n.toInt = version.toInt + (bumps shared.log).length
  log : CountsFrom version shared.log
  plain : ∀ client errand program, (shared.clients client).underWay = some ⟨errand, program⟩ →
    errand.Plain ∧ program.Spares reorgKey

theorem counting_start {memory : Memory} (h : memory.Counts version) (queues : ι → List Errand) :
    Counting version (start memory queues) := by
  refine ⟨⟨version, h, ?_⟩, countsFrom_nil version, fun client errand program hway => ?_⟩
  · simp [start, bumps]
  · simp [start] at hway

variable [DecidableEq ι]

theorem Counting.finish (h : Counting version shared) {memory : Memory} {last : Finished ι}
    {n : Int64} (htable : memory.Counts n)
    (hn : n.toInt = version.toInt + (bumps (shared.log ++ [last])).length)
    (hlast : CountsOn version (bumps shared.log).length last) (client : ι) (queue : List Errand) :
    Counting version ⟨memory, Function.update shared.clients client ⟨none, queue⟩,
      shared.log ++ [last]⟩ := by
  refine ⟨⟨n, htable, hn⟩, h.log.concat hlast, fun other errand program hway => ?_⟩
  by_cases hother : other = client
  · subst hother
    simp at hway
  · dsimp only at hway
    rw [Function.update_of_ne hother] at hway
    exact h.plain other errand program hway

/-- A plain errand leaves the counter as it is. -/
theorem Counting.finish_plain (h : Counting version shared) (hplain : errand.Plain)
    {memory : Memory} (hrows : memory.rows[reorgKey]? = shared.memory.rows[reorgKey]?)
    (result : Except PolicyError errand.Reply) (client : ι) (queue : List Errand) :
    Counting version ⟨memory, Function.update shared.clients client ⟨none, queue⟩,
      shared.log ++ [⟨client, errand, result⟩]⟩ := by
  obtain ⟨n, hcounts, hn⟩ := h.table
  refine h.finish (Memory.counts_of_rows hrows hcounts) ?_ (countsOn_of_plain hplain _ _ _) _ _
  have hbumps : bumps [⟨client, errand, result⟩] = [] := by
    simp [bumps, bump?_eq_none hplain.1]
  rw [hn, bumps_append, hbumps, List.append_nil]

theorem Counting.goOn (h : Counting version shared) (hplain : errand.Plain)
    {program : Program errand.Reply} (hspares : program.Spares reorgKey) (client : ι)
    (queue : List Errand) : Counting version (shared.goOn client queue errand program) := by
  obtain ⟨hrest, hrows⟩ := hspares.turn shared.memory
  rw [Shared.goOn]
  split
  next result memory heq =>
    rw [heq] at hrows
    exact h.finish_plain hplain hrows result client queue
  next rest memory _ heq =>
    rw [heq] at hrest hrows
    obtain ⟨n, hcounts, hn⟩ := h.table
    refine ⟨⟨n, Memory.counts_of_rows hrows hcounts, hn⟩, h.log, fun other task left hway => ?_⟩
    by_cases hother : other = client
    · subst hother
      simp only [Function.update_self, Option.some.injEq] at hway
      cases hway
      exact ⟨hplain, hrest⟩
    · dsimp only at hway
      rw [Function.update_of_ne hother] at hway
      exact h.plain other task left hway

theorem turn_bump (hclient : shared.clients client = ⟨none, .bump :: queue⟩) :
    shared.turn registry client =
      ⟨(shared.memory.increment reorgKey).2, Function.update shared.clients client ⟨none, queue⟩,
        shared.log ++ [⟨client, .bump,
          (shared.memory.increment reorgKey).1.mapError .ofStoreError⟩]⟩ := by
  rw [turn, hclient]
  change shared.goOn client queue .bump (.request (.increment reorgKey) .pure) = _
  rw [Shared.goOn, Program.turn_request]
  rfl

theorem turn_version (hclient : shared.clients client = ⟨none, .version :: queue⟩) :
    shared.turn registry client =
      ⟨shared.memory, Function.update shared.clients client ⟨none, queue⟩,
        shared.log ++ [⟨client, .version,
          Service.versionOf (shared.memory.loadByName reorgKey)⟩]⟩ := by
  rw [turn, hclient]
  rfl

theorem Counting.turn_bump (h : Counting version shared)
    (hclient : shared.clients client = ⟨none, .bump :: queue⟩)
    (hroom : version.toInt + (bumps (shared.turn registry client).log).length ≤
      Int64.maxValue.toInt) : Counting version (shared.turn registry client) := by
  rw [Shared.turn_bump hclient] at hroom ⊢
  obtain ⟨n, hcounts, hn⟩ := h.table
  rw [bumps_append, List.length_append] at hroom
  have hone : ∀ result, (bumps [⟨client, .bump, result⟩]).length = 1 := fun _ => rfl
  rw [hone] at hroom
  have hlt : n.toInt < Int64.maxValue.toInt := by omega
  obtain ⟨hok, id, hwritten⟩ := hcounts.increment hlt
  have hnext := toInt_succ hlt
  refine h.finish hwritten.counts ?_ ?_ client queue
  · rw [bumps_append, List.length_append, hone]
    omega
  · rw [hok]
    change Except.ok (n + 1).toInt = _
    rw [hnext, hn]

/-- Clients that count go on counting whoever has the next turn. -/
theorem Counting.turn (h : Counting version shared) (registry : Registry) (client : ι)
    (hroom : version.toInt + (bumps (shared.turn registry client).log).length ≤
      Int64.maxValue.toInt) : Counting version (shared.turn registry client) := by
  obtain ⟨n, hcounts, hn⟩ := h.table
  cases hclient : shared.clients client with
  | mk underWay queue =>
    cases underWay with
    | some task =>
      obtain ⟨errand, program⟩ := task
      obtain ⟨hplain, hspares⟩ := h.plain client errand program (by rw [hclient])
      rw [turn_underWay hclient]
      exact h.goOn hplain hspares client queue
    | none =>
      cases queue with
      | nil =>
        rw [Shared.turn, hclient]
        exact h
      | cons errand queue =>
        by_cases hbump : errand = .bump
        · subst hbump
          exact h.turn_bump hclient hroom
        by_cases hversion : errand = .version
        · subst hversion
          rw [Shared.turn_version hclient]
          refine h.finish hcounts ?_ ?_ client queue
          · rw [hn, bumps_append, List.length_append]
            rfl
          · rw [hcounts]
            exact congrArg Except.ok hn
        have hspares := Errand.spares_operation hbump registry
        rw [Shared.turn, hclient]
        dsimp only
        split
        next error heq => exact h.finish_plain ⟨hbump, hversion⟩ rfl _ client queue
        next title program heq =>
          rw [heq] at hspares
          exact h.goOn ⟨hbump, hversion⟩ hspares client queue

theorem Counting.run (h : Counting version shared) (registry : Registry) (schedule : List ι)
    (hroom : version.toInt + (bumps (shared.run registry schedule).log).length ≤
      Int64.maxValue.toInt) : Counting version (shared.run registry schedule) := by
  induction schedule generalizing shared with
  | nil => exact h
  | cons client schedule ih =>
    refine ih (h.turn registry client ?_) hroom
    obtain ⟨late, hlate⟩ := log_run registry (shared.turn registry client) schedule
    rw [run_cons, ← hlate, bumps_append, List.length_append] at hroom
    omega

end Shared

namespace Service

open Finished

/-- What has come of the errands of clients that share a table, after a schedule of turns: advances of the
counter have counted from a number on, one by one, and the counter stands where they came to; no errand
was lost or made up, and after turns enough there have been all the advances that were asked for. -/
structure Settled {ι : Type} [DecidableEq ι] (registry : Registry) (version : Int64)
    (queues : ι → List Errand) (schedule : List ι) (shared : Shared ι) : Prop where
  counts : CountsFrom version shared.log
  stands : ∃ n, ((onTable registry shared.memory).perform (fun _ => reorgVersion) none).1 =
    some (.ok n) ∧ n.toInt = version.toInt + (bumps shared.log).length
  accounted : ∀ client,
    doneBy client shared.log ++ (shared.clients client).pending = queues client
  through : ∀ client, 2 * (queues client).length ≤ schedule.count client →
    (shared.clients client).pending = []
  asked : ∀ clients : Finset ι, (∀ client, client ∉ clients → queues client = []) →
    (∀ client ∈ clients, (shared.clients client).pending = []) →
      (bumps shared.log).length = ∑ client ∈ clients, (queues client).countP Errand.isBump

/-- Clients share a table. As long as there are numbers left, each advance of the counter counts
once and each reading tells how many there have been; at the last number an advance fails and
changes nothing. A client that has turns without the others comes to what a service gives. -/
theorem bumps_counted {ι : Type} [DecidableEq ι] (registry : Registry) (memory : Memory)
    (queues : ι → List Errand) (schedule : List ι) (version : Int64)
    (hversion : ((onTable registry memory).perform (fun _ => reorgVersion) none).1 =
      some (.ok version))
    (hroom : version.toInt +
      (bumps ((Shared.start memory queues).run registry schedule).log).length ≤
        Int64.maxValue.toInt) :
    Settled registry version queues schedule ((Shared.start memory queues).run registry schedule) ∧
      (∀ (shared : Shared ι) (client : ι) (errand : Errand) (queue : List Errand),
        shared.clients client = ⟨none, errand :: queue⟩ →
          ∃ turns result after skipped,
            (onTable registry shared.memory).perform (Errand.operation · errand) none =
              (some result, onTable registry after, skipped) ∧
            shared.run registry (List.replicate turns client) =
              ⟨after, Function.update shared.clients client ⟨none, queue⟩,
                shared.log ++ [⟨client, errand, result⟩]⟩) ∧
      ∀ full : Memory, ((onTable registry full).perform (fun _ => reorgVersion) none).1 =
          some (.ok Int64.maxValue) →
        ∃ error, error.kind = .storage ∧
          (onTable registry full).perform (fun _ => bumpReorgVersion) none =
            (some (.error error), onTable registry full, []) := by
  have hreads : ∀ table n, ((onTable registry table).perform (fun _ => reorgVersion) none).1 =
      some (.ok n) ↔ table.Counts n := fun _ _ => generation_eq_ok_iff registry
  have hstart := Shared.counting_start ((hreads memory version).mp hversion) queues
  have hcounting := hstart.run registry schedule hroom
  have haccount := fun client => (Shared.account_run registry (Shared.start memory queues) schedule
    client).trans (Shared.account_start memory queues client)
  refine ⟨⟨hcounting.log, ?_, haccount, fun client hturns => ?_, fun clients hothers hthrough => ?_⟩,
    fun shared client errand queue => Shared.run_alone, fun full hfull => ?_⟩
  · obtain ⟨n, hcounts, hn⟩ := hcounting.table
    exact ⟨n, (hreads _ n).mpr hcounts, hn⟩
  · rw [Shared.through_run memory queues registry hturns]
    rfl
  · rw [length_bumps]
    exact Shared.countP_log_of_through haccount hothers hthrough Errand.isBump
  · refine ⟨.storage (.counterOverflow reorgKey), rfl, ?_⟩
    rw [perform_onTable, eval_bumpReorgVersion, ((hreads full _).mp hfull).increment_max]
    rfl

/-- Two clients: both advance the counter and read it, and meanwhile one writes an allow-list that
the other one removes. -/
def twoClients : Bool → List Errand
  | true => [.bump, .upsert "acl.allowlist.a" "?" (by decide), .version]
  | false => [.bump, .remove .allowList "a", .bump, .version]

/-- The two have turns one after the other. -/
def twoTurns : List Bool := (List.replicate 8 [true, false]).flatten

/-- The two are given three advances of the counter, which stands for as many in the end. -/
theorem bumps_counted_two :
    (bumps ((Shared.start .empty twoClients).run .builtin twoTurns).log).length = 3 ∧
      ((onTable .builtin ((Shared.start .empty twoClients).run .builtin twoTurns).memory).perform
        (fun _ => reorgVersion) none).1 = some (.ok 3) ∧
      Settled .builtin 0 twoClients twoTurns
        ((Shared.start .empty twoClients).run .builtin twoTurns) := by
  have hempty : ((onTable .builtin .empty).perform (fun _ => reorgVersion) none).1 =
      some (.ok 0) := by
    rw [perform_onTable, eval_reorgVersion]
    rfl
  have hroom : (0 : Int64).toInt +
      (bumps ((Shared.start .empty twoClients).run .builtin twoTurns).log).length ≤
        Int64.maxValue.toInt := by
    have hlog := Shared.length_log_run .builtin (Shared.start .empty twoClients) twoTurns
    have hbumps := length_bumps_le ((Shared.start .empty twoClients).run .builtin twoTurns).log
    have hstart : (Shared.start .empty twoClients).log.length = 0 := rfl
    have hturns : twoTurns.length = 16 := rfl
    have hmax : Int64.maxValue.toInt = 2 ^ 63 - 1 := Int64.toInt_maxValue
    have hzero : (0 : Int64).toInt = 0 := rfl
    omega
  have hsettled := (bumps_counted .builtin .empty twoClients twoTurns 0 hempty hroom).1
  have hthree : (bumps ((Shared.start .empty twoClients).run .builtin twoTurns).log).length = 3 :=
    hsettled.asked Finset.univ (by simp) fun client _ =>
      hsettled.through client (by cases client <;> decide)
  obtain ⟨n, hread, hn⟩ := hsettled.stands
  rw [hthree] at hn
  obtain rfl : n = 3 := Int64.toInt_inj.mp hn
  exact ⟨hthree, hread, hsettled⟩

end Service

end PolicyStore
