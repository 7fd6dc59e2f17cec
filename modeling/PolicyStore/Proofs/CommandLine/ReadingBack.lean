import PolicyStore.Proofs.CommandLine.FeedingBack
import PolicyStore.Proofs.Service.Separation

/-!
# What commands print is read back

The JSON that commands print is read back as what was there: policies by themselves, the policies of a
domain in the order of their ids, values by record name. This holds of a service in memory whatever was
written into it, and of every policy that a load gives.
-/

namespace PolicyStore

open Json (Tree Denotes)

variable {domain : Domain}

/-! ## Policies of a table -/

/-- A policy that a table has is one that could be stored again, if the rows of the table fit. -/
theorem Memory.HasPolicy.keyed {memory : Memory} {policy : Policy domain}
    (hfits : ∀ (name : String) (row : Row), memory.rows[name]? = some row →
      overflow? name row.value = none) (h : memory.HasPolicy policy) : policy.Keyed := by
  obtain ⟨row, hrow, -⟩ := h.row
  obtain ⟨-, hkey, -⟩ := (overflow?_eq_none_iff _ _).mp (hfits _ row hrow)
  exact ⟨h.named, h.keepsRules, hkey⟩

/-! ## Showing a policy -/

/-- A command shows a policy: what it prints as JSON is a view of the policy, and what follows the
last mark of the table is fed back. -/
structure Prints (command : Command) (service : Service Memory) (policy : Policy domain) : Prop where
  json : ∀ files, ∃ report tree,
    (command.perform .json files service none).1 = some (.ok report) ∧
      Denotes report.text tree ∧ Views tree policy
  table : ∀ files, ∃ report payload,
    (command.perform .table files service none).1 = some (.ok report) ∧
      Text.FollowsLast "\npayload: " report.text payload ∧ FeedsBack policy payload

/-- A command fails, in either form, since a payload that it would print cannot be read again. -/
def Refused (command : Command) (service : Service Memory) : Prop :=
  ∀ format files, (command.perform format files service none).1 =
    some (.error Report.markedPayload)

/-- A command shows a policy unless its payload has the mark, and is refused then. -/
structure PrintsUnmarked (command : Command) (service : Service Memory) (policy : Policy domain) :
    Prop where
  prints : ¬domain.Marked policy.content → Prints command service policy
  refused : domain.Marked policy.content → Refused command service

theorem printsUnmarked_of_report {command : Command} {service : Service Memory}
    {policy : Policy domain} (h : policy.Keyed)
    (hreport : ∀ format files, (command.perform format files service none).1 =
      some (Command.shown (Report.policy format policy))) :
    PrintsUnmarked command service policy where
  prints hmark := by
    have hshown : ∀ format files, (command.perform format files service none).1 =
        some (.ok (.ofText (objectText format policy (.of (canonical policy))))) := by
      intro format files
      rw [hreport, Command.shown_policy_unmarked format h.keepsRules hmark]
    have hwf := domain.sorted_wellFormed policy.content
    constructor
    · exact fun files => ⟨_, _, hshown .json files,
        Json.denotes_indented (objectTree_wellFormed policy _), objectTree_views h hmark⟩
    · exact fun files => ⟨_, _, hshown .table files, objectText_followsLast policy _,
        feedsBack_of_spelled h (Tree.spellsDocument_compact _ hwf)⟩
  refused hmark format files := by
    rw [hreport, Command.shown_policy_marked format h.keepsRules hmark]

/-! ## Listing policies -/

/-- A text lists a snapshot: it denotes the views of its policies, in the order of their ids. -/
structure ListsViews (text : String) (snapshot : Snapshot domain) : Prop where
  views : ∃ trees, Denotes text (.list trees) ∧
    List.Forall₂ Views trees snapshot.items.values
  ascending : (snapshot.items.values.map Policy.id).Pairwise (· < ·)

/-- A snapshot is listed as JSON unless one of its policies has the mark, and not at all then. -/
structure ListsUnmarked (result : Command.Result) (snapshot : Snapshot domain) : Prop where
  lists : (∀ policy ∈ snapshot.items.values, ¬domain.Marked policy.content) →
    ∃ text, result = .ok (.ofText text) ∧ ListsViews text snapshot
  refused : (∃ policy ∈ snapshot.items.values, domain.Marked policy.content) →
    result = .error Report.markedPayload

theorem ids_ascending_of_held {snapshot : Snapshot domain} {memory : Memory}
    (h : snapshot.HeldBy memory) : (snapshot.items.values.map Policy.id).Pairwise (· < ·) := by
  have hkeys : snapshot.items.values.map Policy.id = snapshot.items.keys := by
    rw [values_eq_map_toList, List.map_map, ← Std.ExtTreeMap.map_fst_toList_eq_keys]
    refine List.map_congr_left fun item hitem => ?_
    exact (h item.1 item.2 (Std.ExtTreeMap.mem_toList_iff_getElem?_eq_some.mp hitem)).1
  rw [hkeys]
  exact keys_ascending snapshot.items

theorem listsUnmarked_of_held {snapshot : Snapshot domain} {memory : Memory}
    (hfits : ∀ (name : String) (row : Row), memory.rows[name]? = some row →
      overflow? name row.value = none) (h : snapshot.HeldBy memory) :
    ListsUnmarked (Command.shown (Report.snapshot .json snapshot)) snapshot := by
  have hkeyed : ∀ policy ∈ snapshot.items.values, policy.Keyed := by
    intro policy hpolicy
    obtain ⟨id, hitem⟩ := mem_values_iff.mp hpolicy
    exact (h id policy hitem).2.keyed hfits
  have hkeeps := fun policy hpolicy => (hkeyed policy hpolicy).keepsRules
  constructor
  · intro hmark
    obtain ⟨text, hshown, htext⟩ := Command.shown_snapshot_unmarked hkeeps hmark
    refine ⟨text, hshown, ⟨_, htext, ?_⟩, ids_ascending_of_held h⟩
    rw [List.forall₂_map_left_iff, List.forall₂_same]
    exact fun policy hpolicy => objectTree_views (hkeyed policy hpolicy) (hmark policy hpolicy)
  · exact Command.shown_snapshot_marked hkeeps

/-! ## Values by record name -/

/-- Getting records succeeds just when there is one, and what is printed as JSON denotes the values of
those that there are. -/
structure PrintsValues (service : Service Memory) (names : List String) : Prop where
  succeeds : ∀ files,
    (∃ report, ((Command.getRecords names).perform .json files service none).1 =
      some (.ok report)) ↔ ∃ name ∈ names, name ∈ service.state.rows
  values : ∀ files report,
    ((Command.getRecords names).perform .json files service none).1 = some (.ok report) →
      ∃ values : Service.Values,
        (∀ name : String, values[name]? =
          if name ∈ names then service.state.rows[name]?.map Row.value else none) ∧
        Denotes report.text
          (.object (values.toList.map fun (name, value) => (name, .text value)))

theorem Service.valuesOf_loadRecords (memory : Memory) (names : List String) (name : String) :
    (valuesOf (memory.loadRecords names))[name]? =
      if name ∈ names then memory.rows[name]?.map Row.value else none := by
  have hheld : ∀ record ∈ memory.loadRecords names, record.name = name →
      name ∈ names ∧ memory.rows[name]?.map Row.value = some record.value := by
    rintro record hrecord rfl
    obtain ⟨given, hgiven, hload⟩ := Memory.mem_loadRecords_iff.mp hrecord
    obtain ⟨row, hrow, rfl⟩ := Memory.loadByName_eq_some_iff.mp hload
    rw [Row.record_name, Row.record_value, hrow]
    exact ⟨hgiven, rfl⟩
  refine Option.ext fun value => ?_
  rw [Option.ite_none_right_eq_some]
  constructor
  · intro hvalue
    have hput : ((memory.loadRecords names).foldl
        (put Record.name fun record => some record.value) ∅)[name]? = some value := hvalue
    obtain ⟨record, hrecord, hname, hsome⟩ := (exists_of_foldl_put hput).resolve_right (by simp)
    rw [← hsome]
    exact hheld record hrecord hname
  · rintro ⟨hgiven, hvalue⟩
    obtain ⟨row, hrow, -⟩ := Option.map_eq_some_iff.mp hvalue
    have hrecord : row.record name ∈ memory.loadRecords names :=
      Memory.mem_loadRecords_iff.mpr
        ⟨name, hgiven, Memory.loadByName_eq_some_iff.mpr ⟨row, hrow, rfl⟩⟩
    have hsame : ∀ record ∈ memory.loadRecords names, record.name = name →
        some record.value = some value :=
      fun record hother hname => (hheld record hother hname).2.symm.trans hvalue
    exact foldl_put_of_same hsame (.inl ⟨_, hrecord, Row.record_name name row⟩)

theorem Report.denotes_values (values : Service.Values) :
    Denotes (Report.values .json values)
      (.object (values.toList.map fun (name, value) => (name, .text value))) := by
  refine Json.denotes_indented ((Tree.membersWellFormed_iff _).mpr fun member hmember => ?_)
  obtain ⟨item, -, rfl⟩ := List.mem_map.mp hmember
  trivial

theorem printsValues_onTable (registry : Registry) (memory : Memory) (names : List String) :
    PrintsValues (Service.onTable registry memory) names := by
  have hperform : ∀ files,
      ((Command.getRecords names).perform .json files (Service.onTable registry memory) none).1 =
        some (Command.valuesFound .json names (Service.valuesOf (memory.loadRecords names))) :=
    fun files => Command.perform_onTable _ (Service.loadByNames names)
      (Command.valuesFound .json names) rfl rfl
  have hvalues := Service.valuesOf_loadRecords memory names
  have hempty : (Service.valuesOf (memory.loadRecords names)).isEmpty = false ↔
      ∃ name ∈ names, name ∈ memory.rows := by
    rw [Std.ExtTreeMap.isEmpty_eq_false_iff, Std.ExtTreeMap.eq_empty_iff_forall_not_mem]
    simp only [Std.ExtTreeMap.mem_iff_isSome_getElem?, hvalues, not_forall, not_not]
    refine exists_congr fun name => ?_
    split <;> simp [*]
  constructor
  · intro files
    rw [hperform, Command.valuesFound]
    refine Iff.trans ?_ hempty
    cases (Service.valuesOf (memory.loadRecords names)).isEmpty <;> simp
  · intro files report hreport
    rw [hperform, Command.valuesFound] at hreport
    split at hreport
    next => cases hreport
    next =>
      cases hreport
      exact ⟨_, hvalues, Report.denotes_values _⟩

/-! ## Services -/

namespace Service

/-- A load, whatever may interrupt it, gives a snapshot of a domain. -/
inductive GivesSnapshot (service : Service Memory) :
    {domain : Domain} → Snapshot domain → Prop
  | all {domain : Domain} {snapshot : Snapshot domain} {interrupt : Interrupt} {signal : Option Nat}
      (h : ((service.under interrupt).perform (loadAll · domain) signal).1 =
        some (.ok snapshot)) : GivesSnapshot service snapshot
  | strategies {config : RateLimitConfig} {interrupt : Interrupt} {signal : Option Nat}
      (h : ((service.under interrupt).perform loadRateLimitConfig signal).1 =
        some (.ok config)) : GivesSnapshot service config.strategies
  | allowLists {config : RateLimitConfig} {interrupt : Interrupt} {signal : Option Nat}
      (h : ((service.under interrupt).perform loadRateLimitConfig signal).1 =
        some (.ok config)) : GivesSnapshot service config.allowLists

/-- A load, whatever may interrupt it, gives a policy. -/
inductive Gives (service : Service Memory) : {domain : Domain} → Policy domain → Prop
  | byName {domain : Domain} {policy : Policy domain} {name : String} {interrupt : Interrupt}
      {signal : Option Nat} (h : ((service.under interrupt).perform (load · domain name) signal).1 =
        some (.ok policy)) : Gives service policy
  | byId {domain : Domain} {policy : Policy domain} {id : RecordId} {interrupt : Interrupt}
      {signal : Option Nat} (h : ((service.under interrupt).perform (loadById · domain id) signal).1 =
        some (.ok policy)) : Gives service policy
  | snapshot {domain : Domain} {snapshot : Snapshot domain} {policy : Policy domain} {id : RecordId}
      (h : GivesSnapshot service snapshot) (hitem : snapshot.items[id]? = some policy) :
      Gives service policy
  | delta {domain : Domain} {previous : Fingerprints} {delta : Delta domain}
      {policy : Policy domain} {id : RecordId} {interrupt : Interrupt} {signal : Option Nat}
      (h : ((service.under interrupt).perform (loadChanged · domain previous) signal).1 =
        some (.ok delta)) (hitem : delta.changed[id]? = some policy) : Gives service policy
  | routeGroup {names : List String} {groups : RouteGroups} {name : String}
      {group : Policy .routeGroup} {interrupt : Interrupt} {signal : Option Nat}
      (h : ((service.under interrupt).perform (loadRouteGroups · names) signal).1 =
        some (.ok groups)) (hitem : groups[name]? = some group) : Gives service group

variable {memory : Memory}

theorem GivesSnapshot.heldBy {snapshot : Snapshot domain}
    (h : GivesSnapshot (onTable .builtin memory) snapshot) : snapshot.HeldBy memory := by
  have hheld := givesHeld_onTable memory
  cases h with
  | all h => exact hheld.loadAll _ _ _ _ h
  | strategies h => exact (hheld.loadRateLimitConfig _ _ _ h).1
  | allowLists h => exact (hheld.loadRateLimitConfig _ _ _ h).2

theorem Gives.hasPolicy {policy : Policy domain}
    (h : Gives (onTable .builtin memory) policy) : memory.HasPolicy policy := by
  have hheld := givesHeld_onTable memory
  cases h with
  | byName h => exact (hheld.load _ _ _ _ _ h).2
  | byId h => exact (hheld.loadById _ _ _ _ _ h).2
  | snapshot h hitem => exact (h.heldBy _ _ hitem).2
  | delta h hitem => exact (hheld.loadChanged _ _ _ _ _ h _ _ hitem).2
  | routeGroup h hitem => exact (hheld.loadRouteGroups _ _ _ _ h _ _ hitem).2

/-- What commands print of a service is read back as what its loads give, and they fail where the
payload of a strategy has the mark of an embedded document. -/
structure ReadsBack (service : Service Memory) : Prop where
  shown : ∀ {domain : Domain} {policy : Policy domain}, Gives service policy →
    PrintsUnmarked (.showPolicy domain policy.name) service policy
  shownById : ∀ {domain : Domain} {policy : Policy domain} {id interrupt signal},
    ((service.under interrupt).perform (loadById · domain id) signal).1 = some (.ok policy) →
      PrintsUnmarked (.showPolicyById domain id) service policy
  snapshots : ∀ {domain : Domain} {snapshot : Snapshot domain}, GivesSnapshot service snapshot →
    ListsUnmarked (Command.shown (Report.snapshot .json snapshot)) snapshot
  listed : ∀ (domain : Domain) files, ∃ snapshot result,
    (service.perform (loadAll · domain) none).1 = some (.ok snapshot) ∧
      ((Command.listPolicies domain).perform .json files service none).1 = some result ∧
        ListsUnmarked result snapshot
  values : ∀ names, PrintsValues service names

theorem readsBack_onTable {memory : Memory}
    (hfits : ∀ (name : String) (row : Row), memory.rows[name]? = some row →
      overflow? name row.value = none) : ReadsBack (onTable .builtin memory) := by
  constructor
  · intro domain policy hgives
    have hpolicy := hgives.hasPolicy
    refine printsUnmarked_of_report (hpolicy.keyed hfits) fun format files => ?_
    have hload := (eval_load_eq_ok_iff (builtin_isRegistered domain)).mpr ⟨rfl, hpolicy⟩
    exact Command.perform_onTable _ _ (fun policy => Command.shown (Report.policy format policy))
      rfl hload
  · intro domain policy id interrupt signal hgives
    obtain ⟨-, hload⟩ := perform_eq_ok_iff.mp hgives
    refine printsUnmarked_of_report ((Gives.byId hgives).hasPolicy.keyed hfits) fun format files => ?_
    exact Command.perform_onTable _ _ (fun policy => Command.shown (Report.policy format policy))
      rfl hload
  · intro domain snapshot hgives
    exact listsUnmarked_of_held hfits hgives.heldBy
  · intro domain files
    have hload := eval_loadAll (builtin_isRegistered domain) memory
    refine ⟨_, _, ?_, Command.perform_onTable _ _
      (fun snapshot => Command.shown (Report.snapshot .json snapshot)) rfl hload,
      listsUnmarked_of_held hfits (Snapshot.heldBy_loaded _ domain)⟩
    rw [perform_onTable, hload]
  · exact printsValues_onTable .builtin _

/-- Whatever was written into a service before, what its commands print is read back. -/
theorem output_reads_back (calls : List Call) : ReadsBack ((inMemory .builtin).after calls) := by
  obtain ⟨requests, hrequests⟩ := after_requests .builtin .empty calls
  rw [inMemory_eq, hrequests]
  exact readsBack_onTable (Memory.fits_after requests)

/-! ## Policies with deceptive texts -/

/-- Writes a record. -/
def writing (name value : String) : Call where
  action := .upsert name value

/-- A record that is written into an empty table is there with the first id. -/
theorem after_writing {name value : String} (h : overflow? name value = none) :
    (inMemory .builtin).after [writing name value] =
      onTable .builtin (Memory.empty.create name value).2 := by
  have hcreated : Memory.empty.upsert name value =
      (.ok 1, (Memory.empty.create name value).2) := by
    rw [Memory.upsert, h]
    rfl
  have hunder : (onTable .builtin Memory.empty).under .unbounded = onTable .builtin .empty := rfl
  rw [inMemory_eq, after, List.foldl_cons, List.foldl_nil, afterCall, writing, hunder, act,
    perform_onTable]
  simp only [upsert, Operation.eval, Program.eval_request, Memory.answer, hcreated]
  rfl

theorem gives_written {name value : String} (h : overflow? name value = none)
    {policy : Policy domain}
    (hpolicy : Policy.ofRecord domain (Row.record name ⟨1, value, 1, 1⟩) = .ok policy) :
    Gives ((inMemory .builtin).after [writing name value]) policy := by
  have hrow : (Memory.empty.create name value).2.rows[name]? = some ⟨1, value, 1, 1⟩ := by
    rw [Memory.create_rows, if_pos rfl]
    rfl
  have hload := (eval_load_eq_ok_iff (builtin_isRegistered domain)).mpr
    ⟨rfl, (Memory.hasPolicy_of_row hrow hpolicy).2⟩
  have hgiven : (((onTable .builtin (Memory.empty.create name value).2).under .unbounded).perform
      (load · domain policy.name) none).1 = some (.ok policy) :=
    perform_eq_ok_iff.mpr ⟨rfl, hload⟩
  rw [after_writing h]
  exact .byName hgiven

/-- A payload with an entry that looks like the line of a payload. -/
def linePayload : String :=
  "\x7b\"user_agents\":[\"x\\npayload: y\"],\"methods\":[]\x7d"

/-- The allow-list of this payload, the name of which looks like this line too. -/
def lineList : Policy .allowList :=
  ⟨1, "a\npayload: b", ⟨false, ["x\npayload: y"], [], [], []⟩⟩

theorem lineList_given :
    Gives ((inMemory .builtin).after [writing "acl.allowlist.a\npayload: b" linePayload])
      lineList := by
  refine gives_written (by decide) ?_
  with_unfolding_all rfl

/-- The payload follows the last mark, although the name has one too. -/
theorem output_reads_back_lines :
    Prints (.showPolicy .allowList "a\npayload: b")
        ((inMemory .builtin).after [writing "acl.allowlist.a\npayload: b" linePayload]) lineList ∧
      PrintsValues ((inMemory .builtin).after [writing "acl.allowlist.a\npayload: b" linePayload])
        ["missing", "acl.allowlist.a\npayload: b"] :=
  ⟨((output_reads_back [writing _ linePayload]).shown lineList_given).prints fun hmark => hmark,
    (output_reads_back [writing _ linePayload]).values _⟩

/-- A payload whose one rule has the mark of an embedded document for its key. -/
def markedPayload : String :=
  "\x7b\"algo\":\"fixed_window\",\"rules\":\x7b\"$serde_json::private::RawValue\":\x7b\"interval_ms\":1,\"quota\":1\x7d\x7d\x7d"

/-- The strategy of this payload. -/
def markedStrategy : Policy .strategy :=
  ⟨1, "x", Strategy.empty .fixedWindow |>.withRule Json.Reader.embeddingMark ⟨1, 1⟩⟩

theorem markedStrategy_marked : markedStrategy.content.Marked :=
  Std.ExtTreeMap.minKey?_insert_of_isEmpty Std.ExtTreeMap.isEmpty_empty

/-- The tree of this payload. -/
def markedTree : Tree :=
  .object [("algo", .text "fixed_window"),
    ("rules", .object [(Json.Reader.embeddingMark,
      .object [("interval_ms", .ofNat 1), ("quota", .ofNat 1)])])]

theorem markedStrategy_given :
    Gives ((inMemory .builtin).after [writing "ratelimit.strategy.x" markedPayload])
      markedStrategy := by
  have hwf : markedTree.WellFormed := by
    simp [markedTree, Tree.WellFormed, Tree.MembersWellFormed, Tree.ofNat,
      Json.Numeral.wellFormed_ofNat]
  have hspelled : Json.SpellsDocument markedTree markedPayload.toList :=
    Tree.spellsDocument_compact markedTree hwf
  have hkeeps : markedStrategy.content.KeepsRules :=
    (Strategy.keepsRules_empty _).withRule ⟨by decide, by decide, by decide⟩
  have hpayload : Policy.ofPayload .strategy 1 "x" markedPayload = .ok markedStrategy :=
    (Policy.ofPayload_of_readContent_ok (Policy.readContent_meaning hspelled rfl "x") 1).1 hkeeps
  exact gives_written (by decide) hpayload

/-- A strategy that a load gives is not shown when its payload has the mark. -/
theorem marked_not_shown :
    Gives ((inMemory .builtin).after [writing "ratelimit.strategy.x" markedPayload])
        markedStrategy ∧
      ¬Prints (.showPolicy .strategy "x")
        ((inMemory .builtin).after [writing "ratelimit.strategy.x" markedPayload])
        markedStrategy := by
  refine ⟨markedStrategy_given, fun hprints => ?_⟩
  obtain ⟨requests, hrequests⟩ :=
    after_requests .builtin .empty [writing "ratelimit.strategy.x" markedPayload]
  have hreads := readsBack_onTable (Memory.fits_after requests)
  rw [← hrequests, ← inMemory_eq] at hreads
  have hrefused := (hreads.shown markedStrategy_given).refused markedStrategy_marked
  obtain ⟨report, tree, hreport, -⟩ := hprints.json noFiles
  have hboth := hreport.symm.trans (hrefused .json noFiles)
  simp at hboth

end Service

end PolicyStore
