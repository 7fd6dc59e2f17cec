import PolicyStore.Proofs.CommandLine.Performing
import PolicyStore.Proofs.CommandLine.Viewing
import PolicyStore.Proofs.Digest.Blake3
import PolicyStore.Proofs.Policy.RoundTrip
import PolicyStore.Proofs.Service.Finding
import PolicyStore.Proofs.Service.Polling

/-!
# The fingerprints that commands print

A policy that is shown by itself, or listed as JSON, is printed with the fingerprint of the payload
that it would be stored as now. A load of its domain, and the listing as a table, have the
fingerprint of the value that is stored. The two agree on rows that hold just this payload, which
other spellings of the same policy do not. A policy whose payload has the mark of an embedded document
is not printed at all but in a table of its domain.
-/

namespace PolicyStore

variable {domain : Domain}

/-! ## What is printed -/

/-- No policy of a domain in the table has the mark. -/
def Memory.Unmarked (memory : Memory) (domain : Domain) : Prop :=
  ∀ policy : Policy domain, memory.HasPolicy policy → ¬domain.Marked policy.content

/-- The commands that show a single policy print a fingerprint. -/
structure Shows (service : Service Memory) (policy : Policy domain) (fingerprint : Fingerprint) :
    Prop where
  byName : ∀ format files,
    ((Command.showPolicy domain policy.name).perform format files service none).1 =
      some (.ok (.ofText (objectText format policy fingerprint)))
  byId : ∀ format files,
    ((Command.showPolicyById domain policy.id).perform format files service none).1 =
      some (.ok (.ofText (objectText format policy fingerprint)))

/-- The listing of a domain as JSON prints a fingerprint of a policy. -/
def ListsObject (service : Service Memory) (policy : Policy domain) (fingerprint : Fingerprint) :
    Prop :=
  ∀ files, ∃ text trees,
    ((Command.listPolicies domain).perform .json files service none).1 = some (.ok (.ofText text)) ∧
      Json.Denotes text (.list trees) ∧ objectTree policy fingerprint ∈ trees

/-- A load of the domain has a fingerprint for a policy, and the listing as a table prints the first
digits of it. -/
structure Lists (service : Service Memory) (policy : Policy domain) (fingerprint : Fingerprint) :
    Prop where
  loaded : ∃ snapshot, (service.perform (Service.loadAll · domain) none).1 = some (.ok snapshot) ∧
    snapshot.items[policy.id]? = some policy ∧
    snapshot.fingerprints[policy.id]? = some fingerprint
  listed : ∀ files, ∃ rows,
    Report.row (toString policy.id) policy.name fingerprint.short (domain.summary policy.content) ∈
      rows ∧
    ((Command.listPolicies domain).perform .table files service none).1 =
      some (.ok (.ofText (Report.lines rows)))

/-- The commands that show a single policy fail, since its payload cannot be read again. -/
structure Refuses (service : Service Memory) (policy : Policy domain) : Prop where
  byName : ∀ format files,
    ((Command.showPolicy domain policy.name).perform format files service none).1 =
      some (.error Report.markedPayload)
  byId : ∀ format files,
    ((Command.showPolicyById domain policy.id).perform format files service none).1 =
      some (.error Report.markedPayload)

/-- The listing of a domain as JSON fails. -/
def RefusesList (service : Service Memory) (domain : Domain) : Prop :=
  ∀ files, ((Command.listPolicies domain).perform .json files service none).1 =
    some (.error Report.markedPayload)

section Table

variable {registry : Registry} {memory : Memory} {name : String} {row : Row}
  {policy : Policy domain}

/-- The commands that show a single policy of a table. -/
theorem perform_show (hregistered : registry.isRegistered domain.namePrefix = true)
    (distinct : memory.DistinctIds) (h : memory.HasPolicy policy) (format : OutputFormat)
    (files : Files) :
    ((Command.showPolicy domain policy.name).perform format files
        (Service.onTable registry memory) none).1 =
      some (Command.shown (Report.policy format policy)) ∧
    ((Command.showPolicyById domain policy.id).perform format files
        (Service.onTable registry memory) none).1 =
      some (Command.shown (Report.policy format policy)) := by
  have hload := (Service.eval_load_eq_ok_iff hregistered).mpr ⟨rfl, h⟩
  have hloadById := (Service.eval_loadById_eq_ok_iff hregistered distinct).mpr ⟨rfl, h⟩
  exact ⟨Command.perform_onTable _ _
      (fun policy => Command.shown (Report.policy format policy)) rfl hload,
    Command.perform_onTable _ _
      (fun policy => Command.shown (Report.policy format policy)) rfl hloadById⟩

theorem perform_list (hregistered : registry.isRegistered domain.namePrefix = true)
    (memory : Memory) (format : OutputFormat) (files : Files) :
    ((Command.listPolicies domain).perform format files (Service.onTable registry memory) none).1 =
      some (Command.shown (Report.snapshot format (memory.snapshot domain))) :=
  Command.perform_onTable (.listPolicies domain) _
    (fun snapshot => Command.shown (Report.snapshot format snapshot)) rfl
    (Service.eval_loadAll hregistered memory)

theorem shows_canonical (hregistered : registry.isRegistered domain.namePrefix = true)
    (distinct : memory.DistinctIds) (h : memory.HasPolicy policy)
    (hmark : ¬domain.Marked policy.content) :
    Shows (Service.onTable registry memory) policy (.of (canonical policy)) := by
  have hshown := fun format => Command.shown_policy_unmarked format h.keepsRules hmark
  refine ⟨fun format files => ?_, fun format files => ?_⟩
  · rw [(perform_show hregistered distinct h format files).1, hshown]
  · rw [(perform_show hregistered distinct h format files).2, hshown]

theorem refuses_marked (hregistered : registry.isRegistered domain.namePrefix = true)
    (distinct : memory.DistinctIds) (h : memory.HasPolicy policy)
    (hmark : domain.Marked policy.content) :
    Refuses (Service.onTable registry memory) policy := by
  have hshown := fun format => Command.shown_policy_marked format h.keepsRules hmark
  refine ⟨fun format files => ?_, fun format files => ?_⟩
  · rw [(perform_show hregistered distinct h format files).1, hshown]
  · rw [(perform_show hregistered distinct h format files).2, hshown]

theorem keepsRules_of_mem {snapshot : Snapshot domain} (hheld : snapshot.HeldBy memory)
    (h : policy ∈ snapshot.items.values) : domain.KeepsRules policy.content := by
  obtain ⟨id, hitem⟩ := mem_values_iff.mp h
  exact (hheld id policy hitem).2.keepsRules

/-- The policies of a domain, as the listing as JSON has them. -/
def objectTrees (memory : Memory) (domain : Domain) : List Json.Tree :=
  (memory.snapshot domain).items.values.map fun policy =>
    objectTree policy (.of (canonical policy))

theorem lists_objectTrees (hregistered : registry.isRegistered domain.namePrefix = true)
    (distinct : memory.DistinctIds) (hmark : memory.Unmarked domain) (files : Files) :
    ∃ text, ((Command.listPolicies domain).perform .json files
          (Service.onTable registry memory) none).1 = some (.ok (.ofText text)) ∧
      Json.Denotes text (.list (objectTrees memory domain)) := by
  obtain ⟨text, hshown, htext⟩ := Command.shown_snapshot_unmarked
    (fun policy => keepsRules_of_mem (Snapshot.heldBy_loaded memory domain))
    fun policy hpolicy => hmark policy ((Memory.mem_snapshot_values_iff distinct).mp hpolicy)
  exact ⟨text, by rw [perform_list hregistered, hshown], htext⟩

theorem lists_canonical (hregistered : registry.isRegistered domain.namePrefix = true)
    (distinct : memory.DistinctIds) (h : memory.HasPolicy policy)
    (hmark : memory.Unmarked domain) :
    ListsObject (Service.onTable registry memory) policy (.of (canonical policy)) := by
  intro files
  obtain ⟨text, hperform, htext⟩ := lists_objectTrees hregistered distinct hmark files
  refine ⟨text, _, hperform, htext, List.mem_map.mpr ⟨policy, ?_, rfl⟩⟩
  exact (Memory.mem_snapshot_values_iff distinct).mpr h

theorem refusesList_marked (hregistered : registry.isRegistered domain.namePrefix = true)
    (distinct : memory.DistinctIds) (hmark : ¬memory.Unmarked domain) :
    RefusesList (Service.onTable registry memory) domain := by
  intro files
  simp only [Memory.Unmarked, not_forall, not_not] at hmark
  obtain ⟨marked, hmarked, hmark⟩ := hmark
  rw [perform_list hregistered, Command.shown_snapshot_marked
    (fun policy => keepsRules_of_mem (Snapshot.heldBy_loaded memory domain))
    ⟨marked, (Memory.mem_snapshot_values_iff distinct).mpr hmarked, hmark⟩]

theorem lists_stored (hregistered : registry.isRegistered domain.namePrefix = true)
    (distinct : memory.DistinctIds) (hrow : memory.rows[name]? = some row)
    (hpolicy : Policy.ofRecord domain (row.record name) = .ok policy) :
    Lists (Service.onTable registry memory) policy (.of row.value) := by
  obtain ⟨hid, hnamed, rfl⟩ := Policy.ofRecord_row hpolicy
  have hrecord : row.record (domain.key policy.name) ∈ memory.loadByPrefix domain.namePrefix :=
    Memory.record_mem_loadByPrefix hrow (startsWith_key domain policy.name)
  have hitem := (Snapshot.decode_items (distinct.loadByPrefix _) _ _).mpr
    ⟨_, hrecord, hid.symm, hpolicy⟩
  have hfingerprint := (Snapshot.decode_fingerprints (distinct.loadByPrefix _) _ _).mpr
    ⟨_, hrecord, hid.symm, ⟨policy, hpolicy⟩, rfl⟩
  constructor
  · refine ⟨_, ?_, hitem, hfingerprint⟩
    rw [Service.perform_onTable, Service.eval_loadAll hregistered]
  · intro files
    refine ⟨_, ?_, perform_list hregistered memory .table files⟩
    refine List.mem_cons_of_mem _ (List.mem_map.mpr ⟨(policy.id, policy), ?_, ?_⟩)
    · exact Std.ExtTreeMap.mem_toList_iff_getElem?_eq_some.mpr hitem
    · change Report.policyRow _ policy.id policy = _
      rw [Report.policyRow, hfingerprint]
      rfl

end Table

/-! ## Two texts of one policy -/

theorem hex_eq_of_objectText {policy : Policy domain} {a b : Fingerprint}
    (h : objectText .table policy a = objectText .table policy b) : a.hex = b.hex := by
  have hlines : ∀ fingerprint : Fingerprint, objectText .table policy fingerprint =
      "kind: " ++ domain.label ++ "\n" ++ ("id: " ++ toString policy.id) ++ "\n" ++
        ("name: " ++ policy.name) ++ "\n" ++ ("fingerprint: " ++ fingerprint.hex) ++ "\n" ++
        ("summary: " ++ domain.summary policy.content) ++ "\n" ++
        ("payload: " ++ (domain.tree policy.content).sorted.compact) := fun _ => rfl
  rw [hlines, hlines] at h
  simpa only [String.append_left_inj, String.append_right_inj] using h

theorem objectTree_congr (policy : Policy domain) {a b : Fingerprint} (h : a.hex = b.hex) :
    objectTree policy a = objectTree policy b := by
  rw [objectTree, objectTree, h]

theorem Shows.congr {service : Service Memory} {policy : Policy domain} {a b : Fingerprint}
    (ha : Shows service policy a) (h : a.hex = b.hex) : Shows service policy b := by
  have htext : ∀ format, objectText format policy a = objectText format policy b := by
    intro format
    cases format with
    | json => exact congrArg Json.Tree.indented (objectTree_congr policy h)
    | table => rw [objectText, objectText, h]
  refine ⟨fun format files => ?_, fun format files => ?_⟩
  · rw [← htext]
    exact ha.byName format files
  · rw [← htext]
    exact ha.byId format files

/-- No service shows two fingerprints of a policy. -/
theorem Shows.hex_eq {service : Service Memory} {policy : Policy domain} {a b : Fingerprint}
    (ha : Shows service policy a) (hb : Shows service policy b) : a.hex = b.hex := by
  have htexts := (ha.byName .table noFiles).symm.trans (hb.byName .table noFiles)
  simp only [Option.some.injEq, Except.ok.injEq, Report.ofText, Report.mk.injEq] at htexts
  exact hex_eq_of_objectText htexts.1

theorem Shows.not_refuses {service : Service Memory} {policy : Policy domain}
    {fingerprint : Fingerprint} (h : Shows service policy fingerprint) : ¬Refuses service policy := by
  intro hrefuses
  have hboth := (h.byName .json noFiles).symm.trans (hrefuses.byName .json noFiles)
  simp at hboth

theorem ListsObject.congr {service : Service Memory} {policy : Policy domain} {a b : Fingerprint}
    (ha : ListsObject service policy a) (h : a.hex = b.hex) : ListsObject service policy b := by
  rw [ListsObject, ← objectTree_congr policy h]
  exact ha

theorem ListsObject.not_refusesList {service : Service Memory} {policy : Policy domain}
    {fingerprint : Fingerprint} (h : ListsObject service policy fingerprint) :
    ¬RefusesList service domain := by
  intro hrefuses
  obtain ⟨text, trees, hperform, -⟩ := h noFiles
  have hboth := hperform.symm.trans (hrefuses noFiles)
  simp at hboth

/-- Of a policy of the table the listing as JSON has no other fingerprint. -/
theorem ListsObject.hex_eq {registry : Registry} {memory : Memory} {policy : Policy domain}
    {fingerprint : Fingerprint} (hregistered : registry.isRegistered domain.namePrefix = true)
    (distinct : memory.DistinctIds) (h : memory.HasPolicy policy)
    (hmark : memory.Unmarked domain)
    (hlisted : ListsObject (Service.onTable registry memory) policy fingerprint) :
    (Fingerprint.of (canonical policy)).hex = fingerprint.hex := by
  obtain ⟨text, trees, hperform, htext, hmem⟩ := hlisted noFiles
  obtain ⟨same, hsame, hdenotes⟩ := lists_objectTrees hregistered distinct hmark noFiles
  rw [hperform] at hsame
  simp only [Option.some.injEq, Except.ok.injEq, Report.ofText, Report.mk.injEq] at hsame
  rw [hsame.1] at htext
  obtain rfl : trees = objectTrees memory domain := by
    simpa using hdenotes.only _ htext.spelled
  obtain ⟨other, hother, htree⟩ := List.mem_map.mp hmem
  simp only [objectTree, Json.Tree.object.injEq, List.cons.injEq, Prod.mk.injEq, true_and,
    Json.Tree.text.injEq] at htree
  obtain ⟨-, hname, hhex, -⟩ := htree
  have hhas := (Memory.mem_snapshot_values_iff distinct).mp hother
  obtain rfl := hhas.eq_of_name h hname
  exact hhex

namespace Service

/-- What commands print of a row that decodes: by itself, or listed as JSON, with the fingerprint of
the payload that its policy would be stored as, and listed as a table with that of the value that is
stored. The former is the fingerprint of the value just when the two are the same, and it is printed
just when nothing that is printed with it has the mark. -/
structure PrintsFingerprints (service : Service Memory) (row : Row) (policy : Policy domain) :
    Prop where
  shown : ¬domain.Marked policy.content → Shows service policy (.of (canonical policy))
  refused : domain.Marked policy.content → Refuses service policy
  listed : service.state.Unmarked domain → ListsObject service policy (.of (canonical policy))
  refusedList : ¬service.state.Unmarked domain → RefusesList service domain
  stored : Lists service policy (.of row.value)
  shown_iff : Shows service policy (.of row.value) ↔ ¬domain.Marked policy.content ∧
    (Fingerprint.of (canonical policy)).hex = (Fingerprint.of row.value).hex
  listed_iff : ListsObject service policy (.of row.value) ↔ service.state.Unmarked domain ∧
    (Fingerprint.of (canonical policy)).hex = (Fingerprint.of row.value).hex

/-- What is printed of the rows of a service in memory, whatever was done to it. -/
theorem printed_fingerprints (calls : List Call)
    (hcreated : (inMemory .builtin).creations calls < 2 ^ 63) (domain : Domain) (name : String)
    (row : Row) (hrow : ((inMemory .builtin).after calls).state.rows[name]? = some row)
    (policy : Policy domain) (hpolicy : Policy.ofRecord domain (row.record name) = .ok policy) :
    PrintsFingerprints ((inMemory .builtin).after calls) row policy := by
  obtain ⟨memory, hmemory, hsound⟩ := after_inMemory .builtin hcreated
  rw [hmemory] at hrow ⊢
  have hregistered := builtin_isRegistered domain
  have distinct := hsound.distinct
  have hhas := (Memory.hasPolicy_of_row hrow hpolicy).2
  have hshown := shows_canonical hregistered distinct hhas
  have hrefused := refuses_marked hregistered distinct hhas
  have hlisted := lists_canonical hregistered distinct hhas
  have hrefusedList : ¬memory.Unmarked domain → RefusesList (onTable .builtin memory) domain :=
    refusesList_marked hregistered distinct
  refine ⟨hshown, hrefused, hlisted, hrefusedList, lists_stored hregistered distinct hrow hpolicy,
    ⟨fun h => ?_, fun h => (hshown h.1).congr h.2⟩, ⟨fun h => ?_, fun h => (hlisted h.1).congr h.2⟩⟩
  · have hmark : ¬domain.Marked policy.content := fun hmark => h.not_refuses (hrefused hmark)
    exact ⟨hmark, (hshown hmark).hex_eq h⟩
  · have hmark : memory.Unmarked domain :=
      Classical.not_not.mp fun hmark => h.not_refusesList (hrefusedList hmark)
    exact ⟨hmark, h.hex_eq hregistered distinct hhas hmark⟩

/-- The row of an allow-list whose document is the empty object. -/
def emptyRow : Row := ⟨1, "\x7b\x7d", 1, 1⟩

/-- The allow-list of this row. -/
def emptyList : Policy .allowList := ⟨1, "a", ⟨false, [], [], [], []⟩⟩

theorem emptyRow_held :
    ((inMemory .builtin).after [writeEmpty]).state.rows["acl.allowlist.a"]? = some emptyRow := by
  change (Memory.empty.create "acl.allowlist.a" "\x7b\x7d").2.rows["acl.allowlist.a"]? = _
  rw [Memory.create_rows, if_pos rfl]
  rfl

theorem emptyRow_decodes :
    Policy.ofRecord .allowList (emptyRow.record "acl.allowlist.a") = .ok emptyList := by
  with_unfolding_all rfl

theorem creations_empty : (inMemory .builtin).creations [writeEmpty] < 2 ^ 63 :=
  Nat.lt_of_le_of_lt (creations_le_length _ _ _) (by decide)

theorem printed_fingerprints_empty :
    PrintsFingerprints ((inMemory .builtin).after [writeEmpty]) emptyRow emptyList :=
  printed_fingerprints [writeEmpty] creations_empty .allowList "acl.allowlist.a" emptyRow
    emptyRow_held emptyList emptyRow_decodes

theorem hex_empty_ne :
    (Fingerprint.of (canonical emptyList)).hex ≠ (Fingerprint.of emptyRow.value).hex := by
  have hcanonical : canonical emptyList = "\x7b\"enabled\":false\x7d" := by rfl
  have hbytes : Text.hex (Digest.Blake3.hash (Text.utf8 "\x7b\"enabled\":false\x7d".toList)) ≠
      Text.hex (Digest.Blake3.hash (Text.utf8 emptyRow.value.toList)) := by
    rw [Digest.Blake3.hash_of_short (by decide), Digest.Blake3.hash_of_short (by decide)]
    decide +kernel
  rw [hcanonical]
  exact fun h => hbytes (String.ofList_injective h)

/-- A value may be another text than the payload of the policy that it stands for, and then what is
shown is not the fingerprint of the value. -/
theorem shown_fingerprint_empty :
    ((inMemory .builtin).after [writeEmpty]).state.rows["acl.allowlist.a"]? = some emptyRow ∧
      Policy.ofRecord .allowList (emptyRow.record "acl.allowlist.a") = .ok emptyList ∧
      ¬Shows ((inMemory .builtin).after [writeEmpty]) emptyList (.of emptyRow.value) := by
  refine ⟨emptyRow_held, emptyRow_decodes, fun hshows => hex_empty_ne ?_⟩
  obtain ⟨memory, hmemory, hsound⟩ := after_inMemory .builtin creations_empty
  have hrow := emptyRow_held
  rw [hmemory] at hrow hshows
  have hcanonical := shows_canonical (builtin_isRegistered .allowList) hsound.distinct
    (Memory.hasPolicy_of_row hrow emptyRow_decodes).2 (fun hmark => hmark)
  exact hcanonical.hex_eq hshows

end Service

end PolicyStore
