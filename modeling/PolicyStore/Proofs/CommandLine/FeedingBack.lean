import PolicyStore.Proofs.CommandLine.Performing
import PolicyStore.Proofs.CommandLine.Viewing
import PolicyStore.Proofs.Service.Storing
import PolicyStore.Proofs.Text.Numerals

/-!
# Shown payloads are fed back

A policy is shown with its payload, as JSON with the id and the name beside it, or at the end of a
table. From either form the payload can be taken and put again: it reads as the content of the policy,
and is stored as the policy itself would be. This is said of policies that can be shown at all.
-/

namespace PolicyStore

open Json (Tree Shape SpellsDocument)

variable {domain : Domain}

/-! ## Texts that are fed back -/

/-- Putting a text from a file under the name of a policy succeeds and stores a payload. -/
def Stores (service : Service Memory) (policy : Policy domain) (text payload : String) : Prop :=
  ∀ (files : Files) (path : String) (format : OutputFormat), files path = .ok text →
    ∃ report row,
      ((Command.putPolicy domain policy.name path).perform format files service none).1 =
        some (.ok report) ∧
      ((Command.putPolicy domain policy.name path).perform format files
        service none).2.1.state.rows[domain.key policy.name]? = some row ∧
      row.value = payload

/-- A policy can be made again of a text: under the name of the policy the text reads as its content,
and if the payload of the policy fits, putting the text stores this payload in every table. -/
structure FeedsBack (policy : Policy domain) (text : String) : Prop where
  read : ∀ id, Policy.ofPayload domain id policy.name text = .ok { policy with id := id }
  put : ∀ payload, policy.payload = .ok payload → payload.utf8ByteSize ≤ 16250 →
    ∀ calls, Stores ((Service.inMemory .builtin).after calls) policy text payload

/-- What holds of every policy that a table has: it could be stored again, if its payload fits. -/
structure Policy.Keyed (policy : Policy domain) : Prop where
  named : policy.name ≠ ""
  keepsRules : domain.KeepsRules policy.content
  keyFits : (domain.key policy.name).utf8ByteSize ≤ 128

theorem Policy.Keyed.payload {policy : Policy domain} (h : policy.Keyed) :
    policy.payload = .ok (domain.tree policy.content).compact :=
  (payload_eq_ok_iff policy _).mpr ⟨h.keepsRules, rfl⟩

theorem Policy.Keyed.storable {policy : Policy domain} (h : policy.Keyed) {payload : String}
    (hpayload : policy.payload = .ok payload) (hfits : payload.utf8ByteSize ≤ 16250) (id : RecordId) :
    Storable { policy with id := id } := by
  refine ⟨h.named, h.keepsRules, h.keyFits, fun text htext => ?_⟩
  have hsame : policy.payload = .ok text := htext
  rw [hpayload] at hsame
  obtain rfl := Except.ok.inj hsame
  exact hfits

theorem stores_onTable {policy : Policy domain} (h : policy.Keyed) {text payload : String}
    (hread : ∀ id, Policy.ofPayload domain id policy.name text = .ok { policy with id := id })
    (hpayload : policy.payload = .ok payload) (hfits : payload.utf8ByteSize ≤ 16250)
    (memory : Memory) : Stores (Service.onTable .builtin memory) policy text payload := by
  intro files path format hfile
  obtain ⟨id, hid, hupserted⟩ :=
    Service.eval_store_storable (h.storable hpayload hfits 0) memory
  obtain ⟨row, hrow, -, hvalue⟩ := hupserted.held
  have hoperation : (Command.putPolicy domain policy.name path).operation .builtin format files =
      .ok ((Service.store .builtin { policy with id := 0 }).map fun id => Command.printed
        ("stored " ++ domain.label ++ " '" ++ policy.name ++ "' (id " ++ toString id ++ ")")) := by
    rw [Command.operation, Command.policyInFile_of_text hfile, hread]
    rfl
  refine ⟨_, row, Command.perform_onTable _ _ _ hoperation hid, ?_, ?_⟩
  · rw [Command.state_onTable _ _ _ hoperation]
    exact hrow
  · rw [hvalue]
    exact Except.ok.inj (h.payload.symm.trans hpayload)

theorem feedsBack_of_spelled {policy : Policy domain} (h : policy.Keyed) {text : String}
    (hspelled : SpellsDocument (domain.tree policy.content).sorted text.toList) :
    FeedsBack policy text := by
  have hread : ∀ id, Policy.ofPayload domain id policy.name text = .ok { policy with id := id } :=
    fun id => Policy.ofPayload_sorted h.keepsRules hspelled id policy.name
  refine ⟨hread, fun payload hpayload hfits calls => ?_⟩
  obtain ⟨memory, hmemory, -⟩ := Service.leads_after .builtin .empty calls
  rw [Service.inMemory_eq, hmemory]
  exact stores_onTable h hread hpayload hfits memory

/-! ## Policies in JSON -/

/-- The one member of a name. -/
def Json.Tree.member? : Tree → String → Option Tree
  | .object members, name =>
    match Shape.named name members with
    | [t] => some t
    | _ => none
  | _, _ => none

/-- A document shows a policy: its id, its name, the fingerprint of its payload, and what its payload
reads as. The latter can be spelled, and any spelling of it is fed back. -/
structure Views (tree : Tree) (policy : Policy domain) : Prop where
  id : ∃ numeral, tree.member? "id" = some (.number numeral) ∧
    Text.readInt64 numeral.chars = .ok policy.id
  name : tree.member? "name" = some (.text policy.name)
  payload : ∃ text payload, policy.payload = .ok text ∧
    tree.member? "fingerprint" = some (.text (Fingerprint.of text).hex) ∧
    Tree.read text = .ok payload ∧ tree.member? "payload" = some payload ∧
    SpellsDocument payload payload.compact.toList ∧
    ∀ spelling, SpellsDocument payload spelling.toList → FeedsBack policy spelling

theorem Json.Numeral.chars_ofInt64 (n : Int64) :
    (Numeral.ofInt n.toInt).chars = (toString n).toList := by
  rw [Text.toList_toString_int64, Numeral.ofInt, Numeral.chars]
  by_cases hn : 0 ≤ n.toInt
  · simp [hn, Int.not_lt.mpr hn]
  · simp [hn, Int.not_le.mp hn]

theorem objectTree_views {policy : Policy domain} (h : policy.Keyed)
    (hmark : ¬domain.Marked policy.content) :
    Views (objectTree policy (.of (canonical policy))) policy := by
  have hwf := domain.sorted_wellFormed policy.content
  refine ⟨⟨.ofInt policy.id.toInt, rfl, ?_⟩, rfl, _, _, h.payload, rfl, Domain.read_compact hmark,
    rfl, Tree.spellsDocument_compact _ hwf, fun spelling hspelled => ?_⟩
  · rw [Json.Numeral.chars_ofInt64]
    exact Text.readInt64_toString policy.id
  · exact feedsBack_of_spelled h hspelled

/-! ## Policies in a table -/

/-- What follows the last place in a text where a mark stands. -/
structure Text.FollowsLast (mark text rest : String) : Prop where
  stands : ∃ front, text = front ++ mark ++ rest
  last : ∀ front other, text = front ++ mark ++ other → rest.length ≤ other.length

theorem length_le_of_cons {c : Char} {front other rest more : List Char} (hc : c ∉ rest)
    (h : front ++ c :: rest = other ++ c :: more) : rest.length ≤ more.length := by
  rcases List.append_eq_append_iff.mp h with ⟨between, -, heq⟩ | ⟨between, -, heq⟩
  · cases between with
    | nil => rw [(List.cons.inj heq).2]
    | cons d between =>
      refine absurd ?_ hc
      rw [(List.cons.inj heq).2]
      simp
  · have hlength := congrArg List.length heq
    simp only [List.length_append, List.length_cons] at hlength
    omega

theorem Text.followsLast_line {word rest : String} (hword : '\n' ∉ word.toList)
    (hrest : '\n' ∉ rest.toList) (front : String) :
    FollowsLast ("\n" ++ word) (front ++ ("\n" ++ word) ++ rest) rest := by
  refine ⟨⟨front, rfl⟩, fun other more h => ?_⟩
  have hnewline : "\n".toList = ['\n'] := rfl
  have hlists := congrArg String.toList h
  simp only [String.toList_append, hnewline, List.append_assoc, List.cons_append,
    List.nil_append] at hlists
  have hline : '\n' ∉ word.toList ++ rest.toList := by simp [hword, hrest]
  have hle := length_le_of_cons hline hlists
  simpa [String.length_toList] using hle

theorem objectText_table (policy : Policy domain) (fingerprint : Fingerprint) :
    ∃ front, objectText .table policy fingerprint =
      front ++ "\npayload: " ++ (domain.tree policy.content).sorted.compact := by
  refine ⟨"kind: " ++ domain.label ++ "\n" ++ ("id: " ++ toString policy.id) ++ "\n" ++
    ("name: " ++ policy.name) ++ "\n" ++ ("fingerprint: " ++ fingerprint.hex) ++ "\n" ++
    ("summary: " ++ domain.summary policy.content), ?_⟩
  have hmark : "\npayload: " = "\n" ++ "payload: " := rfl
  rw [hmark, ← String.append_assoc, @String.append_assoc _ "payload: " _]
  rfl

/-- The payload of a table stands after its last mark. -/
theorem objectText_followsLast (policy : Policy domain) (fingerprint : Fingerprint) :
    Text.FollowsLast "\npayload: " (objectText .table policy fingerprint)
      (domain.tree policy.content).sorted.compact := by
  obtain ⟨front, hfront⟩ := objectText_table policy fingerprint
  have hline := Tree.newline_not_mem_compact _ (domain.sorted_wellFormed policy.content)
  have hword : '\n' ∉ "payload: ".toList := by decide
  rw [hfront]
  exact Text.followsLast_line hword hline front

end PolicyStore
