import PolicyStore.CommandLine.Command
import PolicyStore.Proofs.Policy.Rereading

/-!
# What is shown of policies

A policy that keeps the rules is shown with its payload, sorted, and the fingerprint of it, unless the
payload has the mark of an embedded document. Then the policy cannot be shown, whatever the form, and as
JSON neither can any policies among which it is.
-/

namespace PolicyStore

open Json (Tree)

variable {domain : Domain}

/-! ## Texts with a fingerprint -/

/-- The payload of a policy, whether or not it keeps the rules. -/
def canonical (policy : Policy domain) : String := (domain.tree policy.content).compact

/-- A policy as JSON with a fingerprint. -/
def objectTree (policy : Policy domain) (fingerprint : Fingerprint) : Tree :=
  .object [
    ("id", .ofInt64 policy.id),
    ("name", .text policy.name),
    ("fingerprint", .text fingerprint.hex),
    ("payload", (domain.tree policy.content).sorted)]

/-- A single policy with a fingerprint. -/
def objectText (format : OutputFormat) (policy : Policy domain) (fingerprint : Fingerprint) :
    String :=
  match format with
  | .json => (objectTree policy fingerprint).indented
  | .table => Report.lines [
      "kind: " ++ domain.label,
      "id: " ++ toString policy.id,
      "name: " ++ policy.name,
      "fingerprint: " ++ fingerprint.hex,
      "summary: " ++ domain.summary policy.content,
      "payload: " ++ (domain.tree policy.content).sorted.compact]

theorem objectTree_wellFormed (policy : Policy domain) (fingerprint : Fingerprint) :
    (objectTree policy fingerprint).WellFormed :=
  ⟨Json.Numeral.wellFormed_ofInt policy.id.toInt, trivial, trivial,
    domain.sorted_wellFormed policy.content, trivial⟩

/-! ## Lists that are made item by item -/

section Lists

variable {ε α β : Type} {f : α → Except ε β} {as : List α}

theorem mapM_eq_ok_map {g : α → β} (h : ∀ a ∈ as, f a = .ok (g a)) :
    as.mapM f = .ok (as.map g) := by
  induction as with
  | nil => rfl
  | cons a as ih =>
    obtain ⟨ha, has⟩ := List.forall_mem_cons.mp h
    rw [List.mapM_cons, ha, ih has]
    rfl

/-- When all items that fail do so with one error, and there is one that does, so does the list. -/
theorem mapM_eq_error {e : ε} (h : ∀ a ∈ as, ∀ e', f a = .error e' → e' = e)
    (hfails : ∃ a ∈ as, f a = .error e) : as.mapM f = .error e := by
  induction as with
  | nil => simp at hfails
  | cons a as ih =>
    obtain ⟨hfirst, hothers⟩ := List.forall_mem_cons.mp h
    rw [List.mapM_cons]
    cases ha : f a with
    | error e' => rw [hfirst e' ha]; rfl
    | ok b =>
      obtain ⟨failing, hmem, hfailing⟩ := hfails
      rcases List.mem_cons.mp hmem with rfl | hmem
      · rw [ha] at hfailing
        cases hfailing
      · rw [ih hothers ⟨failing, hmem, hfailing⟩]
        rfl

end Lists

/-! ## Policies that can be shown -/

namespace Report

/-- The failure to show a policy whose payload has the mark. -/
def markedPayload : CommandError :=
  .failure
    "payload is not valid JSON: invalid type: map, expected raw value at line 1 column 65" []

variable {policy : Policy domain}

theorem view_eq (h : domain.KeepsRules policy.content) :
    view policy = ((Tree.read (canonical policy)).mapError unreadPayload).map fun payload =>
      ⟨policy.id, policy.name, .of (canonical policy), payload⟩ := by
  have hpayload : policy.payload = .ok (canonical policy) :=
    (Policy.payload_eq_ok_iff policy _).mpr ⟨h, rfl⟩
  rw [view, hpayload]
  rfl

theorem view_unmarked (h : domain.KeepsRules policy.content) (hmark : ¬domain.Marked policy.content) :
    view policy = .ok
      ⟨policy.id, policy.name, .of (canonical policy), (domain.tree policy.content).sorted⟩ := by
  rw [view_eq h, canonical, Domain.read_compact hmark]
  rfl

theorem view_marked (h : domain.KeepsRules policy.content) (hmark : domain.Marked policy.content) :
    view policy = .error markedPayload := by
  cases domain with
  | strategy =>
    have hread : Tree.read (canonical policy) = _ := Strategy.read_compact_marked hmark
    rw [view_eq h, hread]
    rfl
  | allowList => exact hmark.elim
  | routeGroup => exact hmark.elim

end Report

/-- Policies as JSON, each with the fingerprint of its payload. -/
theorem denotes_objectTrees (policies : List (Policy domain)) :
    Json.Denotes (Tree.list (policies.map fun policy =>
        objectTree policy (.of (canonical policy)))).indented
      (.list (policies.map fun policy => objectTree policy (.of (canonical policy)))) := by
  refine Json.denotes_indented ((Tree.itemsWellFormed_iff _).mpr fun tree htree => ?_)
  obtain ⟨policy, -, rfl⟩ := List.mem_map.mp htree
  exact objectTree_wellFormed policy _

/-! ## What commands make of them -/

namespace Command

open Report (view view_unmarked view_marked markedPayload)

variable {policy : Policy domain}

theorem shown_policy_unmarked (format : OutputFormat) (h : domain.KeepsRules policy.content)
    (hmark : ¬domain.Marked policy.content) :
    shown (Report.policy format policy) =
      .ok (.ofText (objectText format policy (.of (canonical policy)))) := by
  rw [Report.policy, view_unmarked h hmark]
  cases format <;> rfl

theorem shown_policy_marked (format : OutputFormat) (h : domain.KeepsRules policy.content)
    (hmark : domain.Marked policy.content) :
    shown (Report.policy format policy) = .error markedPayload := by
  rw [Report.policy, view_marked h hmark]
  rfl

variable {snapshot : Snapshot domain}

/-- Policies none of which has the mark are listed with the fingerprints of their payloads. -/
theorem shown_snapshot_unmarked
    (h : ∀ policy ∈ snapshot.items.values, domain.KeepsRules policy.content)
    (hmark : ∀ policy ∈ snapshot.items.values, ¬domain.Marked policy.content) :
    ∃ text, shown (Report.snapshot .json snapshot) = .ok (.ofText text) ∧
      Json.Denotes text (.list (snapshot.items.values.map fun policy =>
        objectTree policy (.of (canonical policy)))) := by
  have hviews := mapM_eq_ok_map fun policy hpolicy =>
    view_unmarked (h policy hpolicy) (hmark policy hpolicy)
  refine ⟨_, ?_, denotes_objectTrees snapshot.items.values⟩
  rw [Report.snapshot, hviews, Except.map, List.map_map]
  rfl

/-- One policy with the mark is enough for the list of all policies to fail. -/
theorem shown_snapshot_marked
    (h : ∀ policy ∈ snapshot.items.values, domain.KeepsRules policy.content)
    (hmark : ∃ policy ∈ snapshot.items.values, domain.Marked policy.content) :
    shown (Report.snapshot .json snapshot) = .error markedPayload := by
  obtain ⟨marked, hmarked, hmark⟩ := hmark
  have hviews : snapshot.items.values.mapM view = .error markedPayload := by
    refine mapM_eq_error (fun policy hpolicy error herror => ?_)
      ⟨marked, hmarked, view_marked (h marked hmarked) hmark⟩
    by_cases hmark : domain.Marked policy.content
    · rw [view_marked (h policy hpolicy) hmark] at herror
      exact (Except.error.inj herror).symm
    · rw [view_unmarked (h policy hpolicy) hmark] at herror
      cases herror
  rw [Report.snapshot, hviews]
  rfl

end Command

end PolicyStore
