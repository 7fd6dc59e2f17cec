import PolicyStore.Proofs.Json.Places
import PolicyStore.Proofs.Json.TreeReading
import PolicyStore.Proofs.Policy.Sorting

/-!
# Payloads read as documents

A payload is read as a document with its members sorted, unless it is that of a strategy whose first rule
has the mark of an embedded document for its key. There is an object under the mark, so such a payload
is not read at all, although it is read as the strategy that it was written for.
-/

namespace PolicyStore

open Json (Tree Problem Fault Reader Shape textChars)

/-- The first rule, in the order of the keys, has the mark of an embedded document for its key. -/
def Strategy.Marked (strategy : Strategy) : Prop :=
  strategy.rules.minKey? = some Json.Reader.embeddingMark

/-- The payload of the content is taken for one that embeds another document. -/
def Domain.Marked : (domain : Domain) → domain.Content → Prop
  | .strategy => Strategy.Marked
  | .allowList => fun _ => False
  | .routeGroup => fun _ => False

theorem Strategy.minKey?_rules (strategy : Strategy) :
    strategy.rules.minKey? = strategy.rules.toList.head?.map Prod.fst := by
  rw [Std.ExtTreeMap.minKey?_eq_head?_keys, ← Std.ExtTreeMap.map_fst_toList_eq_keys, List.head?_map]

/-! ## Payloads without the mark -/

theorem ofStrings_plain (entries : List String) : (Tree.ofStrings entries).Plain 1 := by
  intro item hitem
  obtain ⟨entry, -, rfl⟩ := List.mem_map.mp hitem
  trivial

theorem ofNat_plain {n : Nat} (h : n < UInt64.size) : (Tree.ofNat n).Plain 0 := ⟨n, h, rfl⟩

theorem Rule.tree_plain (rule : Rule) : rule.tree.Plain 1 := by
  have hquota : rule.quota.toNat < UInt64.size := Nat.lt_trans rule.quota.toNat_lt (by decide)
  refine ⟨by simp, by simp [Json.Reader.embeddingMark], List.forall_mem_cons.mpr ⟨?_, ?_⟩⟩
  · exact ofNat_plain rule.intervalMs.toNat_lt
  · exact List.forall_mem_singleton.mpr (ofNat_plain hquota)

theorem Strategy.rules_plain {strategy : Strategy} (h : ¬strategy.Marked) :
    (Tree.object (strategy.rules.toList.map fun (key, rule) => (key, rule.tree))).Plain 2 := by
  refine ⟨?_, ?_, fun member hmember => ?_⟩
  · refine List.pairwise_map.mpr (Std.ExtTreeMap.distinct_keys_toList.imp fun {a b} hne heq => ?_)
    exact hne (by rw [heq]; exact Std.ReflCmp.compare_self)
  · rw [Marked, minKey?_rules] at h
    rw [List.head?_map, Option.map_map]
    exact h
  · obtain ⟨⟨key, rule⟩, -, rfl⟩ := List.mem_map.mp hmember
    exact rule.tree_plain

theorem AllowList.tree_plain (list : AllowList) : list.tree.Plain 2 := by
  have hnames := list.sections_distinct.filter fun part => !part.entries.isEmpty
  refine ⟨List.pairwise_cons.mpr ⟨fun member hmember => ?_, List.pairwise_map.mpr hnames⟩,
    by simp [Json.Reader.embeddingMark], List.forall_mem_cons.mpr ⟨trivial, fun member hmember => ?_⟩⟩
  all_goals obtain ⟨part, hpart, rfl⟩ := List.mem_map.mp hmember
  · have hsection := (List.mem_filter.mp hpart).1
    simp only [sections, List.mem_cons, List.not_mem_nil, or_false] at hsection
    rcases hsection with rfl | rfl | rfl | rfl <;> simp
  · exact ofStrings_plain part.entries

theorem Domain.tree_plain {domain : Domain} {content : domain.Content}
    (h : ¬domain.Marked content) : (domain.tree content).Plain 3 := by
  cases domain with
  | strategy =>
    refine ⟨by simp, by simp [Json.Reader.embeddingMark], List.forall_mem_cons.mpr ⟨trivial, ?_⟩⟩
    exact List.forall_mem_singleton.mpr (Strategy.rules_plain h)
  | allowList => exact (AllowList.tree_plain content).succ
  | routeGroup =>
    refine ⟨by simp, by simp [Json.Reader.embeddingMark], List.forall_mem_singleton.mpr ?_⟩
    exact (ofStrings_plain content.nodes).succ

/-- A payload without the mark is read as its tree with sorted members. -/
theorem Domain.read_compact {domain : Domain} {content : domain.Content}
    (h : ¬domain.Marked content) :
    Tree.read (domain.tree content).compact = .ok (domain.tree content).sorted :=
  ((tree_plain h).mono (by decide)).read (Tree.spellsDocument_compact _ (domain.tree_wellFormed content))

/-! ## Payloads with the mark -/

namespace Strategy

/-- What a payload has up to the value under the mark. -/
def upToMark (algorithm : Algorithm) : List Char :=
  '{' :: (textChars "algo" ++ ':' :: (textChars algorithm.name ++
    ',' :: (textChars "rules" ++ ':' :: '{' :: (textChars Json.Reader.embeddingMark ++ [':']))))

theorem compact_marked {strategy : Strategy} (h : strategy.Marked) :
    ∃ more, strategy.tree.compact.toList = upToMark strategy.algorithm ++ '{' :: more := by
  rw [Marked, minKey?_rules] at h
  cases hrules : strategy.rules.toList with
  | nil => simp [hrules] at h
  | cons first others =>
    obtain ⟨key, rule⟩ := first
    obtain rfl : key = Json.Reader.embeddingMark := by simpa [hrules] using h
    rw [tree, hrules]
    simp [Tree.compact, Tree.compactChars, Tree.compactMembers, Rule.tree, upToMark]

variable {embedded : String → Except Problem Tree}

/-- An object under the mark is not read. -/
theorem read_rules (depth : Nat) (more : List Char) :
    (Reader.tree embedded (depth + 1)).read
        ('{' :: (textChars Json.Reader.embeddingMark ++ ':' :: '{' :: more)) =
      .error (.here (.wrongShape .object "raw value") ('{' :: more)) := by
  have hmark := Json.spellsText_textChars Json.Reader.embeddingMark
  rw [Reader.tree, Reader.document_begins (Json.afterGap_cons (by decide) _)]
  exact Reader.object_read_mismatch hmark Json.isGap_nil Json.isGap_nil rfl

theorem read_algorithm (depth : Nat) (algorithm : Algorithm) (rest : List Char) :
    (Reader.tree embedded depth).read (textChars algorithm.name ++ ',' :: rest) =
      .ok (.text algorithm.name, ',' :: rest) := by
  have hends : Json.EndsNumber (',' :: rest) :=
    Json.endsNumber_cons (by decide) (by decide) (by decide) (by decide)
  have hread := Reader.reads_tree embedded depth
    (.text (Json.spellsText_textChars algorithm.name)) Json.isGap_nil hends
  have hshape : Shape.tree embedded depth (.text algorithm.name) = some (.text algorithm.name) := by
    cases depth <;> rfl
  exact Json.eq_ok_of_map hread hshape

/-- The fault stands at the object under the mark, which is left. -/
theorem read_upToMark (depth : Nat) (algorithm : Algorithm) (more : List Char) :
    (Reader.tree embedded (depth + 2)).read (upToMark algorithm ++ '{' :: more) =
      .error (.here (.wrongShape .object "raw value") ('{' :: more)) := by
  have hgap := Json.isGap_nil
  have hcolon := fun rest => Json.scanColon_spelled hgap rest
  have hbrace := fun rest => Json.afterGap_cons (c := '{') (by decide) rest
  have halgo := Json.spellsText_textChars "algo"
  have hrules := Json.spellsText_textChars "rules"
  have hunmarked : ∀ rest, Reader.afterMark? (textChars "algo" ++ rest) = none := fun rest =>
    (Reader.afterMark?_first halgo hgap rest).trans (if_neg (by simp [Json.Reader.embeddingMark]))
  have hfirst := fun rest => Reader.readKey_first halgo hgap rest
  have hsecond := fun rest => Reader.readKey_next hrules hgap hgap rest
  simp only [List.nil_append] at hcolon hfirst hsecond
  simp only [upToMark, List.cons_append, List.append_assoc, List.nil_append]
  rw [Reader.tree, Reader.document_begins (hbrace _), Reader.beginning,
    Reader.object_read_unmarked (hbrace _) (hunmarked _)]
  simp only [Reader.table, Reader.readTable, hbrace]
  rw [Reader.readMembers_member (hfirst _) (hcolon _), read_algorithm, Except.bind,
    Reader.readMembers_member (hsecond _) (hcolon _), read_rules]
  rfl

theorem byteLength_upToMark (algorithm : Algorithm) : Text.byteLength (upToMark algorithm) = 65 := by
  cases algorithm <;> rfl

theorem newline_not_mem_upToMark (algorithm : Algorithm) : '\n' ∉ upToMark algorithm := by
  cases algorithm <;> decide

/-- A payload with the mark is not read as a document. -/
theorem read_compact_marked {strategy : Strategy} (h : strategy.Marked) :
    Tree.read strategy.tree.compact = .error ⟨.wrongShape .object "raw value", ⟨1, 65⟩⟩ := by
  obtain ⟨more, hmore⟩ := compact_marked h
  obtain ⟨embedded, hread⟩ := Tree.read_spelled
    (Tree.spellsDocument_compact strategy.tree (Domain.tree_wellFormed .strategy strategy))
  have hplace := Fault.position_line (newline_not_mem_upToMark strategy.algorithm)
    (.wrongShape .object "raw value") ('{' :: more)
  rw [byteLength_upToMark] at hplace
  rw [hread, hmore, Reader.readWhole, read_upToMark, ← hplace]
  rfl

end Strategy

end PolicyStore
