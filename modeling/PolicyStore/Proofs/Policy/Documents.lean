import PolicyStore.Proofs.Json.Recognizing
import PolicyStore.Proofs.Policy.Meaning

/-!
# Payloads are whole documents

A text that parses as a payload, whether or not what it says keeps the rules, is one object or list of
the grammar with nothing but gaps around it. Of such a text nothing can be left out at the end, and
nothing can be added there, but gaps.
-/

namespace PolicyStore

open Json (IsGap)
open Json.Grammar (Document Value)
open Json.Reader (BracketedValue accepts_record accepts_map accepts_list accepts_text accepts_table
  accepts_flag accepts_natural accepts_choice)

/-! ## The readers of the domains -/

theorem Json.Layout.accepts_of {σ α : Type} {name : String} {required : Bool} {get : σ → Option α}
    {set : σ → α → σ} {reader : Json.Reader α} (h : reader.Accepts Value) :
    (Json.Field.of name required get set reader).update.Accepts Value :=
  accepts_map h fun a draft => set draft a

theorem Rule.accepts_reader : Rule.reader.Accepts Value := by
  have hlayout : Rule.layout.Accepts := by
    simp only [Json.Layout.Accepts, Rule.layout, List.forall_mem_cons]
    exact ⟨Json.Layout.accepts_of (accepts_natural _ _),
      Json.Layout.accepts_of (accepts_natural _ _), by simp⟩
  exact accepts_map (accepts_record hlayout _).value _

theorem Strategy.accepts_reader : Strategy.reader.Accepts BracketedValue := by
  have hlayout : Strategy.layout.Accepts := by
    simp only [Json.Layout.Accepts, Strategy.layout, List.forall_mem_cons]
    exact ⟨Json.Layout.accepts_of (accepts_choice _),
      Json.Layout.accepts_of (accepts_table Rule.accepts_reader), by simp⟩
  exact accepts_map (accepts_record hlayout _) _

theorem AllowList.accepts_reader : AllowList.reader.Accepts BracketedValue := by
  have htexts : (Json.Reader.list Json.Reader.text).Accepts Value := accepts_list accepts_text
  have hlayout : AllowList.layout.Accepts := by
    simp only [Json.Layout.Accepts, AllowList.layout, List.forall_mem_cons]
    exact ⟨Json.Layout.accepts_of accepts_flag, Json.Layout.accepts_of htexts,
      Json.Layout.accepts_of htexts, Json.Layout.accepts_of htexts,
      Json.Layout.accepts_of htexts, by simp⟩
  exact accepts_map (accepts_record hlayout _) _

theorem RouteGroup.accepts_reader : RouteGroup.reader.Accepts BracketedValue := by
  have hlayout : RouteGroup.layout.Accepts := by
    simp only [Json.Layout.Accepts, RouteGroup.layout, List.forall_mem_cons]
    exact ⟨Json.Layout.accepts_of (accepts_list accepts_text), by simp⟩
  exact accepts_map (accepts_record hlayout _) _

/-- Payloads of every domain are objects or lists. -/
theorem Domain.accepts_reader (domain : Domain) : domain.reader.Accepts BracketedValue := by
  cases domain with
  | strategy => exact Strategy.accepts_reader
  | allowList => exact AllowList.accepts_reader
  | routeGroup => exact RouteGroup.accepts_reader

/-! ## Texts that parse -/

namespace Policy

variable {domain : Domain} {id : RecordId} {name text : String}

/-- A text parses as a payload when it is the payload of a policy, or is only refused for a rule. -/
def Parses (domain : Domain) (id : RecordId) (name text : String) : Prop :=
  (∃ policy, ofPayload domain id name text = .ok policy) ∨
    ∃ violation, ofPayload domain id name text = .error (.invalidPayload domain name violation)

/-- A text is malformed when it is refused as no JSON of the domain's shape. -/
def Malformed (domain : Domain) (id : RecordId) (name text : String) : Prop :=
  ∃ problem, ofPayload domain id name text = .error (.malformedPayload domain name problem)

theorem Parses.not_malformed (h : Parses domain id name text) : ¬Malformed domain id name text := by
  rintro ⟨problem, hproblem⟩
  rcases h with ⟨policy, hpolicy⟩ | ⟨violation, hviolation⟩
  · rw [hpolicy] at hproblem
    cases hproblem
  · rw [hviolation] at hproblem
    cases hproblem

/-- A text is malformed unless it is a document. -/
theorem malformed_of_not_document (h : ¬Document text.toList) (domain : Domain) (id : RecordId)
    (name : String) : Malformed domain id name text := by
  cases hread : domain.reader.readWhole text.toList with
  | ok content => exact absurd (Json.Reader.document_of_readWhole domain.accepts_reader hread) h
  | error fault =>
    refine ⟨fault.locate text.toList, ofPayload_of_readContent_error ?_ id⟩
    rw [readContent, hread]

/-- A text that parses as a payload of some domain is a document. What is left of it without more than
a gap at the end is malformed for every domain, and so is the text with more than a gap after it. -/
theorem document_of_parses (h : Parses domain id name text) :
    Document text.toList ∧
      (∀ kept dropped : String, kept ++ dropped = text → ¬IsGap dropped.toList →
        ∀ domain id name, Malformed domain id name kept) ∧
      ∀ more : String, ¬IsGap more.toList → ∀ domain id name,
        Malformed domain id name (text ++ more) := by
  have hdocument : Document text.toList := Classical.not_not.mp fun hnot =>
    h.not_malformed (malformed_of_not_document hnot domain id name)
  refine ⟨hdocument, fun kept dropped heq hdropped => ?_, fun more hmore => ?_⟩
  · refine malformed_of_not_document fun hkept => hdropped (hkept.gap_of_append ?_)
    rw [← String.toList_append, heq]
    exact hdocument
  · refine malformed_of_not_document fun hlonger => hmore (hdocument.gap_of_append ?_)
    rw [← String.toList_append]
    exact hlonger

/-- The members of an allow-list with an empty entry, one of which no list is for. -/
def brokenMembers : List (String × Json.Tree) :=
  [("origins", .list [.text ""]), ("more", .object [("x", .list [.null, .ofNat 1])])]

/-- A text that is refused for a rule parses, but not when its last brace is missing or doubled. -/
theorem document_of_parses_broken :
    Parses .allowList 1 "ops" "\x7b\"origins\":[\"\"],\"more\":\x7b\"x\":[null,1]\x7d\x7d" ∧
      Document "\x7b\"origins\":[\"\"],\"more\":\x7b\"x\":[null,1]\x7d\x7d".toList ∧
      Malformed .allowList 1 "ops" "\x7b\"origins\":[\"\"],\"more\":\x7b\"x\":[null,1]\x7d" ∧
      Malformed .allowList 1 "ops"
        ("\x7b\"origins\":[\"\"],\"more\":\x7b\"x\":[null,1]\x7d\x7d" ++ "\x7d") := by
  have hwf : (Json.Tree.object brokenMembers).WellFormed := by
    simp [brokenMembers, Json.Tree.WellFormed, Json.Tree.ItemsWellFormed,
      Json.Tree.MembersWellFormed, Json.Tree.ofNat, Json.Numeral.wellFormed_ofNat]
  have hspelled : Json.SpellsDocument (.object brokenMembers)
      "\x7b\"origins\":[\"\"],\"more\":\x7b\"x\":[null,1]\x7d\x7d".toList :=
    Json.Tree.spellsDocument_compact _ hwf
  have hmeaning : Domain.ofMembers .allowList brokenMembers =
      some (⟨false, [], [""], [], []⟩ : AllowList) := rfl
  have hbroken : ¬Domain.KeepsRules .allowList (⟨false, [], [""], [], []⟩ : AllowList) := by
    have hblank : Text.isBlankText "" = true := by decide
    simp [Domain.KeepsRules, Domain.KeepsRulesBy, AllowList.KeepsRules,
      AllowList.sections, hblank]
  obtain ⟨-, hrefused⟩ := ofPayload_of_readContent_ok (readContent_meaning hspelled hmeaning "ops") 1
  rw [← Domain.violation?_eq_none_iff] at hbroken
  obtain ⟨violation, hviolation⟩ := Option.ne_none_iff_exists'.mp hbroken
  have hbrace : ¬IsGap "\x7d".toList := fun h => absurd (h '}' (by decide)) (by decide)
  have hparses : Parses .allowList 1 "ops"
      "\x7b\"origins\":[\"\"],\"more\":\x7b\"x\":[null,1]\x7d\x7d" :=
    .inr ⟨violation, hrefused violation hviolation⟩
  obtain ⟨hdocument, hshorter, hlonger⟩ := document_of_parses hparses
  exact ⟨hparses, hdocument, hshorter _ "\x7d" rfl hbrace _ _ _, hlonger "\x7d" hbrace _ _ _⟩

end Policy

end PolicyStore
