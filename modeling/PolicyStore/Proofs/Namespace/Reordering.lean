import PolicyStore.Proofs.Namespace.Registering

/-!
# Entries in any order

A new registry takes in a list of entries just when none of them is empty and any two of them go
together, which says nothing of their order. Registries that took in the same entries agree on what is
registered, on the prefix that each record name belongs to, and on what they would take in next.
-/

namespace PolicyStore.Registry

variable {registry other next final : Registry} {entry : Entry} {entries : List Entry}

/-! ## Entries that go together -/

/-- The prefix or the name that an entry is about. -/
def Entry.text : Entry → String
  | .namePrefix candidate => candidate
  | .reserved key => key

/-- Two entries go together: two prefixes that are the same or of which none starts the other one, a
prefix and a reserved name that it does not start, and any two reserved names. -/
def Entry.Fits : Entry → Entry → Prop
  | .namePrefix a, .namePrefix b => a = b ∨ startsWith a b = false ∧ startsWith b a = false
  | .namePrefix a, .reserved key => startsWith a key = false
  | .reserved key, .namePrefix a => startsWith a key = false
  | .reserved _, .reserved _ => True

/-- An entry is among those of a registry. -/
def Holds (registry : Registry) : Entry → Prop
  | .namePrefix candidate => candidate ∈ registry.prefixes
  | .reserved key => key ∈ registry.keys

/-- Any two of several entries go together. -/
def GoTogether (Among : Entry → Prop) : Prop := ∀ a b, Among a → Among b → a.Fits b

theorem Apart.goTogether (h : registry.Apart) : GoTogether registry.Holds := by
  intro a b ha hb
  cases a with
  | namePrefix a =>
    cases b with
    | namePrefix b =>
      by_cases hsame : a = b
      · exact .inl hsame
      · refine .inr ⟨Bool.eq_false_iff.mpr fun hstart => hsame ?_, ?_⟩
        · exact h.separate a ha b hb hstart
        · exact Bool.eq_false_iff.mpr fun hstart => hsame (h.separate b hb a ha hstart).symm
    | reserved key => exact h.unreserved a ha key hb
  | reserved key =>
    cases b with
    | namePrefix b => exact h.unreserved b hb key ha
    | reserved other => trivial

/-! ## A single entry -/

/-- A registry takes in an entry. -/
def Accepts (registry : Registry) (entry : Entry) : Prop := ∃ next, registry.enter entry = .ok next

/-- An entry is taken in when it is not empty and goes together with all that are there. -/
theorem Apart.accepts_iff (h : registry.Apart) :
    registry.Accepts entry ↔ entry.text ≠ "" ∧ ∀ held, registry.Holds held → entry.Fits held := by
  constructor
  · rintro ⟨next, hok⟩
    cases entry with
    | namePrefix candidate =>
      obtain ⟨hnonempty, ⟨hmem, -⟩ | ⟨-, hclear, -⟩⟩ := register_eq_ok_iff.mp hok
      · exact ⟨hnonempty, fun held hheld => h.goTogether (.namePrefix candidate) held hmem hheld⟩
      · refine ⟨hnonempty, fun held hheld => ?_⟩
        cases held with
        | namePrefix existing => exact .inr (hclear.prefixes existing hheld)
        | reserved key => exact hclear.keys key hheld
    | reserved key =>
      obtain ⟨hnonempty, hfree, -⟩ := reserveKey_eq_ok_iff.mp hok
      refine ⟨hnonempty, fun held hheld => ?_⟩
      cases held with
      | namePrefix existing => exact hfree existing hheld
      | reserved other => trivial
  · rintro ⟨hnonempty, hfits⟩
    cases entry with
    | namePrefix candidate =>
      by_cases hmem : candidate ∈ registry.prefixes
      · exact ⟨registry, register_eq_ok_iff.mpr ⟨hnonempty, .inl ⟨hmem, rfl⟩⟩⟩
      · refine ⟨_, register_eq_ok_iff.mpr ⟨hnonempty, .inr ⟨hmem, ⟨?_, ?_⟩, rfl⟩⟩⟩
        · intro existing hexisting
          have hnew : candidate ≠ existing := fun hsame => hmem (hsame ▸ hexisting)
          exact (hfits (.namePrefix existing) hexisting).resolve_left hnew
        · exact fun key hkey => hfits (.reserved key) hkey
    | reserved key =>
      have hfree : ∀ existing ∈ registry.prefixes, startsWith existing key = false :=
        fun existing hexisting => hfits (.namePrefix existing) hexisting
      by_cases hmem : key ∈ registry.keys
      · exact ⟨registry, reserveKey_eq_ok_iff.mpr ⟨hnonempty, hfree, .inl ⟨hmem, rfl⟩⟩⟩
      · exact ⟨_, reserveKey_eq_ok_iff.mpr ⟨hnonempty, hfree, .inr ⟨hmem, rfl⟩⟩⟩

/-- After an entry was taken in, it is there and all others are as before. -/
theorem holds_enter (hok : registry.enter entry = .ok next) (held : Entry) :
    next.Holds held ↔ registry.Holds held ∨ held = entry := by
  cases entry with
  | namePrefix candidate =>
    obtain ⟨-, ⟨hmem, rfl⟩ | ⟨-, -, rfl⟩⟩ := register_eq_ok_iff.mp hok
    · refine (or_iff_left_of_imp ?_).symm
      rintro rfl
      exact hmem
    · cases held <;> simp [Holds]
  | reserved key =>
    obtain ⟨-, -, ⟨hmem, rfl⟩ | ⟨-, rfl⟩⟩ := reserveKey_eq_ok_iff.mp hok
    · refine (or_iff_left_of_imp ?_).symm
      rintro rfl
      exact hmem
    · cases held <;> simp [Holds]

/-- Refusals for the same reason. The entry that stands in the way may be another one. -/
inductive SameReason : PolicyError → PolicyError → Prop
  | emptyText : SameReason .emptyNamespace .emptyNamespace
  | conflict (candidate existing other : String) :
    SameReason (.namespaceConflict candidate existing) (.namespaceConflict candidate other)

theorem enter_eq_error {error : PolicyError} (h : registry.enter entry = .error error) :
    (entry.text = "" ∧ error = .emptyNamespace) ∨
      (entry.text ≠ "" ∧ ∃ existing, error = .namespaceConflict entry.text existing) := by
  cases entry with
  | namePrefix candidate =>
    rw [enter, register] at h
    by_cases hempty : candidate = ""
    · rw [if_pos (by simp [hempty])] at h
      exact .inl ⟨hempty, (Except.error.inj h).symm⟩
    · rw [if_neg (by simp [hempty])] at h
      refine .inr ⟨hempty, ?_⟩
      split at h
      · cases h
      · split at h
        next existing _ => exact ⟨existing, (Except.error.inj h).symm⟩
        next =>
          split at h
          next existing _ => exact ⟨existing, (Except.error.inj h).symm⟩
          next => cases h
  | reserved key =>
    rw [enter, reserveKey] at h
    by_cases hempty : key = ""
    · rw [if_pos (by simp [hempty])] at h
      exact .inl ⟨hempty, (Except.error.inj h).symm⟩
    · rw [if_neg (by simp [hempty])] at h
      refine .inr ⟨hempty, ?_⟩
      split at h
      next existing _ => exact ⟨existing, (Except.error.inj h).symm⟩
      next =>
        split at h
        · cases h
        · cases h

/-- Whether an entry is empty decides why it is refused, wherever it is refused. -/
theorem sameReason_enter {error found : PolicyError} (h : registry.enter entry = .error error)
    (hother : other.enter entry = .error found) : SameReason error found := by
  rcases enter_eq_error h with ⟨hempty, rfl⟩ | ⟨hnonempty, existing, rfl⟩
  · rcases enter_eq_error hother with ⟨-, rfl⟩ | ⟨hnonempty, -⟩
    · exact .emptyText
    · exact absurd hempty hnonempty
  · rcases enter_eq_error hother with ⟨hempty, -⟩ | ⟨-, blocking, rfl⟩
    · exact absurd hempty hnonempty
    · exact .conflict entry.text existing blocking

/-! ## Entries one after the other -/

/-- Takes in entries one after the other, as long as none is refused. -/
def enterAll (registry : Registry) (entries : List Entry) : Except PolicyError Registry :=
  entries.foldlM enter registry

theorem enterAll_nil (registry : Registry) : registry.enterAll [] = .ok registry := rfl

theorem enterAll_cons_eq_ok_iff :
    registry.enterAll (entry :: entries) = .ok final ↔
      ∃ next, registry.enter entry = .ok next ∧ next.enterAll entries = .ok final := by
  rw [enterAll, List.foldlM_cons]
  cases registry.enter entry with
  | error error => exact iff_of_false (by rintro ⟨⟩) (by rintro ⟨next, ⟨⟩, -⟩)
  | ok next =>
    constructor
    · intro hrest
      exact ⟨next, rfl, hrest⟩
    · rintro ⟨taken, htaken, hrest⟩
      obtain rfl := Except.ok.inj htaken
      exact hrest

theorem Apart.enterAll (h : registry.Apart) (hok : registry.enterAll entries = .ok final) :
    final.Apart := by
  induction entries generalizing registry with
  | nil =>
    rw [enterAll_nil] at hok
    exact Except.ok.inj hok ▸ h
  | cons entry entries ih =>
    obtain ⟨next, hentry, hrest⟩ := enterAll_cons_eq_ok_iff.mp hok
    exact ih (h.enter hentry) hrest

theorem holds_enterAll (hok : registry.enterAll entries = .ok final) (held : Entry) :
    final.Holds held ↔ registry.Holds held ∨ held ∈ entries := by
  induction entries generalizing registry with
  | nil =>
    rw [enterAll_nil] at hok
    rw [Except.ok.inj hok, or_iff_left List.not_mem_nil]
  | cons entry entries ih =>
    obtain ⟨next, hentry, hrest⟩ := enterAll_cons_eq_ok_iff.mp hok
    rw [ih hrest, holds_enter hentry, List.mem_cons, or_assoc]

/-- Entries are all taken in when none is empty and they go together with each other and with those
that are there. Neither depends on their order. -/
theorem Apart.exists_enterAll_iff (h : registry.Apart) :
    (∃ final, registry.enterAll entries = .ok final) ↔ (∀ entry ∈ entries, entry.text ≠ "") ∧
      GoTogether fun entry => registry.Holds entry ∨ entry ∈ entries := by
  induction entries generalizing registry with
  | nil =>
    refine iff_of_true ⟨registry, enterAll_nil registry⟩ ⟨by simp, fun a b ha hb => ?_⟩
    exact h.goTogether a b (ha.resolve_right List.not_mem_nil) (hb.resolve_right List.not_mem_nil)
  | cons entry entries ih =>
    -- what the next registry holds and the later entries are the same entries as before
    have hsame : ∀ next, registry.enter entry = .ok next →
        (fun held => next.Holds held ∨ held ∈ entries) =
          fun held => registry.Holds held ∨ held ∈ entry :: entries := by
      intro next hentry
      funext held
      rw [holds_enter hentry, or_assoc, List.mem_cons]
    constructor
    · rintro ⟨final, hall⟩
      obtain ⟨next, hentry, hrest⟩ := enterAll_cons_eq_ok_iff.mp hall
      obtain ⟨hnonempty, htogether⟩ := (ih (h.enter hentry)).mp ⟨final, hrest⟩
      rw [hsame next hentry] at htogether
      have hfirst := (h.accepts_iff.mp ⟨next, hentry⟩).1
      exact ⟨List.forall_mem_cons.mpr ⟨hfirst, hnonempty⟩, htogether⟩
    · rintro ⟨hnonempty, htogether⟩
      obtain ⟨hfirst, hlater⟩ := List.forall_mem_cons.mp hnonempty
      obtain ⟨next, hentry⟩ := h.accepts_iff.mpr ⟨hfirst, fun held hheld =>
        htogether entry held (.inr List.mem_cons_self) (.inl hheld)⟩
      rw [← hsame next hentry] at htogether
      obtain ⟨final, hrest⟩ := (ih (h.enter hentry)).mpr ⟨hlater, htogether⟩
      exact ⟨final, enterAll_cons_eq_ok_iff.mpr ⟨next, hentry, hrest⟩⟩

/-! ## Registries that agree -/

/-- Two registries answer alike: on what is registered, on the prefix that a record name belongs to,
and on whether and why they take in an entry. -/
structure Agrees (registry other : Registry) : Prop where
  registered : ∀ namePrefix, registry.isRegistered namePrefix = other.isRegistered namePrefix
  required : ∀ namePrefix, registry.require namePrefix = other.require namePrefix
  owner : ∀ key, registry.namespaceOf key = other.namespaceOf key
  accepted : ∀ entry, registry.Accepts entry ↔ other.Accepts entry
  refused : ∀ entry error found, registry.enter entry = .error error →
    other.enter entry = .error found → SameReason error found

/-- The first prefix that starts a name is the only one that does. -/
theorem Apart.namespaceOf_eq_some_iff (h : registry.Apart) {key namePrefix : String} :
    registry.namespaceOf key = some namePrefix ↔
      namePrefix ∈ registry.prefixes ∧ startsWith namePrefix key = true := by
  constructor
  · intro howner
    rw [Registry.namespaceOf] at howner
    have hstart : startsWith namePrefix key = true := by simpa using List.find?_some howner
    exact ⟨List.mem_of_find?_eq_some howner, hstart⟩
  · rintro ⟨hmem, hstart⟩
    exact h.namespaceOf hmem hstart

/-- Registries with the same entries agree, in whatever order these stand. -/
theorem Apart.agrees (h : registry.Apart) (hother : other.Apart)
    (hsame : ∀ entry, registry.Holds entry ↔ other.Holds entry) : registry.Agrees other := by
  have hprefixes : ∀ namePrefix, namePrefix ∈ registry.prefixes ↔ namePrefix ∈ other.prefixes :=
    fun namePrefix => hsame (.namePrefix namePrefix)
  have hregistered : ∀ namePrefix,
      registry.isRegistered namePrefix = other.isRegistered namePrefix := by
    intro namePrefix
    rw [Bool.eq_iff_iff, isRegistered_iff, isRegistered_iff]
    exact hprefixes namePrefix
  constructor
  · exact hregistered
  · intro namePrefix
    rw [require, require, hregistered]
  · intro key
    refine Option.ext fun namePrefix => ?_
    rw [h.namespaceOf_eq_some_iff, hother.namespaceOf_eq_some_iff, hprefixes]
  · intro entry
    rw [h.accepts_iff, hother.accepts_iff]
    simp only [hsame]
  · exact fun entry error found => sameReason_enter

/-- Whether a new registry takes in all of several entries does not depend on the order in which they
come, and registries that took them in in different orders agree. -/
theorem entered_in_any_order {entries others : List Entry} (h : entries.Perm others) :
    ((∃ registry, empty.enterAll entries = .ok registry) ↔
        ∃ other, empty.enterAll others = .ok other) ∧
      ∀ registry other, empty.enterAll entries = .ok registry →
        empty.enterAll others = .ok other → registry.Agrees other := by
  constructor
  · rw [apart_empty.exists_enterAll_iff, apart_empty.exists_enterAll_iff]
    simp only [h.mem_iff]
  · intro registry other hregistry hother
    refine (apart_empty.enterAll hregistry).agrees (apart_empty.enterAll hother) fun entry => ?_
    rw [holds_enterAll hregistry, holds_enterAll hother, h.mem_iff]

/-- What the builtin registry is asked to take in, and one prefix once more. -/
def repeatedEntries : List Entry :=
  builtinEntries ++ [.namePrefix Domain.strategy.namePrefix]

/-- The same in another order. -/
def shuffledEntries : List Entry :=
  [.reserved reorgKey, .namePrefix Domain.routeGroup.namePrefix,
    .namePrefix Domain.strategy.namePrefix, .namePrefix Domain.allowList.namePrefix,
    .namePrefix Domain.strategy.namePrefix]

/-- The prefixes of the shuffled registry stand in another order, and it answers as the builtin one,
on record names as well as on a prefix that it refuses. -/
theorem entered_in_any_order_builtin :
    repeatedEntries.Perm shuffledEntries ∧
      ∃ shuffled, empty.enterAll shuffledEntries = .ok shuffled ∧ shuffled ≠ builtin ∧
        builtin.Agrees shuffled ∧ shuffled.namespaceOf "acl.allowlist.x" = some "acl.allowlist." ∧
        ¬shuffled.Accepts (.namePrefix "reorg.") := by
  have hperm : repeatedEntries.Perm shuffledEntries := by decide
  have hagrees := (entered_in_any_order hperm).2 builtin _ rfl rfl
  refine ⟨hperm, _, rfl, by decide, hagrees, ?_, fun haccepts => ?_⟩
  · rw [← hagrees.owner]
    rfl
  · obtain ⟨next, hnext⟩ := (hagrees.accepted (.namePrefix "reorg.")).mpr haccepts
    cases hnext

end PolicyStore.Registry
