import PolicyStore.Namespace.Registry
import PolicyStore.Proofs.Namespace.Keys

/-!
# What a registry keeps apart

Prefixes and reserved names come to a registry one by one, and some are refused. Whatever comes, no
prefix starts another one and none starts a reserved name. So the record name of a policy tells its
prefix and the policy's own name, and is never a reserved one.
-/

namespace PolicyStore.Registry

variable {registry next : Registry} {candidate key : String}

theorem isRegistered_iff {namePrefix : String} :
    registry.isRegistered namePrefix = true ↔ namePrefix ∈ registry.prefixes := by
  rw [isRegistered, List.contains_iff_mem]

/-! ## Single calls -/

/-- A new prefix that meets none of the entries of a registry. -/
structure Clear (registry : Registry) (candidate : String) : Prop where
  prefixes : ∀ existing ∈ registry.prefixes,
    startsWith candidate existing = false ∧ startsWith existing candidate = false
  keys : ∀ key ∈ registry.keys, startsWith candidate key = false

theorem clear_iff_find? :
    registry.Clear candidate ↔
      (registry.prefixes.find? fun existing =>
        startsWith candidate existing || startsWith existing candidate) = none ∧
      registry.keys.find? (startsWith candidate) = none := by
  simp only [List.find?_eq_none, Bool.or_eq_true, not_or, Bool.not_eq_true]
  exact ⟨fun h => ⟨h.prefixes, h.keys⟩, fun h => ⟨h.1, h.2⟩⟩

/-- A prefix is taken in when it is there already or meets none of the entries. -/
theorem register_eq_ok_iff :
    registry.register candidate = .ok next ↔ candidate ≠ "" ∧
      ((candidate ∈ registry.prefixes ∧ next = registry) ∨
        (candidate ∉ registry.prefixes ∧ registry.Clear candidate ∧
          next = { registry with prefixes := registry.prefixes ++ [candidate] })) := by
  rw [register, clear_iff_find?]
  by_cases hempty : candidate = ""
  · simp [hempty]
  by_cases hmem : candidate ∈ registry.prefixes
  · simp [hempty, hmem, eq_comm (b := next)]
  cases hprefix : registry.prefixes.find? fun existing =>
      startsWith candidate existing || startsWith existing candidate with
  | some existing => simp [hempty, hmem]
  | none =>
    cases hkey : registry.keys.find? (startsWith candidate) with
    | some existing => simp [hempty, hmem]
    | none => simp [hempty, hmem, eq_comm (b := next)]

/-- A name is reserved when no prefix starts it. -/
theorem reserveKey_eq_ok_iff :
    registry.reserveKey key = .ok next ↔ key ≠ "" ∧
      (∀ existing ∈ registry.prefixes, startsWith existing key = false) ∧
      ((key ∈ registry.keys ∧ next = registry) ∨
        (key ∉ registry.keys ∧ next = { registry with keys := registry.keys ++ [key] })) := by
  have hfree : (registry.prefixes.find? fun existing => startsWith existing key) = none ↔
      ∀ existing ∈ registry.prefixes, startsWith existing key = false := by
    simp only [List.find?_eq_none, Bool.not_eq_true]
  rw [reserveKey, ← hfree]
  by_cases hempty : key = ""
  · simp [hempty]
  cases hprefix : registry.prefixes.find? fun existing => startsWith existing key with
  | some existing => simp [hempty]
  | none =>
    by_cases hmem : key ∈ registry.keys
    · simp [hempty, hmem, eq_comm (b := next)]
    · simp [hempty, hmem, eq_comm (b := next)]

/-! ## What holds of a registry -/

/-- The entries of a registry stand apart: no prefix is empty or there twice, none starts another
one, and none starts a reserved name. -/
structure Apart (registry : Registry) : Prop where
  nonempty : "" ∉ registry.prefixes
  distinct : registry.prefixes.Nodup
  separate : ∀ a ∈ registry.prefixes, ∀ b ∈ registry.prefixes, startsWith a b = true → a = b
  unreserved : ∀ a ∈ registry.prefixes, ∀ key ∈ registry.keys, startsWith a key = false

theorem apart_empty : Apart empty := by
  constructor <;> simp [empty]

theorem Apart.register (h : registry.Apart) (hok : registry.register candidate = .ok next) :
    next.Apart := by
  obtain ⟨hnonempty, ⟨-, rfl⟩ | ⟨hnew, hclear, rfl⟩⟩ := register_eq_ok_iff.mp hok
  · exact h
  have hmem : ∀ a, a ∈ registry.prefixes ++ [candidate] ↔ a ∈ registry.prefixes ∨ a = candidate :=
    fun a => by simp
  constructor
  · intro hempty
    rcases (hmem "").mp hempty with hold | hcandidate
    · exact h.nonempty hold
    · exact hnonempty hcandidate.symm
  · have hother : ∀ a ∈ registry.prefixes, a ≠ candidate := fun a ha hsame => hnew (hsame ▸ ha)
    simpa [List.nodup_append, h.distinct] using hother
  · intro a ha b hb hstart
    -- of two prefixes at most one is new, and the new one was compared both ways
    rcases (hmem a).mp ha with hold | rfl <;> rcases (hmem b).mp hb with hold' | rfl
    · exact h.separate a hold b hold' hstart
    · rw [(hclear.prefixes a hold).2] at hstart
      exact nomatch hstart
    · rw [(hclear.prefixes b hold').1] at hstart
      exact nomatch hstart
    · rfl
  · intro a ha key hkey
    rcases (hmem a).mp ha with hold | rfl
    · exact h.unreserved a hold key hkey
    · exact hclear.keys key hkey

theorem Apart.reserveKey (h : registry.Apart) (hok : registry.reserveKey key = .ok next) :
    next.Apart := by
  obtain ⟨-, hfree, ⟨-, rfl⟩ | ⟨-, rfl⟩⟩ := reserveKey_eq_ok_iff.mp hok
  · exact h
  · refine ⟨h.nonempty, h.distinct, h.separate, fun a ha other hother => ?_⟩
    rcases List.mem_append.mp hother with hold | hnew
    · exact h.unreserved a ha other hold
    · rw [List.mem_singleton.mp hnew]
      exact hfree a ha

/-! ## Calls one after the other -/

/-- What a registry can be asked to take in. -/
inductive Entry
  | namePrefix (candidate : String)
  | reserved (key : String)
  deriving DecidableEq, Repr

/-- Asks a registry to take in an entry. -/
def enter (registry : Registry) : Entry → Except PolicyError Registry
  | .namePrefix candidate => registry.register candidate
  | .reserved key => registry.reserveKey key

/-- The registry afterwards, which is the one from before when the entry is refused. -/
def afterEntry (registry : Registry) (entry : Entry) : Registry :=
  match registry.enter entry with
  | .ok next => next
  | .error _ => registry

/-- The registry after a sequence of entries. -/
def after (registry : Registry) (entries : List Entry) : Registry :=
  entries.foldl afterEntry registry

theorem Apart.enter (h : registry.Apart) {entry : Entry} (hok : registry.enter entry = .ok next) :
    next.Apart := by
  cases entry with
  | namePrefix candidate => exact h.register hok
  | reserved key => exact h.reserveKey hok

theorem Apart.afterEntry (h : registry.Apart) (entry : Entry) : (registry.afterEntry entry).Apart := by
  rw [Registry.afterEntry]
  split
  next next hok => exact h.enter hok
  next => exact h

theorem Apart.after (h : registry.Apart) (entries : List Entry) : (registry.after entries).Apart := by
  induction entries generalizing registry with
  | nil => exact h
  | cons entry entries ih => exact ih (h.afterEntry entry)

theorem after_concat (registry : Registry) (entries : List Entry) (entry : Entry) :
    registry.after (entries ++ [entry]) = (registry.after entries).afterEntry entry := by
  rw [after, List.foldl_append]
  rfl

theorem afterEntry_refused {entry : Entry} {error : PolicyError}
    (h : registry.enter entry = .error error) : registry.afterEntry entry = registry := by
  rw [afterEntry, h]

/-! ## Names under prefixes that stand apart -/

/-- What record names tell under a registry: the prefix that they are encoded with and the name that
follows it, and under another prefix they are foreign. None is a reserved name. -/
structure TellsNames (registry : Registry) : Prop where
  owner : ∀ a name, registry.isRegistered a = true →
    registry.namespaceOf (encodeKey a name) = some a
  decoded : ∀ a b name, registry.isRegistered a = true → registry.isRegistered b = true →
    name ≠ "" → decodeKey b (encodeKey a name) =
      if b = a then .ok name else .error (.foreignNamespace b (encodeKey a name))
  injective : ∀ a b name other, registry.isRegistered a = true → registry.isRegistered b = true →
    encodeKey a name = encodeKey b other → a = b ∧ name = other
  unreserved : ∀ a name, registry.isRegistered a = true → encodeKey a name ∉ registry.keys

theorem Apart.eq_of_startsWith (h : registry.Apart) {a b : String}
    (ha : a ∈ registry.prefixes) (hb : b ∈ registry.prefixes)
    (hstartA : startsWith a key = true) (hstartB : startsWith b key = true) : a = b := by
  rcases startsWith_or_startsWith hstartA hstartB with hstart | hstart
  · exact h.separate a ha b hb hstart
  · exact (h.separate b hb a ha hstart).symm

theorem Apart.namespaceOf (h : registry.Apart) {a : String} (ha : a ∈ registry.prefixes)
    (hstart : startsWith a key = true) : registry.namespaceOf key = some a := by
  rw [Registry.namespaceOf]
  cases hfind : registry.prefixes.find? fun existing => startsWith existing key with
  | none => exact absurd hstart (List.find?_eq_none.mp hfind a ha)
  | some b =>
    have hb := List.mem_of_find?_eq_some hfind
    have hstartB : startsWith b key = true := by simpa using List.find?_some hfind
    rw [h.eq_of_startsWith hb ha hstartB hstart]

theorem decodeKey_foreign {namePrefix : String} (h : startsWith namePrefix key = false) :
    decodeKey namePrefix key = .error (.foreignNamespace namePrefix key) := by
  rw [decodeKey, if_neg (by simp [h])]

theorem Apart.tellsNames (h : registry.Apart) : registry.TellsNames := by
  constructor
  · intro a name ha
    exact h.namespaceOf (isRegistered_iff.mp ha) (startsWith_encodeKey a name)
  · intro a b name ha hb hname
    split
    next hsame =>
      subst hsame
      exact decodeKey_encodeKey hname b
    next hother =>
      refine decodeKey_foreign (Bool.eq_false_iff.mpr fun hstart => hother ?_)
      exact h.eq_of_startsWith (isRegistered_iff.mp hb) (isRegistered_iff.mp ha) hstart
        (startsWith_encodeKey a name)
  · intro a b name other ha hb hkey
    have hstart : startsWith b (encodeKey a name) = true := by
      rw [hkey]
      exact startsWith_encodeKey b other
    obtain rfl := h.eq_of_startsWith (isRegistered_iff.mp ha) (isRegistered_iff.mp hb)
      (startsWith_encodeKey a name) hstart
    exact ⟨rfl, encodeKey_injective hkey⟩
  · intro a name ha hkey
    have hfree := h.unreserved a (isRegistered_iff.mp ha) _ hkey
    rw [startsWith_encodeKey] at hfree
    exact nomatch hfree

/-- Whatever a new registry is asked to take in, its entries stand apart after each call, a refused
one changes nothing, and record names tell their prefixes and names. -/
theorem entries_stay_apart (entries : List Entry) :
    (empty.after entries).Apart ∧
      (∀ entry error, (empty.after entries).enter entry = .error error →
        empty.after (entries ++ [entry]) = empty.after entries) ∧
      (empty.after entries).TellsNames := by
  have hapart := apart_empty.after entries
  refine ⟨hapart, fun entry error herror => ?_, hapart.tellsNames⟩
  rw [after_concat, afterEntry_refused herror]

/-- What the builtin registry is asked to take in. -/
def builtinEntries : List Entry :=
  [.namePrefix Domain.strategy.namePrefix, .namePrefix Domain.allowList.namePrefix,
    .namePrefix Domain.routeGroup.namePrefix, .reserved reorgKey]

theorem after_builtinEntries : empty.after builtinEntries = builtin := rfl

/-- The builtin registry refuses a prefix that starts one of its own, and a name that looks like one
of another domain still tells its domain. -/
theorem entries_stay_apart_builtin :
    builtin.enter (.namePrefix "acl.") =
        .error (.namespaceConflict "acl." "acl.allowlist.") ∧
      builtin.afterEntry (.namePrefix "acl.") = builtin ∧
      builtin.namespaceOf "acl.allowlist.ratelimit.strategy.x" = some "acl.allowlist." ∧
      decodeKey "ratelimit.strategy." "acl.allowlist.ratelimit.strategy.x" =
        .error (.foreignNamespace "ratelimit.strategy." "acl.allowlist.ratelimit.strategy.x") := by
  obtain ⟨-, hrefused, htells⟩ := entries_stay_apart builtinEntries
  rw [after_builtinEntries] at hrefused htells
  have herror : builtin.enter (.namePrefix "acl.") =
      .error (.namespaceConflict "acl." "acl.allowlist.") := by rfl
  have hsame := hrefused _ _ herror
  rw [after_concat, after_builtinEntries] at hsame
  refine ⟨herror, hsame, ?_, ?_⟩
  · exact htells.owner "acl.allowlist." "ratelimit.strategy.x" (by decide)
  · exact htells.decoded "acl.allowlist." "ratelimit.strategy." "ratelimit.strategy.x"
      (by decide) (by decide) (by decide)

end PolicyStore.Registry
