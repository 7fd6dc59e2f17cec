import Mathlib.Algebra.Group.Nat.Defs
import PolicyStore.Proofs.Text.Judging
import PolicyStore.Settings

/-!
# Which settings are accepted

Settings are accepted when every variable is usable by itself: the connection string is there and not
blank, and each number that is given is positive and fits its width. They hold these numbers as they
are. Otherwise the first variable that is at fault is told, and those that come after it do not matter.
-/

namespace PolicyStore.Settings

variable {lookup : Variable → Option String} {source : Variable} {bound limit : Nat}

/-! ## What variables may hold -/

/-- A text gives a positive number up to a limit: it denotes the number once the blanks at its ends are
taken off. -/
def Gives (limit : Nat) (raw : String) (n : Nat) : Prop :=
  ∃ stripped, Text.Strips raw.toList stripped ∧ Text.DenotesNat stripped n ∧ 1 ≤ n ∧ n ≤ limit

/-- An override can be used when it is absent or gives a number. -/
def UsableNumber (limit : Nat) (given : Option String) : Prop :=
  ∀ raw, given = some raw → ∃ n, Gives limit raw n

/-- A variable can be used. -/
def Usable (lookup : Variable → Option String) : Variable → Prop
  | .databaseUrl =>
    ∃ url, lookup .databaseUrl = some url ∧ ∃ c ∈ url.toList, Text.isBlank c = false
  | .maxConnections => UsableNumber (2 ^ 32 - 1) (lookup .maxConnections)
  | .acquireTimeoutSecs => UsableNumber (2 ^ 64 - 1) (lookup .acquireTimeoutSecs)
  | .statementDeadlineMs => UsableNumber (2 ^ 64 - 1) (lookup .statementDeadlineMs)

/-- Settings hold what the variables give, and the defaults for the numbers that are not given. -/
structure Takes (lookup : Variable → Option String) (settings : Settings) : Prop where
  url : lookup .databaseUrl = some settings.databaseUrl
  connections : ∃ number, Option.Rel (Gives (2 ^ 32 - 1)) (lookup .maxConnections) number ∧
    settings.maxConnections.toNat = number.getD 8
  timeout : ∃ number, Option.Rel (Gives (2 ^ 64 - 1)) (lookup .acquireTimeoutSecs) number ∧
    settings.acquireTimeoutSecs.toNat = number.getD 10
  deadline : Option.Rel (Gives (2 ^ 64 - 1)) (lookup .statementDeadlineMs)
    (settings.statementDeadlineMs.map UInt64.toNat)

/-- The place of a variable in the order in which the variables are looked at. -/
def Variable.place : Variable → Nat
  | .databaseUrl => 0
  | .maxConnections => 1
  | .acquireTimeoutSecs => 2
  | .statementDeadlineMs => 3

/-- A variable cannot be used, and all that are looked at before it can. -/
structure FirstAtFault (lookup : Variable → Option String) (source : Variable) : Prop where
  unusable : ¬Usable lookup source
  earlier : ∀ other : Variable, other.place < source.place → Usable lookup other

/-- What is demanded of a variable. -/
def Variable.demand : Variable → String
  | .databaseUrl => "must be set"
  | .maxConnections | .acquireTimeoutSecs | .statementDeadlineMs => "must be a positive integer"

/-- Where a variable cannot be used, some variable is the first that cannot. -/
theorem exists_firstAtFault (h : ¬Usable lookup source) : ∃ first, FirstAtFault lookup first := by
  induction hplace : source.place using Nat.strongRecOn generalizing source with
  | ind place ih =>
    by_cases hearlier : ∀ other : Variable, other.place < source.place → Usable lookup other
    · exact ⟨source, h, hearlier⟩
    · obtain ⟨other, hother⟩ := Classical.not_forall.mp hearlier
      obtain ⟨hless, hunusable⟩ := Classical.not_imp.mp hother
      exact ih other.place (hplace ▸ hless) hunusable rfl

/-! ## Numbers -/

theorem gives_iff {raw : String} {n : Nat} :
    Gives limit raw n ↔ Text.DenotesNat (Text.trim raw.toList) n ∧ 1 ≤ n ∧ n ≤ limit := by
  constructor
  · rintro ⟨stripped, hstrips, hdenotes, hrange⟩
    rw [hstrips.eq_trim] at hdenotes
    exact ⟨hdenotes, hrange⟩
  · rintro ⟨hdenotes, hrange⟩
    exact ⟨Text.trim raw.toList, Text.strips_trim _, hdenotes, hrange⟩

theorem readPositive_eq_ok_iff {raw : String} {n : Nat} :
    readPositive bound source raw = .ok n ↔ Gives bound raw n := by
  rw [gives_iff, and_comm (a := 1 ≤ n), ← and_assoc, ← Text.readNat_eq_ok_iff, readPositive]
  cases Text.readNat bound (Text.trim raw.toList) with
  | error fault => simp
  | ok m =>
    cases m with
    | zero =>
      simp only [reduceCtorEq, Except.ok.injEq, false_iff]
      omega
    | succ m =>
      simp only [Except.ok.injEq]
      omega

theorem readPositive_eq_error {raw : String} (h : ¬∃ n, Gives bound raw n) :
    readPositive bound source raw =
      .error (.invalidSetting source.name "must be a positive integer") := by
  have hnone : ∀ n, readPositive bound source raw ≠ .ok n :=
    fun n hn => h ⟨n, readPositive_eq_ok_iff.mp hn⟩
  rw [readPositive] at hnone ⊢
  split at hnone
  next n _ => exact absurd rfl (hnone (n + 1))
  next => rfl

theorem readOverride_eq_ok_iff {number : Option Nat} :
    readOverride bound source lookup = .ok number ↔
      Option.Rel (Gives bound) (lookup source) number := by
  rw [readOverride]
  cases lookup source with
  | none =>
    constructor
    · intro h
      cases h
      exact .none
    · intro h
      cases h
      rfl
  | some raw =>
    dsimp only
    constructor
    · intro h
      cases hread : readPositive bound source raw with
      | error error =>
        rw [hread] at h
        cases h
      | ok n =>
        rw [hread] at h
        cases h
        exact .some (readPositive_eq_ok_iff.mp hread)
    · intro h
      cases h with
      | some hgives => rw [readPositive_eq_ok_iff.mpr hgives]; rfl

theorem readOverride_of_usable (h : UsableNumber bound (lookup source)) :
    ∃ number, readOverride bound source lookup = .ok number := by
  cases hgiven : lookup source with
  | none => exact ⟨none, readOverride_eq_ok_iff.mpr (hgiven ▸ .none)⟩
  | some raw =>
    obtain ⟨n, hn⟩ := h raw hgiven
    exact ⟨some n, readOverride_eq_ok_iff.mpr (hgiven ▸ .some hn)⟩

theorem readOverride_of_unusable (h : ¬UsableNumber bound (lookup source)) :
    readOverride bound source lookup =
      .error (.invalidSetting source.name "must be a positive integer") := by
  obtain ⟨raw, hraw⟩ := Classical.not_forall.mp h
  obtain ⟨hgiven, hnone⟩ := Classical.not_imp.mp hraw
  rw [readOverride, hgiven]
  dsimp only
  rw [readPositive_eq_error hnone]
  rfl

/-! ## The variables in turn -/

/-- Reads the numbers once the connection string has been found good. -/
def readNumbers (lookup : Variable → Option String) (url : String) : Except StoreError Settings := do
  let connections ← readOverride (UInt32.size - 1) .maxConnections lookup
  let timeout ← readOverride (UInt64.size - 1) .acquireTimeoutSecs lookup
  let deadline ← readOverride (UInt64.size - 1) .statementDeadlineMs lookup
  return {
    databaseUrl := url
    maxConnections := (connections.map UInt32.ofNat).getD defaultMaxConnections
    acquireTimeoutSecs := (timeout.map UInt64.ofNat).getD defaultAcquireTimeoutSecs
    statementDeadlineMs := deadline.map UInt64.ofNat }

theorem isBlankText_eq_false_iff {text : String} :
    Text.isBlankText text = false ↔ ∃ c ∈ text.toList, Text.isBlank c = false := by
  rw [Text.isBlankText, List.all_eq_false]
  simp only [Bool.not_eq_true]

theorem ofLookup_of_url (h : Usable lookup .databaseUrl) :
    ∃ url, lookup .databaseUrl = some url ∧ ofLookup lookup = readNumbers lookup url := by
  obtain ⟨url, hurl, hblank⟩ := h
  refine ⟨url, hurl, ?_⟩
  rw [ofLookup, hurl]
  dsimp only
  rw [isBlankText_eq_false_iff.mpr hblank]
  rfl

theorem ofLookup_of_no_url (h : ¬Usable lookup .databaseUrl) :
    ofLookup lookup = .error (.invalidSetting Variable.databaseUrl.name "must be set") := by
  rw [ofLookup]
  cases hurl : lookup .databaseUrl with
  | none => rfl
  | some url =>
    have hblank : Text.isBlankText url = true := by
      refine eq_true_of_ne_false fun hfilled => h ⟨url, hurl, ?_⟩
      exact isBlankText_eq_false_iff.mp hfilled
    dsimp only
    rw [if_pos hblank]
    rfl

/-- The first variable at fault is told. -/
theorem FirstAtFault.ofLookup_eq (h : FirstAtFault lookup source) :
    ofLookup lookup = .error (.invalidSetting source.name source.demand) := by
  have hconnections (hearlier : Variable.maxConnections.place < source.place) :
      ∃ number, readOverride (UInt32.size - 1) .maxConnections lookup = .ok number :=
    readOverride_of_usable (h.earlier .maxConnections hearlier)
  have htimeout (hearlier : Variable.acquireTimeoutSecs.place < source.place) :
      ∃ number, readOverride (UInt64.size - 1) .acquireTimeoutSecs lookup = .ok number :=
    readOverride_of_usable (h.earlier .acquireTimeoutSecs hearlier)
  cases source with
  | databaseUrl => exact ofLookup_of_no_url h.unusable
  | maxConnections =>
    have hfault : readOverride (UInt32.size - 1) .maxConnections lookup = .error _ :=
      readOverride_of_unusable h.unusable
    obtain ⟨url, -, hrest⟩ := ofLookup_of_url (h.earlier .databaseUrl (by decide))
    rw [hrest, readNumbers, hfault]
    rfl
  | acquireTimeoutSecs =>
    have hfault : readOverride (UInt64.size - 1) .acquireTimeoutSecs lookup = .error _ :=
      readOverride_of_unusable h.unusable
    obtain ⟨url, -, hrest⟩ := ofLookup_of_url (h.earlier .databaseUrl (by decide))
    obtain ⟨connections, hconnections⟩ := hconnections (by decide)
    rw [hrest]
    simp only [readNumbers, hconnections, hfault, bind, Except.bind]
    rfl
  | statementDeadlineMs =>
    have hfault : readOverride (UInt64.size - 1) .statementDeadlineMs lookup = .error _ :=
      readOverride_of_unusable h.unusable
    obtain ⟨url, -, hrest⟩ := ofLookup_of_url (h.earlier .databaseUrl (by decide))
    obtain ⟨connections, hconnections⟩ := hconnections (by decide)
    obtain ⟨timeout, htimeout⟩ := htimeout (by decide)
    rw [hrest]
    simp only [readNumbers, hconnections, htimeout, hfault, bind, Except.bind]
    rfl

/-! ## What accepted settings hold -/

theorem toNat_connections {number : Option Nat} {given : Option String}
    (h : Option.Rel (Gives (2 ^ 32 - 1)) given number) :
    ((number.map UInt32.ofNat).getD defaultMaxConnections).toNat = number.getD 8 := by
  cases h with
  | none => rfl
  | some hgives =>
    obtain ⟨-, -, -, -, hlimit⟩ := hgives
    exact UInt32.toNat_ofNat_of_lt' (Nat.lt_of_le_of_lt hlimit (by decide))

theorem toNat_timeout {number : Option Nat} {given : Option String}
    (h : Option.Rel (Gives (2 ^ 64 - 1)) given number) :
    ((number.map UInt64.ofNat).getD defaultAcquireTimeoutSecs).toNat = number.getD 10 := by
  cases h with
  | none => rfl
  | some hgives =>
    obtain ⟨-, -, -, -, hlimit⟩ := hgives
    exact UInt64.toNat_ofNat_of_lt' (Nat.lt_of_le_of_lt hlimit (by decide))

theorem toNat_deadline {number : Option Nat} {given : Option String}
    (h : Option.Rel (Gives (2 ^ 64 - 1)) given number) :
    (number.map UInt64.ofNat).map UInt64.toNat = number := by
  cases h with
  | none => rfl
  | some hgives =>
    obtain ⟨-, -, -, -, hlimit⟩ := hgives
    exact congrArg some (UInt64.toNat_ofNat_of_lt' (Nat.lt_of_le_of_lt hlimit (by decide)))

/-- When all variables can be used there are settings, and they hold what the variables give. -/
theorem exists_taken (h : ∀ source, Usable lookup source) :
    ∃ settings, ofLookup lookup = .ok settings ∧ Takes lookup settings := by
  obtain ⟨url, hurl, hrest⟩ := ofLookup_of_url (h .databaseUrl)
  obtain ⟨connections, hconnections⟩ :
      ∃ number, readOverride (UInt32.size - 1) .maxConnections lookup = .ok number :=
    readOverride_of_usable (h .maxConnections)
  obtain ⟨timeout, htimeout⟩ :
      ∃ number, readOverride (UInt64.size - 1) .acquireTimeoutSecs lookup = .ok number :=
    readOverride_of_usable (h .acquireTimeoutSecs)
  obtain ⟨deadline, hdeadline⟩ :
      ∃ number, readOverride (UInt64.size - 1) .statementDeadlineMs lookup = .ok number :=
    readOverride_of_usable (h .statementDeadlineMs)
  have hrelConnections := readOverride_eq_ok_iff.mp hconnections
  have hrelTimeout := readOverride_eq_ok_iff.mp htimeout
  have hrelDeadline := readOverride_eq_ok_iff.mp hdeadline
  refine ⟨⟨url, (connections.map UInt32.ofNat).getD defaultMaxConnections,
    (timeout.map UInt64.ofNat).getD defaultAcquireTimeoutSecs, deadline.map UInt64.ofNat⟩, ?_, ?_⟩
  · rw [hrest]
    simp only [readNumbers, hconnections, htimeout, hdeadline, bind, Except.bind]
    rfl
  · refine ⟨hurl, ⟨connections, hrelConnections, toNat_connections hrelConnections⟩,
      ⟨timeout, hrelTimeout, toNat_timeout hrelTimeout⟩, ?_⟩
    rw [toNat_deadline hrelDeadline]
    exact hrelDeadline

theorem Gives.unique {raw : String} {m n : Nat} (hm : Gives limit raw m) (hn : Gives limit raw n) :
    m = n := by
  have hread : readPositive limit .maxConnections raw = .ok m := readPositive_eq_ok_iff.mpr hm
  rw [readPositive_eq_ok_iff.mpr hn] at hread
  exact (Except.ok.inj hread).symm

theorem Gives.rel_unique {given : Option String} {a b : Option Nat}
    (ha : Option.Rel (Gives limit) given a) (hb : Option.Rel (Gives limit) given b) : a = b := by
  cases ha with
  | none =>
    cases hb with
    | none => rfl
  | some ha =>
    cases hb with
    | some hb => rw [ha.unique hb]

/-- What the variables give decides the settings. -/
theorem Takes.unique {settings other : Settings} (h : Takes lookup settings)
    (hother : Takes lookup other) : settings = other := by
  have hurl : settings.databaseUrl = other.databaseUrl :=
    Option.some.inj (h.url.symm.trans hother.url)
  have hconnections : settings.maxConnections = other.maxConnections := by
    obtain ⟨number, hnumber, hholds⟩ := h.connections
    obtain ⟨same, hsame, hholdsSame⟩ := hother.connections
    rw [Gives.rel_unique hsame hnumber, ← hholds] at hholdsSame
    exact (UInt32.toNat_inj.mp hholdsSame).symm
  have htimeout : settings.acquireTimeoutSecs = other.acquireTimeoutSecs := by
    obtain ⟨number, hnumber, hholds⟩ := h.timeout
    obtain ⟨same, hsame, hholdsSame⟩ := hother.timeout
    rw [Gives.rel_unique hsame hnumber, ← hholds] at hholdsSame
    exact (UInt64.toNat_inj.mp hholdsSame).symm
  have hdeadline : settings.statementDeadlineMs = other.statementDeadlineMs :=
    Option.map_injective (fun _ _ => UInt64.toNat_inj.mp)
      (Gives.rel_unique h.deadline hother.deadline)
  obtain ⟨url, connections, timeout, deadline⟩ := settings
  rw [Settings.mk.injEq]
  exact ⟨hurl, hconnections, htimeout, hdeadline⟩

/-- Settings are accepted just when every variable can be used, and then they hold what the variables
give. Otherwise the first variable at fault is told, whatever the later ones hold. -/
theorem usable_settings_taken (lookup : Variable → Option String) :
    ((∃ settings, ofLookup lookup = .ok settings) ↔ ∀ source, Usable lookup source) ∧
      (∀ settings, ofLookup lookup = .ok settings ↔
        (∀ source, Usable lookup source) ∧ Takes lookup settings) ∧
      ∀ error, ofLookup lookup = .error error ↔
        ∃ source, FirstAtFault lookup source ∧
          error = .invalidSetting source.name source.demand := by
  by_cases h : ∀ source, Usable lookup source
  · obtain ⟨settings, hok, htakes⟩ := exists_taken h
    refine ⟨iff_of_true ⟨settings, hok⟩ h, fun other => ?_, fun error => ?_⟩
    · rw [hok, Except.ok.injEq]
      constructor
      · rintro rfl
        exact ⟨h, htakes⟩
      · rintro ⟨-, hother⟩
        exact htakes.unique hother
    · refine iff_of_false (by simp [hok]) ?_
      rintro ⟨source, hfirst, -⟩
      exact hfirst.unusable (h source)
  · obtain ⟨source, hunusable⟩ := Classical.not_forall.mp h
    obtain ⟨first, hfirst⟩ := exists_firstAtFault hunusable
    have herror := hfirst.ofLookup_eq
    refine ⟨iff_of_false (by simp [herror]) h, fun settings => ?_, fun error => ?_⟩
    · exact iff_of_false (by simp [herror]) fun hall => h hall.1
    · rw [herror, Except.error.injEq]
      constructor
      · rintro rfl
        exact ⟨first, hfirst, rfl⟩
      · rintro ⟨other, hother, rfl⟩
        exact Except.error.inj (herror.symm.trans hother.ofLookup_eq)

/-- A zero in any spelling is at fault, and what comes after it does not matter. -/
example : ofLookup (fun
    | .databaseUrl => some " db "
    | .maxConnections => some " +000 "
    | .acquireTimeoutSecs => some "-1"
    | .statementDeadlineMs => some "") =
    .error (.invalidSetting "RPCGATE_DB_MAX_CONNECTIONS" "must be a positive integer") := rfl

end PolicyStore.Settings
