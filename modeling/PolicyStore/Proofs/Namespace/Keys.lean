import PolicyStore.Policy.Basic

/-!
# Record names and policy names

The record name of a policy starts with the prefix of its domain, and what follows is the name of
the policy. Only the empty name is lost. No name starts with the prefixes of two domains, and that of
the reorganization counter starts with none.
-/

namespace PolicyStore

theorem startsWith_iff (start text : String) :
    startsWith start text = true ↔ start.toList <+: text.toList := by
  rw [startsWith, List.isPrefixOf_iff_prefix]

theorem startsWith_self (text : String) : startsWith text text = true :=
  (startsWith_iff text text).mpr (List.prefix_refl _)

theorem startsWith_trans {a b c : String} (hab : startsWith a b = true)
    (hbc : startsWith b c = true) : startsWith a c = true := by
  rw [startsWith_iff] at hab hbc ⊢
  exact hab.trans hbc

theorem toList_encodeKey (namePrefix name : String) :
    (encodeKey namePrefix name).toList = namePrefix.toList ++ name.toList := by
  rw [encodeKey, String.toList_append]

theorem startsWith_encodeKey (namePrefix name : String) :
    startsWith namePrefix (encodeKey namePrefix name) = true := by
  rw [startsWith_iff, toList_encodeKey]
  exact List.prefix_append _ _

theorem afterStart_encodeKey (namePrefix name : String) :
    afterStart namePrefix (encodeKey namePrefix name) = name := by
  rw [afterStart, toList_encodeKey, List.drop_left, String.ofList_toList]

theorem decodeKey_encodeKey {name : String} (h : name ≠ "") (namePrefix : String) :
    decodeKey namePrefix (encodeKey namePrefix name) = .ok name := by
  rw [decodeKey, if_pos (startsWith_encodeKey namePrefix name)]
  dsimp only
  rw [afterStart_encodeKey, if_neg (by simpa using h)]

theorem decodeKey_encodeKey_empty (namePrefix : String) :
    decodeKey namePrefix (encodeKey namePrefix "") =
      .error (.emptyLogicalName namePrefix (encodeKey namePrefix "")) := by
  rw [decodeKey, if_pos (startsWith_encodeKey namePrefix "")]
  dsimp only
  rw [afterStart_encodeKey, if_pos (by rfl)]

theorem encodeKey_injective {namePrefix a b : String}
    (h : encodeKey namePrefix a = encodeKey namePrefix b) : a = b := by
  rw [← afterStart_encodeKey namePrefix a, h, afterStart_encodeKey]

theorem encodeKey_afterStart {namePrefix key : String} (h : startsWith namePrefix key = true) :
    encodeKey namePrefix (afterStart namePrefix key) = key := by
  rw [startsWith_iff] at h
  obtain ⟨rest, hrest⟩ := h
  refine String.toList_injective ?_
  rw [toList_encodeKey, afterStart, String.toList_ofList, ← hrest, List.drop_left]

/-- A record name is decoded to the names that it is encoded from. -/
theorem decodeKey_eq_ok_iff {namePrefix key name : String} :
    decodeKey namePrefix key = .ok name ↔ name ≠ "" ∧ key = encodeKey namePrefix name := by
  constructor
  · intro h
    rw [decodeKey] at h
    split at h
    next hstart =>
      dsimp only at h
      split at h
      · simp at h
      next hname =>
        obtain rfl := Except.ok.inj h
        exact ⟨by simpa using hname, (encodeKey_afterStart hstart).symm⟩
    · simp at h
  · rintro ⟨hname, rfl⟩
    exact decodeKey_encodeKey hname namePrefix

/-! ## One domain to a name -/

/-- Of two texts that one name starts with, one starts with the other. -/
theorem startsWith_or_startsWith {a b key : String} (ha : startsWith a key = true)
    (hb : startsWith b key = true) : startsWith a b = true ∨ startsWith b a = true := by
  rw [startsWith_iff] at ha hb
  rw [startsWith_iff, startsWith_iff]
  exact List.prefix_or_prefix_of_prefix ha hb

theorem domain_eq_of_startsWith {a b : Domain} {key : String}
    (ha : startsWith a.namePrefix key = true) (hb : startsWith b.namePrefix key = true) : a = b := by
  have hapart : ∀ c d : Domain, startsWith c.namePrefix d.namePrefix = true → c = d := by
    intro c d
    cases c <;> cases d <;> decide
  rcases startsWith_or_startsWith ha hb with h | h
  · exact hapart a b h
  · exact (hapart b a h).symm

theorem startsWith_key (domain : Domain) (name : String) :
    startsWith domain.namePrefix (domain.key name) = true :=
  startsWith_encodeKey domain.namePrefix name

/-- The names of a domain's records start with its prefix. -/
theorem key_ne {domain : Domain} {key : String} (h : startsWith domain.namePrefix key = false)
    (name : String) : domain.key name ≠ key := by
  rintro rfl
  rw [startsWith_key] at h
  exact nomatch h

theorem startsWith_reorgKey (domain : Domain) : startsWith domain.namePrefix reorgKey = false := by
  cases domain <;> decide

theorem key_ne_reorgKey (domain : Domain) (name : String) : domain.key name ≠ reorgKey :=
  key_ne (startsWith_reorgKey domain) name

end PolicyStore
