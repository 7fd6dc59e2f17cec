import PolicyStore.Proofs.Json.Accepting

/-!
# What the skipper passes over

With its stack of open lists and objects the skipper has gone part of the way through a value. What is
left of the way is fixed by the stack: `Closes` says it, and each step of the skipper goes along it. So
all that the skipper passes over is a value.
-/

namespace PolicyStore.Json

open Grammar

/-! ## What is left of a value -/

/-- What is left of a list or an object: all that follows its opening bracket, or all that follows one
of its items. -/
def Left : Frame → Bool → List Char → Prop
  | .list, true, s => Value ('[' :: s)
  | .list, false, s => Items s
  | .object, true, s => Value ('{' :: s)
  | .object, false, s => Members s

/-- A list or an object may be closed at any time. -/
theorem left_closer {gap : List Char} (hg : IsGap gap) (frame : Frame) (first : Bool) :
    Left frame first (gap ++ [frame.closer]) := by
  cases frame with
  | list =>
    cases first with
    | true => exact .emptyList hg
    | false => exact .nil hg
  | object =>
    cases first with
    | true => exact .emptyObject hg
    | false => exact .nil hg

/-- What closes all of the open frames, innermost first. -/
def Closes : List Frame → List Char → Prop
  | [], s => s = []
  | frame :: frames, s => ∃ v t, s = v ++ t ∧ Left frame false v ∧ Closes frames t

/-- What has to come at a stage of the skipper until all frames are closed. -/
def Stage.Demands (frames : List Frame) : Stage → List Char → Prop
  | .due, s => ∃ gap v t, s = gap ++ (v ++ t) ∧ IsGap gap ∧ Value v ∧ Closes frames t
  | .opened frame, s => ∃ v t, s = v ++ t ∧ Left frame true v ∧ Closes frames t
  | .ended, s => Closes frames s

/-- What the skipper passes over is what its stage demands. -/
theorem skipFrom_takes {stage : Stage} {frames : List Frame} {s r : List Char}
    (h : skipFrom stage frames s = .ok r) : ∃ p, stage.Demands frames p ∧ s = p ++ r := by
  fun_induction skipFrom stage frames s with
  | case1 => cases h
  | case2 frames s rest hgap hlength ih =>
    obtain ⟨gap, hg, rfl⟩ := exists_gap_of_eq hgap
    obtain ⟨_, ⟨v, t, rfl, hv, ht⟩, rfl⟩ := ih h
    exact ⟨_, ⟨gap, '[' :: v, t, rfl, hg, hv, ht⟩, by simp⟩
  | case3 frames s rest hgap hlength _ ih =>
    obtain ⟨gap, hg, rfl⟩ := exists_gap_of_eq hgap
    obtain ⟨_, ⟨v, t, rfl, hv, ht⟩, rfl⟩ := ih h
    exact ⟨_, ⟨gap, '{' :: v, t, rfl, hg, hv, ht⟩, by simp⟩
  | case4 => cases h
  | case5 frames s c rest hgap hlength hl ho after hscalar hshorter ih =>
    obtain ⟨gap, hg, rfl⟩ := exists_gap_of_eq hgap
    obtain ⟨v, hv, heq⟩ := skipScalar_takes hscalar
    obtain ⟨t, ht, rfl⟩ := ih h
    exact ⟨_, ⟨gap, v, t, rfl, hg, hv, ht⟩, by simp [heq]⟩
  | case6 => cases h
  | case7 frames s frame rest hgap hlength ih =>
    obtain ⟨gap, hg, rfl⟩ := exists_gap_of_eq hgap
    obtain ⟨t, ht, rfl⟩ := ih h
    exact ⟨_, ⟨_, t, rfl, left_closer hg frame true, ht⟩, by simp⟩
  | case8 frames s c rest hgap hlength hc ih =>
    obtain ⟨gap, hg, rfl⟩ := exists_gap_of_eq hgap
    obtain ⟨_, ⟨more, v, _, rfl, hm, hv, others, t, rfl, hothers, ht⟩, heq⟩ := ih h
    exact ⟨_, ⟨_, t, rfl, .list (isGap_append hg hm) hv hothers, ht⟩, by simp [heq]⟩
  | case9 => cases h
  | case10 frames s c rest hgap hlength after hkey hshorter hc ih =>
    obtain ⟨gap, hg, rfl⟩ := exists_gap_of_eq hgap
    obtain ⟨more, k, before, hm, hk, hb, heq⟩ := skipKey_takes hkey
    obtain ⟨_, ⟨between, v, _, rfl, ha, hv, others, t, rfl, hothers, ht⟩, rfl⟩ := ih h
    exact ⟨_, ⟨_, t, rfl, .object (isGap_append hg hm) (.colon hk hb ha hv) hothers, ht⟩,
      by simp [heq]⟩
  | case11 s =>
    obtain rfl := Except.ok.inj h
    exact ⟨[], rfl, rfl⟩
  | case12 => cases h
  | case13 s frame frames rest hgap hlength ih =>
    obtain ⟨gap, hg, rfl⟩ := exists_gap_of_eq hgap
    obtain ⟨t, ht, rfl⟩ := ih h
    exact ⟨_, ⟨_, t, rfl, left_closer hg frame false, ht⟩, by simp⟩
  | case14 s frames rest hgap hlength hc ih =>
    obtain ⟨gap, hg, rfl⟩ := exists_gap_of_eq hgap
    obtain ⟨_, ⟨after, v, _, rfl, ha, hv, others, t, rfl, hothers, ht⟩, rfl⟩ := ih h
    exact ⟨_, ⟨_, t, rfl, .cons hg ha hv hothers, ht⟩, by simp⟩
  | case15 => cases h
  | case16 s frames rest after hkey hgap hlength hshorter hc ih =>
    obtain ⟨gap, hg, rfl⟩ := exists_gap_of_eq hgap
    obtain ⟨more, k, before, hm, hk, hb, rfl⟩ := skipKey_takes hkey
    obtain ⟨_, ⟨between, v, _, rfl, ha, hv, others, t, rfl, hothers, ht⟩, rfl⟩ := ih h
    exact ⟨_, ⟨_, t, rfl, .cons hg hm (.colon hk hb ha hv) hothers, ht⟩, by simp⟩
  | case17 => cases h

/-- What the skipper passes over is a value. -/
theorem skipValue_takes {s r : List Char} (h : skipValue s = .ok r) :
    ∃ gap v, IsGap gap ∧ Value v ∧ s = gap ++ (v ++ r) := by
  obtain ⟨_, ⟨gap, v, _, rfl, hg, hv, rfl⟩, rfl⟩ := skipFrom_takes h
  exact ⟨gap, v, hg, hv, by simp⟩

end PolicyStore.Json
