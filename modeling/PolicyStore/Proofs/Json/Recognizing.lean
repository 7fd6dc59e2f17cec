import PolicyStore.Json.Choice
import PolicyStore.Json.RecordReader
import PolicyStore.Proofs.Json.Closing

/-!
# What readers accept

A reader that gives a value has taken a value of the grammar from the text, after a gap. Lists and
objects are read item by item, and what is left of them after an item is told as for the skipper. A
record is an object or a list, whatever its fields are; the members that no field is for have been
passed over.
-/

namespace PolicyStore.Json

open Grammar

variable {α σ : Type} {s r t : List Char}

namespace Reader

/-- What a reader takes from a text has a form, but for the gap before it. -/
def Accepts (form : List Char → Prop) (reader : Reader α) : Prop :=
  ∀ ⦃s r : List Char⦄ ⦃a : α⦄, reader.read s = .ok (a, r) →
    ∃ gap v, IsGap gap ∧ form v ∧ s = gap ++ (v ++ r)

theorem accepts_map {β : Type} {form : List Char → Prop} {reader : Reader α}
    (h : reader.Accepts form) (f : α → β) : (reader.map f).Accepts form := by
  intro s r b hread
  obtain ⟨⟨a, rest⟩, hinner, heq⟩ := exists_of_map_eq_ok hread
  obtain ⟨-, rfl⟩ := Prod.mk.inj heq
  exact h hinner

/-! ## Scalars -/

theorem accepts_flag : flag.Accepts Value := by
  intro s r b hread
  have word {word : List Char} {rest : List Char} {value : Bool}
      (h : (scanWord word rest).map (value, ·) = .ok (b, r)) : rest = word ++ r := by
    obtain ⟨after, hscan, heq⟩ := exists_of_map_eq_ok h
    obtain ⟨-, rfl⟩ := Prod.mk.inj heq
    exact scanWord_takes hscan
  change readFlag s = _ at hread
  rw [readFlag] at hread
  split at hread
  next => cases hread
  next rest hgap =>
    obtain ⟨gap, hg, rfl⟩ := exists_gap_of_eq hgap
    exact ⟨gap, _, hg, .flag true, by rw [word hread]; rfl⟩
  next rest hgap =>
    obtain ⟨gap, hg, rfl⟩ := exists_gap_of_eq hgap
    exact ⟨gap, _, hg, .flag false, by rw [word hread]; rfl⟩
  next => cases hread

theorem readText_takes {expected text : String} (h : readText expected s = .ok (text, r)) :
    ∃ gap v, IsGap gap ∧ Quoted v ∧ s = gap ++ (v ++ r) := by
  rw [readText] at h
  split at h
  next => cases h
  next rest hgap =>
    obtain ⟨gap, hg, rfl⟩ := exists_gap_of_eq hgap
    obtain ⟨⟨chars, after⟩, hscan, heq⟩ := exists_of_map_eq_ok h
    obtain ⟨-, rfl⟩ := Prod.mk.inj heq
    obtain ⟨v, hv, hrest⟩ := quoted_of_characters (scanText_takes hscan)
    exact ⟨gap, v, hg, hv, by rw [hrest]⟩
  next => cases h

theorem accepts_text : text.Accepts Value := by
  intro s r value hread
  obtain ⟨gap, v, hg, hv, heq⟩ := readText_takes hread
  exact ⟨gap, v, hg, .quoted hv, heq⟩

theorem scanNumber_takes {n : Number} (h : scanNumber s = .ok (n, r)) :
    ∃ v, Value v ∧ s = v ++ r := by
  rw [scanNumber] at h
  split at h
  next => cases h
  next numeral rest hscan =>
    obtain ⟨hwell, heq⟩ := scanNumeral_takes hscan
    split at h
    next =>
      obtain ⟨-, rfl⟩ := Prod.mk.inj (Except.ok.inj h)
      exact ⟨_, .number hwell, heq⟩
    next => cases h

theorem accepts_natural (bound : Nat) (expected : String) :
    (natural bound expected).Accepts Value := by
  intro s r n hread
  change readNatural bound expected s = _ at hread
  rw [readNatural] at hread
  split at hread
  next => cases hread
  next c rest hgap =>
    obtain ⟨gap, hg, rfl⟩ := exists_gap_of_eq hgap
    split at hread
    next =>
      split at hread
      next => cases hread
      next m after hscan =>
        split at hread
        next =>
          obtain ⟨-, rfl⟩ := Prod.mk.inj (Except.ok.inj hread)
          obtain ⟨v, hv, heq⟩ := scanNumber_takes hscan
          exact ⟨gap, v, hg, hv, by rw [heq]⟩
        next => cases hread
      next => cases hread
      next => cases hread
    next => cases hread

/-! ## Lists -/

theorem endList_takes (h : endList s = .ok r) : ∃ gap, IsGap gap ∧ s = gap ++ ']' :: r := by
  rw [endList] at h
  split at h
  next rest hgap =>
    obtain rfl := Except.ok.inj h
    exact exists_gap_of_eq hgap
  next => split at h <;> cases h
  next => cases h
  next => cases h

/-- Where a list may end, nothing is left of it but its closing bracket. -/
theorem left_endList {gap : List Char} (hg : IsGap gap) (first : Bool) (h : endList s = .ok r) :
    ∃ v, Left .list first v ∧ gap ++ s = v ++ r := by
  obtain ⟨more, hm, rfl⟩ := endList_takes h
  exact ⟨_, left_closer (isGap_append hg hm) .list first, by simp [Frame.closer]⟩

variable {item : Reader α}

theorem left_firstItem {gap : List Char} {a : α} (hi : item.Accepts Value) (hg : IsGap gap)
    (hread : item.read s = .ok (a, r)) (hleft : ∃ v, Left .list false v ∧ r = v ++ t) :
    ∃ v, Left .list true v ∧ gap ++ s = v ++ t := by
  obtain ⟨more, v, hm, hv, rfl⟩ := hi hread
  obtain ⟨others, hothers, rfl⟩ := hleft
  exact ⟨_, .list (isGap_append hg hm) hv hothers, by simp⟩

theorem left_nextItem {gap : List Char} {a : α} (hi : item.Accepts Value) (hg : IsGap gap)
    (hread : item.read s = .ok (a, r)) (hleft : ∃ v, Left .list false v ∧ r = v ++ t) :
    ∃ v, Left .list false v ∧ gap ++ ',' :: s = v ++ t := by
  obtain ⟨more, v, hm, hv, rfl⟩ := hi hread
  obtain ⟨others, hothers, rfl⟩ := hleft
  exact ⟨_, .cons hg hm hv hothers, by simp⟩

theorem readItems_takes (hi : item.Accepts Value) {first : Bool} {read items : List α}
    (h : readItems item first read s = .ok (items, r)) (hend : endList r = .ok t) :
    ∃ v, Left .list first v ∧ s = v ++ t := by
  fun_induction readItems item first read s with
  | case1 => cases h
  | case2 first read s rest hgap hlength =>
    obtain ⟨gap, hg, rfl⟩ := exists_gap_of_eq hgap
    obtain ⟨-, rfl⟩ := Prod.mk.inj (Except.ok.inj h)
    exact left_endList hg first hend
  | case3 => cases h
  | case4 read s c rest hgap hlength hc a after hread hshorter ih =>
    obtain ⟨gap, hg, rfl⟩ := exists_gap_of_eq hgap
    exact left_firstItem hi hg hread (ih h)
  | case5 => cases h
  | case6 => cases h
  | case7 => cases h
  | case8 first read s rest hnot a after hread _ _ hgap hlength hc hshorter ih =>
    obtain ⟨gap, hg, rfl⟩ := exists_gap_of_eq hgap
    rw [eq_false_of_ne_true hnot]
    exact left_nextItem hi hg hread (ih h)
  | case9 => cases h

theorem accepts_list (hi : item.Accepts Value) : (list item).Accepts Value := by
  intro s r items hread
  change readList item s = _ at hread
  rw [readList] at hread
  split at hread
  next => cases hread
  next rest hgap =>
    obtain ⟨gap, hg, rfl⟩ := exists_gap_of_eq hgap
    split at hread
    next => cases hread
    next read after hitems =>
      obtain ⟨last, hend, heq⟩ := exists_of_map_eq_ok hread
      obtain ⟨-, rfl⟩ := Prod.mk.inj heq
      obtain ⟨v, hv, rfl⟩ := readItems_takes hi hitems hend
      exact ⟨gap, '[' :: v, hg, hv, rfl⟩
  next => cases hread

/-! ## Objects -/

theorem endObject_takes (h : endObject s = .ok r) : ∃ gap, IsGap gap ∧ s = gap ++ '}' :: r := by
  rw [endObject] at h
  split at h
  next rest hgap =>
    obtain rfl := Except.ok.inj h
    exact exists_gap_of_eq hgap
  next => cases h
  next => cases h
  next => cases h

theorem readKey_key_takes {key : Option String} (h : readKey.key s = .ok (key, r)) :
    key.isSome = true ∧ ∃ k, Quoted k ∧ '"' :: s = k ++ r := by
  obtain ⟨⟨chars, after⟩, hscan, heq⟩ := exists_of_map_eq_ok h
  obtain ⟨rfl, rfl⟩ := Prod.mk.inj heq
  exact ⟨rfl, quoted_of_characters (scanText_takes hscan)⟩

/-- What stands before the key of a member: a gap, and a comma unless the member is the first one. -/
def BeforeKey : Bool → List Char → Prop
  | true, s => IsGap s
  | false, s => ∃ before after, IsGap before ∧ IsGap after ∧ s = before ++ ',' :: after

/-- Of an object a key is taken, or a gap up to its end. -/
theorem readKey_takes {first : Bool} {key : Option String} (h : readKey first s = .ok (key, r)) :
    (key = none ∧ ∃ gap, IsGap gap ∧ s = gap ++ r) ∨
      key.isSome = true ∧ ∃ before k, BeforeKey first before ∧ Quoted k ∧ s = before ++ (k ++ r) := by
  rw [readKey] at h
  split at h
  next => cases h
  next c rest hgap =>
    obtain ⟨gap, hg, rfl⟩ := exists_gap_of_eq hgap
    split at h
    next hc =>
      obtain ⟨rfl, rfl⟩ := Prod.mk.inj (Except.ok.inj h)
      exact .inl ⟨rfl, gap, hg, rfl⟩
    next =>
      split at h
      next hfirst =>
        split at h
        next hquote =>
          obtain ⟨hkey, k, hk, heq⟩ := readKey_key_takes h
          rw [hfirst, hquote]
          exact .inr ⟨hkey, gap, k, hg, hk, by rw [heq]⟩
        next => cases h
      next hfirst =>
        split at h
        next hcomma =>
          split at h
          next => cases h
          next more hmore =>
            obtain ⟨after, ha, rfl⟩ := exists_gap_of_eq hmore
            obtain ⟨hkey, k, hk, heq⟩ := readKey_key_takes h
            rw [eq_false_of_ne_true hfirst, hcomma, heq]
            exact .inr ⟨hkey, _, k, ⟨gap, after, hg, ha, rfl⟩, hk, by simp⟩
          next => cases h
          next => cases h
        next => cases h

/-- Where an object may end, nothing is left of it but its closing brace. -/
theorem left_endObject {first : Bool} (hkey : readKey first s = .ok (none, r))
    (h : endObject r = .ok t) : ∃ v, Left .object first v ∧ s = v ++ t := by
  rcases readKey_takes hkey with ⟨-, gap, hg, rfl⟩ | ⟨hnot, -⟩
  · obtain ⟨more, hm, rfl⟩ := endObject_takes h
    exact ⟨_, left_closer (isGap_append hg hm) .object first, by simp [Frame.closer]⟩
  · cases hnot

/-- A member that has been taken, with what is left of the object after it. -/
theorem left_member {first : Bool} {key : String} {colon value after : List Char}
    (hkey : readKey first s = .ok (some key, colon)) (hcolon : scanColon colon = .ok value)
    (hvalue : ∃ gap v, IsGap gap ∧ Value v ∧ value = gap ++ (v ++ after))
    (hleft : ∃ v, Left .object false v ∧ after = v ++ t) :
    ∃ v, Left .object first v ∧ s = v ++ t := by
  rcases readKey_takes hkey with ⟨hnot, -⟩ | ⟨-, before, k, hbefore, hk, rfl⟩
  · cases hnot
  obtain ⟨between, hb, rfl⟩ := scanColon_takes hcolon
  obtain ⟨gap, v, hg, hv, rfl⟩ := hvalue
  obtain ⟨others, hothers, rfl⟩ := hleft
  have hmember : Member (k ++ (between ++ ':' :: (gap ++ v))) := .colon hk hb hg hv
  cases first with
  | true => exact ⟨_, .object hbefore hmember hothers, by simp⟩
  | false =>
    obtain ⟨comma, space, hc, hs, rfl⟩ := hbefore
    exact ⟨_, .cons hc hs hmember hothers, by simp⟩

theorem readMembers_takes {value : Reader α} (hv : value.Accepts Value) {first : Bool}
    {read members : List (String × α)} (h : readMembers value first read s = .ok (members, r))
    (hend : endObject r = .ok t) : ∃ v, Left .object first v ∧ s = v ++ t := by
  fun_induction readMembers value first read s with
  | case1 => cases h
  | case2 first read s rest hkey =>
    obtain ⟨-, rfl⟩ := Prod.mk.inj (Except.ok.inj h)
    exact left_endObject hkey hend
  | case3 => cases h
  | case4 => cases h
  | case5 first read s key rest hkey after hcolon a last hread hshorter ih =>
    exact left_member hkey hcolon (hv hread) (ih h)

theorem accepts_table {value : Reader α} (hv : value.Accepts Value) :
    (table value).Accepts Value := by
  intro s r members hread
  change readTable value s = _ at hread
  rw [readTable] at hread
  split at hread
  next => cases hread
  next rest hgap =>
    obtain ⟨gap, hg, rfl⟩ := exists_gap_of_eq hgap
    split at hread
    next => cases hread
    next read after hmembers =>
      obtain ⟨last, hend, heq⟩ := exists_of_map_eq_ok hread
      obtain ⟨-, rfl⟩ := Prod.mk.inj heq
      obtain ⟨v, hleft, rfl⟩ := readMembers_takes hv hmembers hend
      exact ⟨gap, '{' :: v, hg, hleft, rfl⟩
  next => cases hread

end Reader

/-! ## Records -/

namespace Layout

variable {layout : Layout σ}

/-- The readers of all fields accept values. -/
def Accepts (layout : Layout σ) : Prop :=
  ∀ field ∈ layout.fields, field.update.Accepts Value

theorem readMembers_takes (hf : layout.Accepts) {first : Bool} {draft done : σ}
    (h : layout.readMembers first draft s = .ok (done, r)) (hend : Reader.endObject r = .ok t) :
    ∃ v, Left .object first v ∧ s = v ++ t := by
  fun_induction layout.readMembers first draft s with
  | case1 => cases h
  | case2 => cases h
  | case3 first draft s rest hkey hmissing =>
    obtain ⟨-, rfl⟩ := Prod.mk.inj (Except.ok.inj h)
    exact Reader.left_endObject hkey hend
  | case4 => cases h
  | case5 => cases h
  | case6 => cases h
  | case7 first draft s key rest hkey field hfield hset after hcolon update last hread hshorter ih =>
    have hmem := List.mem_of_find?_eq_some hfield
    exact Reader.left_member hkey hcolon (hf field hmem hread) (ih h)
  | case8 => cases h
  | case9 => cases h
  | case10 first draft s key rest hkey hfield after hcolon last hskip hshorter ih =>
    exact Reader.left_member hkey hcolon (skipValue_takes hskip) (ih h)

theorem readElements_takes {fields : List (Field σ)}
    (hf : ∀ field ∈ fields, field.update.Accepts Value) {index : Nat} {draft done : σ}
    (h : layout.readElements index draft fields s = .ok (done, r))
    (hend : Reader.endList r = .ok t) : ∃ v, Left .list (index == 0) v ∧ s = v ++ t := by
  induction fields generalizing index draft s with
  | nil =>
    rw [readElements] at h
    obtain ⟨-, rfl⟩ := Prod.mk.inj (Except.ok.inj h)
    exact Reader.left_endList isGap_nil _ hend
  | cons field fields ih =>
    obtain ⟨hfield, hfields⟩ := List.forall_mem_cons.mp hf
    have helement {u : List Char} (h : readElements.element layout index draft field fields u =
        .ok (done, r)) : ∃ update after, field.update.read u = .ok (update, after) ∧
          ∃ v, Left .list false v ∧ after = v ++ t := by
      rw [readElements.element] at h
      split at h
      next => cases h
      next update after hread => exact ⟨update, after, hread, ih hfields h⟩
    rw [readElements] at h
    split at h
    next => cases h
    next c rest hgap =>
      obtain ⟨gap, hg, rfl⟩ := exists_gap_of_eq hgap
      split at h
      next hc =>
        split at h
        next => cases h
        next =>
          obtain ⟨-, rfl⟩ := Prod.mk.inj (Except.ok.inj h)
          exact Reader.left_endList hg _ hend
      next =>
        split at h
        next hindex =>
          obtain ⟨update, after, hread, hleft⟩ := helement h
          rw [hindex]
          exact Reader.left_firstItem hfield hg hread hleft
        next hindex =>
          split at h
          next hcomma =>
            split at h
            next => cases h
            next => cases h
            next =>
              obtain ⟨update, after, hread, hleft⟩ := helement h
              rw [beq_false_of_ne hindex, hcomma]
              exact Reader.left_nextItem hfield hg hread hleft
          next => cases h

end Layout

namespace Reader

/-- A value that begins as a list or an object does. -/
def BracketedValue (s : List Char) : Prop := Value s ∧ Bracketed s

/-- A record is an object or a list. -/
theorem accepts_record {layout : Layout σ} (hf : layout.Accepts) (blank : σ) :
    (record layout blank).Accepts BracketedValue := by
  intro s r done hread
  change layout.readRecord blank s = _ at hread
  rw [Layout.readRecord] at hread
  split at hread
  next => cases hread
  next rest hgap =>
    obtain ⟨gap, hg, rfl⟩ := exists_gap_of_eq hgap
    split at hread
    next => cases hread
    next draft after helements =>
      obtain ⟨last, hend, heq⟩ := exists_of_map_eq_ok hread
      obtain ⟨-, rfl⟩ := Prod.mk.inj heq
      obtain ⟨v, hleft, rfl⟩ := Layout.readElements_takes hf helements hend
      exact ⟨gap, '[' :: v, hg, ⟨hleft, .inl rfl⟩, rfl⟩
  next rest hgap =>
    obtain ⟨gap, hg, rfl⟩ := exists_gap_of_eq hgap
    split at hread
    next => cases hread
    next draft after hmembers =>
      obtain ⟨last, hend, heq⟩ := exists_of_map_eq_ok hread
      obtain ⟨-, rfl⟩ := Prod.mk.inj heq
      obtain ⟨v, hleft, rfl⟩ := Layout.readMembers_takes hf hmembers hend
      exact ⟨gap, '{' :: v, hg, ⟨hleft, .inr rfl⟩, rfl⟩
  next => cases hread

theorem Accepts.value {reader : Reader α} (h : reader.Accepts BracketedValue) :
    reader.Accepts Value := by
  intro s r a hread
  obtain ⟨gap, v, hg, hv, heq⟩ := h hread
  exact ⟨gap, v, hg, hv.1, heq⟩

/-! ## Choices -/

theorem readName_takes {names : List (String × α)} {a : α} (h : readName names s = .ok (a, r)) :
    ∃ gap v, IsGap gap ∧ Quoted v ∧ s = gap ++ (v ++ r) := by
  rw [readName] at h
  split at h
  next => cases h
  next name rest htext =>
    split at h
    next =>
      obtain ⟨-, rfl⟩ := Prod.mk.inj (Except.ok.inj h)
      exact readText_takes htext
    next => cases h

theorem readNull_takes (h : readNull s = .ok r) :
    ∃ gap v, IsGap gap ∧ Value v ∧ s = gap ++ (v ++ r) := by
  rw [readNull] at h
  split at h
  next => cases h
  next rest hgap =>
    obtain ⟨gap, hg, rfl⟩ := exists_gap_of_eq hgap
    exact ⟨gap, _, hg, .null, by rw [scanWord_takes h]; rfl⟩
  next => cases h

theorem endChoice_takes (h : endChoice s = .ok r) : ∃ gap, IsGap gap ∧ s = gap ++ '}' :: r := by
  rw [endChoice] at h
  split at h
  next rest hgap =>
    obtain rfl := Except.ok.inj h
    exact exists_gap_of_eq hgap
  next => cases h
  next => cases h

theorem accepts_choice (names : List (String × α)) : (choice names).Accepts Value := by
  intro s r a hread
  change readChoice names s = _ at hread
  rw [readChoice] at hread
  split at hread
  next => cases hread
  next rest hgap =>
    obtain ⟨gap, hg, rfl⟩ := exists_gap_of_eq hgap
    obtain ⟨more, v, hm, hv, heq⟩ := readName_takes hread
    exact ⟨_, v, isGap_append hg hm, .quoted hv, by rw [heq, List.append_assoc]⟩
  next rest hgap =>
    obtain ⟨gap, hg, rfl⟩ := exists_gap_of_eq hgap
    cases hname : readName names rest with
    | error fault => simp [hname, bind, Except.bind] at hread
    | ok name =>
      cases hcolon : scanColon name.2 with
      | error fault => simp [hname, hcolon, bind, Except.bind] at hread
      | ok value =>
        cases hnull : readNull value with
        | error fault => simp [hname, hcolon, hnull, bind, Except.bind] at hread
        | ok after =>
          cases hend : endChoice after with
          | error fault => simp [hname, hcolon, hnull, hend, bind, Except.bind] at hread
          | ok last =>
            simp only [hname, hcolon, hnull, hend, bind, Except.bind, pure, Except.pure,
              Except.ok.injEq, Prod.mk.injEq] at hread
            obtain ⟨-, rfl⟩ := hread
            obtain ⟨before, k, hb, hk, hrest⟩ := readName_takes (a := name.1) hname
            obtain ⟨between, hbetween, hname⟩ := scanColon_takes hcolon
            obtain ⟨space, v, hspace, hv, rfl⟩ := readNull_takes hnull
            obtain ⟨closing, hclosing, rfl⟩ := endChoice_takes hend
            have hmember : Member (k ++ (between ++ ':' :: (space ++ v))) :=
              .colon hk hbetween hspace hv
            refine ⟨gap, _, hg, .object hb hmember (.nil hclosing), ?_⟩
            simp [hrest, hname]
  next => cases hread

/-! ## Whole texts -/

theorem gap_of_afterGap (h : afterGap s = []) : IsGap s := by
  obtain ⟨gap, hg, heq⟩ := exists_gap_of_eq h
  rwa [heq, List.append_nil]

/-- A text that is read as a whole is a document. -/
theorem document_of_readWhole {reader : Reader α} (h : reader.Accepts BracketedValue) {a : α}
    (hread : reader.readWhole s = .ok a) : Document s := by
  rw [readWhole] at hread
  split at hread
  next => cases hread
  next b rest hfirst =>
    obtain ⟨gap, v, hg, ⟨hv, hbracketed⟩, rfl⟩ := h hfirst
    split at hread
    next hrest => exact .spaced hg hv hbracketed (gap_of_afterGap hrest)
    next => cases hread

end Reader

/-- What follows the value of a document is a gap, and the skipper finds it. -/
theorem Grammar.Document.skipValue {s : List Char} (h : Document s) :
    ∃ after, IsGap after ∧ ∀ more, Json.skipValue (s ++ more) = .ok (after ++ more) := by
  cases h with
  | spaced hb hv hbracketed ha =>
    refine ⟨_, ha, fun more => ?_⟩
    rw [List.append_assoc, List.append_assoc]
    exact hv.skipValue hb (.inl hbracketed)

/-- Of two documents of which one begins with the other, the longer one goes on with a gap. -/
theorem Grammar.Document.gap_of_append {s more : List Char} (h : Document s)
    (hlonger : Document (s ++ more)) : IsGap more := by
  obtain ⟨after, -, hskip⟩ := h.skipValue
  obtain ⟨last, hlast, hskipLonger⟩ := hlonger.skipValue
  have hboth := hskipLonger []
  rw [List.append_nil, List.append_nil, hskip more] at hboth
  exact fun c hc => hlast c (Except.ok.inj hboth ▸ List.mem_append_right after hc)

end PolicyStore.Json
