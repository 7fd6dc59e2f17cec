import PolicyStore.Proofs.Json.RecordReading

/-!
# What the members of an object say

A record reader meets the members of an object one by one. What they say together does not depend
on the order in which they come: of each name there is no member, or there is one whose value has
to have the shape, and several are refused.
-/

namespace PolicyStore.Json

namespace Shape

variable {σ α : Type}

/-- The values of the members of a name, in order. -/
def named (name : String) (members : List (String × Tree)) : List Tree :=
  members.filterMap fun member => if member.1 = name then some member.2 else none

/-- What the members of a name say: `none` when they are refused, `some none` when there are none.
-/
def member (name : String) (shape : Shape α) (members : List (String × Tree)) : Option (Option α) :=
  match named name members with
  | [] => some none
  | [t] => (shape t).map some
  | _ => none

/-- What is in a place after further values for it, the place holding `held` before. -/
def place (shape : Shape α) (held : Option α) : List Tree → Option (Option α)
  | [] => some held
  | t :: ts => if held.isSome then none else (shape t).bind fun a => place shape (some a) ts

theorem place_none (shape : Shape α) (name : String) (members : List (String × Tree)) :
    place shape none (named name members) = member name shape members := by
  rw [member]
  cases named name members with
  | nil => rfl
  | cons t ts =>
    cases ts with
    | nil => cases h : shape t <;> simp [place, h]
    | cons u us => cases h : shape t <;> simp [place, h]

@[simp] theorem named_nil (name : String) : named name [] = [] := rfl

theorem named_self (name : String) (t : Tree) (members : List (String × Tree)) :
    named name ((name, t) :: members) = t :: named name members := by
  simp [named]

theorem named_other {name key : String} (h : key ≠ name) (t : Tree)
    (members : List (String × Tree)) :
    named name ((key, t) :: members) = named name members := by
  simp [named, h]

end Shape

/-- Places that do not interfere: names tell them apart, a place holds what was put there last, a
draft is nothing but what its places hold, and they are all free in the draft `blank`. -/
structure Place.Lawful {σ : Type} (blank : σ) (places : List (Place σ)) : Prop where
  distinct : ∀ p ∈ places, ∀ q ∈ places, p.name = q.name → p = q
  get_set : ∀ p ∈ places, ∀ draft a, p.get (p.set draft a) = some a
  get_set_other : ∀ p ∈ places, ∀ q ∈ places, p.name ≠ q.name →
    ∀ draft a, q.get (p.set draft a) = q.get draft
  ext : ∀ draft done : σ, (∀ p ∈ places, p.get draft = p.get done) → draft = done
  free : ∀ p ∈ places, p.get blank = none

namespace Shape

variable {σ : Type} {blank : σ} {places : List (Place σ)}

/-- Putting a value into its place is what the place makes of the value. -/
theorem place_set (lawful : Place.Lawful blank places) {p q : Place σ} (hp : p ∈ places)
    (hq : q ∈ places) {draft : σ} (hfree : p.get draft = none) {t : Tree} {a : p.Value}
    (ha : p.shape t = some a) (members : List (String × Tree)) :
    place q.shape (q.get (p.set draft a)) (named q.name members) =
      place q.shape (q.get draft) (named q.name ((p.name, t) :: members)) := by
  by_cases h : p.name = q.name
  · obtain rfl := lawful.distinct p hp q hq h
    rw [named_self, lawful.get_set p hp, hfree, place]
    simp [ha]
  · rw [named_other h, lawful.get_set_other p hp q hq h]

theorem not_placed {p : Place σ} (hp : p ∈ places) {draft done : σ}
    {members : List (String × Tree)}
    (h : place p.shape (p.get draft) (named p.name members) = none) :
    ¬((∀ q ∈ places, place q.shape (q.get draft) (named q.name members) = some (q.get done)) ∧
      ∀ q ∈ places, q.required = true → (q.get done).isSome = true) := by
  rintro ⟨hall, -⟩
  rw [hall p hp] at h
  exact absurd h (by simp)

/-- The members of an object fill a draft just when every place can take what the members of its
name say, whatever order they come in. -/
theorem fill_eq_some_iff (lawful : Place.Lawful blank places) (draft done : σ)
    (members : List (String × Tree)) :
    fill places draft members = some done ↔
      (∀ p ∈ places, place p.shape (p.get draft) (named p.name members) = some (p.get done)) ∧
      ∀ p ∈ places, p.required = true → (p.get done).isSome = true := by
  -- the draft holds what the members gone by have put into it
  induction members generalizing draft with
  | nil =>
    simp only [fill, named_nil, place, Option.some.injEq, List.all_eq_true, Bool.or_eq_true,
      Bool.not_eq_true', Option.ite_none_right_eq_some]
    constructor
    · rintro ⟨hall, rfl⟩
      refine ⟨fun p hp => rfl, fun p hp hr => ?_⟩
      rcases hall p hp with h | h
      · rw [hr] at h; exact absurd h (by decide)
      · exact h
    · rintro ⟨hget, hreq⟩
      obtain rfl := lawful.ext draft done hget
      refine ⟨fun p hp => ?_, rfl⟩
      cases hr : p.required with
      | false => exact .inl rfl
      | true => exact .inr (hreq p hp hr)
  | cons member members ih =>
    obtain ⟨key, t⟩ := member
    rw [fill]
    cases hf : places.find? fun p => p.name == key with
    | none =>
      have hother : ∀ p ∈ places, key ≠ p.name := fun p hp h =>
        List.find?_eq_none.mp hf p hp (by simp [h])
      refine (ih draft).trans (and_congr_left fun _ => forall₂_congr fun p hp => ?_)
      rw [named_other (hother p hp)]
    | some p =>
      have hp : p ∈ places := List.mem_of_find?_eq_some hf
      obtain rfl : p.name = key := by simpa using List.find?_some hf
      dsimp only
      by_cases hset : (p.get draft).isSome = true
      · rw [if_pos hset]
        refine iff_of_false (by simp) (not_placed hp ?_)
        rw [named_self, place, if_pos hset]
      · have hfree : p.get draft = none := by simpa using hset
        rw [if_neg hset]
        cases ha : p.shape t with
        | none =>
          refine iff_of_false (by simp) (not_placed hp ?_)
          rw [named_self, place, if_neg hset, ha, Option.bind_none]
        | some a =>
          rw [Option.bind_some]
          refine (ih (p.set draft a)).trans (and_congr_left fun _ => forall₂_congr fun q hq => ?_)
          rw [place_set lawful hp hq hfree ha]

/-- What the members of an object say to a record whose places are all free at first. -/
theorem fill_blank_eq_some_iff (lawful : Place.Lawful blank places) (done : σ)
    (members : List (String × Tree)) :
    fill places blank members = some done ↔
      (∀ p ∈ places, member p.name p.shape members = some (p.get done)) ∧
      ∀ p ∈ places, p.required = true → (p.get done).isSome = true := by
  refine (fill_eq_some_iff lawful blank done members).trans
    (and_congr_left fun _ => forall₂_congr fun p hp => ?_)
  rw [lawful.free p hp, place_none]

end Shape

/-- On a document that is an object a record reader finds what the members of the object say. -/
theorem Reader.readWhole_record {σ α : Type} {layout : Layout σ} {places : List (Place σ)}
    (hl : layout.fields = places.map Place.field) {blank : σ} {f : σ → α}
    {meaning : List (String × Tree) → Option α}
    (hmeaning : ∀ members, (Shape.fill places blank members).map f = meaning members)
    {members : List (String × Tree)} {s : List Char} (h : SpellsDocument (.object members) s) :
    (((record layout blank).map f).readWhole s).toOption = meaning members := by
  rw [← hmeaning]
  exact ((reads_record hl blank).map f).readWhole h

end PolicyStore.Json
