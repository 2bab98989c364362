import Mathlib.Data.List.Basic

/-!
Contract: lists split at an element.

Owns the comparison of two splits of one list, and the split at the first element
with a property, which exists and is unique.

Does not own: any particular property.
-/

namespace Dbmail.Lib

section Split

variable {α : Type}

/-- Two splits of a list are the same, or one is behind the other. -/
theorem split_cases {before after front back : List α} {element other : α}
    (same : before ++ element :: after = front ++ other :: back) :
    (before = front ∧ element = other ∧ after = back) ∨
      (∃ between, front = before ++ element :: between ∧ after = between ++ other :: back) ∨
      ∃ between, before = front ++ other :: between ∧ back = between ++ element :: after := by
  obtain ⟨between, rfl, rest⟩ | ⟨between, rfl, rest⟩ := List.append_eq_append_iff.mp same
  · cases between with
    | nil =>
      obtain ⟨rfl, rfl⟩ := List.cons.inj (by simpa using rest)
      exact .inl ⟨by simp, rfl, rfl⟩
    | cons head tail =>
      obtain ⟨rfl, rfl⟩ := List.cons.inj (by simpa using rest)
      exact .inr (.inl ⟨tail, rfl, rfl⟩)
  · cases between with
    | nil =>
      obtain ⟨rfl, rfl⟩ := List.cons.inj (by simpa using rest)
      exact .inl ⟨by simp, rfl, rfl⟩
    | cons head tail =>
      obtain ⟨rfl, rfl⟩ := List.cons.inj (by simpa using rest)
      exact .inr (.inr ⟨tail, rfl, rfl⟩)

/-- The split of a list at its first element with a property. -/
structure FirstSplit (holds : α → Prop) (elements before : List α) (element : α)
    (after : List α) : Prop where
  split : elements = before ++ element :: after
  none : ∀ earlier ∈ before, ¬ holds earlier
  first : holds element

theorem FirstSplit.exists {holds : α → Prop} {elements : List α}
    (some_ : ∃ element ∈ elements, holds element) :
    ∃ before element after, FirstSplit holds elements before element after := by
  classical
  obtain ⟨element, member, isHeld⟩ := some_
  have found : (elements.find? (holds ·)).isSome :=
    List.find?_isSome.mpr ⟨element, member, by simpa using isHeld⟩
  obtain ⟨first, found⟩ := Option.isSome_iff_exists.mp found
  obtain ⟨here, before, after, split, none⟩ := List.find?_eq_some_iff_append.mp found
  exact ⟨before, first, after, split, by simpa using none, by simpa using here⟩

theorem FirstSplit.unique {holds : α → Prop} {elements before after front back : List α}
    {element other : α} (left : FirstSplit holds elements before element after)
    (right : FirstSplit holds elements front other back) :
    before = front ∧ element = other ∧ after = back := by
  obtain same | ⟨between, rfl, -⟩ | ⟨between, rfl, -⟩ := split_cases (left.split.symm.trans right.split)
  · exact same
  · exact absurd left.first (right.none element (by simp))
  · exact absurd right.first (left.none other (by simp))

end Split

end Dbmail.Lib
