import Mathlib.Data.List.Forall2
import Mathlib.Data.List.Infix

namespace MeterUplink.Text

/-! Readings that show some of what they read as it is. A shown element stands in the result exactly
where one element of the source gives it, whatever the reading makes of all others; so words of
shown elements are found in the result where they stand in the source. -/

variable {α β : Type}

theorem append_eq_append_cons {front back before after : List β} {b : β}
    (same : front ++ back = before ++ b :: after) :
    (∃ between, before = front ++ between ∧ back = between ++ b :: after) ∨
      ∃ between, front = before ++ b :: between ∧ after = between ++ back := by
  rcases List.append_eq_append_iff.mp same with later | ⟨between, split, tail⟩
  · exact .inl later
  · cases between with
    | nil => exact .inl ⟨[], by simpa using split.symm, tail.symm⟩
    | cons first between =>
        obtain ⟨first, tail⟩ := List.cons.inj tail
        exact .inr ⟨between, first ▸ split, tail⟩

/-- The reading shows some elements: each is given by one element of the source, and what stands on
either side of that one is read on its own. -/
structure Shows (read : List α → List β) (gives : α → β → Prop) (shown : β → Prop) : Prop where
  eq_nil_iff : ∀ {source}, read source = [] ↔ source = []
  eq_append_cons_iff : ∀ {source before b after}, shown b →
    (read source = before ++ b :: after ↔
      ∃ front a back, source = front ++ a :: back ∧ gives a b ∧ read front = before ∧
        read back = after)

namespace Shows

variable {read : List α → List β} {gives : α → β → Prop} {shown : β → Prop} {word : List β}
  {source : List α} (reading : Shows read gives shown) (all : ∀ b ∈ word, shown b)

include reading all

theorem eq_append_iff {after : List β} :
    read source = word ++ after ↔
      ∃ piece back, source = piece ++ back ∧ List.Forall₂ gives piece word ∧
        read back = after := by
  have empty : read [] = [] := reading.eq_nil_iff.mpr rfl
  induction word generalizing source with
  | nil => simp
  | cons b word ih =>
      obtain ⟨here, others⟩ := List.forall_mem_cons.mp all
      constructor
      · intro starts
        have first : read source = [] ++ b :: (word ++ after) := starts
        obtain ⟨front, a, rest, rfl, given, none, later⟩ :=
          (reading.eq_append_cons_iff here).mp first
        obtain ⟨piece, back, rfl, each, done⟩ := (ih others).mp later
        rw [reading.eq_nil_iff.mp none]
        exact ⟨a :: piece, back, rfl, .cons given each, done⟩
      · rintro ⟨_, back, rfl, each, done⟩
        obtain ⟨a, piece, given, rest, rfl⟩ := List.forall₂_cons_right_iff.mp each
        have later : read (piece ++ back) = word ++ after :=
          (ih others).mpr ⟨piece, back, rfl, rest, done⟩
        exact (reading.eq_append_cons_iff here).mpr ⟨[], a, _, rfl, given, empty, later⟩

/-- A word of shown elements stands in the result exactly where elements that give it stand in the
source. -/
theorem eq_append_append_iff {before after : List β} (nonempty : word ≠ []) :
    read source = before ++ word ++ after ↔
      ∃ front piece back, source = front ++ piece ++ back ∧ List.Forall₂ gives piece word ∧
        read front = before ∧ read back = after := by
  cases word with
  | nil => exact absurd rfl nonempty
  | cons b word =>
      obtain ⟨here, others⟩ := List.forall_mem_cons.mp all
      rw [List.append_assoc, List.cons_append, reading.eq_append_cons_iff here]
      constructor
      · rintro ⟨front, a, rest, rfl, given, early, later⟩
        obtain ⟨piece, back, rfl, each, done⟩ := (reading.eq_append_iff others).mp later
        exact ⟨front, a :: piece, back, by simp, .cons given each, early, done⟩
      · rintro ⟨front, _, back, rfl, each, early, done⟩
        obtain ⟨a, piece, given, rest, rfl⟩ := List.forall₂_cons_right_iff.mp each
        have later := (reading.eq_append_iff others).mpr ⟨piece, back, rfl, rest, done⟩
        exact ⟨front, a, piece ++ back, by simp, given, early, later⟩

theorem infix_iff :
    word <:+: read source ↔ ∃ piece, List.Forall₂ gives piece word ∧ piece <:+: source := by
  rcases eq_or_ne word [] with rfl | nonempty
  · exact iff_of_true List.nil_infix ⟨[], .nil, List.nil_infix⟩
  constructor
  · rintro ⟨before, after, stands⟩
    obtain ⟨front, piece, back, rfl, each, _⟩ :=
      (reading.eq_append_append_iff all nonempty).mp stands.symm
    exact ⟨piece, each, front, back, rfl⟩
  · rintro ⟨piece, each, front, back, rfl⟩
    have stands := (reading.eq_append_append_iff all nonempty).mpr
      ⟨front, piece, back, rfl, each, rfl, rfl⟩
    exact ⟨read front, read back, stands.symm⟩

end Shows

end MeterUplink.Text
