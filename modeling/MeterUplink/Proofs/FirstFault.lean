import Mathlib.Data.List.Induction

namespace MeterUplink

/-! Lists that are looked at from left to right, each member in the light of those before it. Either
every member fits where it stands, or there is a first one that does not. -/

variable {α : Type}

/-- Each member fits behind those before it. -/
def EachFits (fits : List α → α → Prop) (members : List α) : Prop :=
  ∀ before a after, members = before ++ a :: after → fits before a

variable {fits : List α → α → Prop}

theorem eachFits_nil : EachFits fits [] := by
  intro before a after split
  simp at split

theorem eachFits_snoc_iff {members : List α} {a : α} :
    EachFits fits (members ++ [a]) ↔ EachFits fits members ∧ fits members a := by
  constructor
  · intro all
    refine ⟨fun before other after split => ?_, all members a [] rfl⟩
    exact all before other (after ++ [a]) (by simp [split])
  · rintro ⟨all, here⟩ before other after split
    rcases List.eq_nil_or_concat after with rfl | ⟨middle, last, rfl⟩
    · obtain ⟨rfl, same⟩ := List.append_inj' split rfl
      cases same
      exact here
    · rw [List.concat_eq_append, ← List.cons_append, ← List.append_assoc] at split
      obtain ⟨rfl, _⟩ := List.append_inj' split rfl
      exact all before other middle rfl

theorem eachFits_or_exists_first (fits : List α → α → Prop) (members : List α) :
    EachFits fits members ∨ ∃ before a after, members = before ++ a :: after ∧
      EachFits fits before ∧ ¬ fits before a := by
  induction members using List.reverseRecOn with
  | nil => exact .inl eachFits_nil
  | append_singleton members a ih =>
      rcases ih with all | ⟨before, first, after, rfl, earlier, unfit⟩
      · by_cases here : fits members a
        · exact .inl (eachFits_snoc_iff.mpr ⟨all, here⟩)
        · exact .inr ⟨members, a, [], rfl, all, here⟩
      · exact .inr ⟨before, first, after ++ [a], by simp, earlier, unfit⟩

/-- What fits need not depend on the members before. -/
theorem forall_or_exists_first_not (holds : α → Prop) (members : List α) :
    (∀ a ∈ members, holds a) ∨ ∃ before a after, members = before ++ a :: after ∧
      (∀ earlier ∈ before, holds earlier) ∧ ¬ holds a := by
  have each {list : List α} (all : EachFits (fun _ => holds) list) : ∀ a ∈ list, holds a := by
    intro a member
    obtain ⟨before, after, split⟩ := List.append_of_mem member
    exact all before a after split
  rcases eachFits_or_exists_first (fun _ => holds) members with
    all | ⟨before, a, after, split, earlier, unfit⟩
  · exact .inl (each all)
  · exact .inr ⟨before, a, after, split, each earlier, unfit⟩

end MeterUplink
