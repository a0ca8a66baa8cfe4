import MeterUplink.Proofs.Journal

namespace MeterUplink.Journaled

/-! Computations that emit the same records and end alike, as someone sees them who reads the
journal and is told why a computation failed. -/

variable {ε ε' α β γ δ : Type}

/-- The same records, and the same error or results that are related. -/
inductive Alike (related : α → β → Prop) : Journaled ε α → Journaled ε β → Prop where
  | failed {records : List Record} {error : ε} :
      Alike related ⟨records, .error error⟩ ⟨records, .error error⟩
  | succeeded {records : List Record} {first : α} {second : β} (ends : related first second) :
      Alike related ⟨records, .ok first⟩ ⟨records, .ok second⟩

namespace Alike

variable {related : α → β → Prop} {relatedLater : γ → δ → Prop}

theorem pure {first : α} {second : β} (ends : related first second) :
    Alike related (Pure.pure first : Journaled ε α) (Pure.pure second) := .succeeded ends

theorem bind {first : Journaled ε α} {second : Journaled ε β} {next : α → Journaled ε γ}
    {otherNext : β → Journaled ε δ} (here : Alike related first second)
    (there : ∀ a b, related a b → Alike relatedLater (next a) (otherNext b)) :
    Alike relatedLater (first >>= next) (second >>= otherNext) := by
  cases here with
  | failed => exact .failed
  | @succeeded records a b ends =>
      have later := there a b ends
      change Alike relatedLater ⟨records ++ (next a).records, (next a).outcome⟩
        ⟨records ++ (otherNext b).records, (otherNext b).outcome⟩
      generalize next a = first, otherNext b = second at later ⊢
      cases later with
      | failed => exact .failed
      | succeeded endsLater => exact .succeeded endsLater

/-- What both computations begin with does not tell them apart. -/
theorem bind_same (first : Journaled ε α) {next : α → Journaled ε γ} {otherNext : α → Journaled ε δ}
    (there : ∀ a, Alike relatedLater (next a) (otherNext a)) :
    Alike relatedLater (first >>= next) (first >>= otherNext) := by
  have same : Alike Eq first first := by
    obtain ⟨records, outcome⟩ := first
    cases outcome with
    | error error => exact .failed
    | ok a => exact .succeeded rfl
  refine bind same fun a b equal => ?_
  cases equal
  exact there a

theorem mapError {first : Journaled ε α} {second : Journaled ε β} (rename : ε → ε')
    (here : Alike related first second) :
    Alike related (first.mapError rename) (second.mapError rename) := by
  cases here with
  | failed => exact .failed
  | succeeded ends => exact .succeeded ends

end Alike

end MeterUplink.Journaled
