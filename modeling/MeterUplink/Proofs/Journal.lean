import MeterUplink.Journal

namespace MeterUplink.Journaled

/-! How the outcome of a computation is read off the outcomes of its parts. -/

variable {ε α β : Type}

theorem outcome_bind_eq_ok_iff {first : Journaled ε α} {next : α → Journaled ε β} {b : β} :
    (first >>= next).outcome = .ok b ↔
      ∃ a, first.outcome = .ok a ∧ (next a).outcome = .ok b := by
  rw [outcome_bind]
  cases first.outcome with
  | error e => simp [bind, Except.bind]
  | ok a => simp [bind, Except.bind]

theorem outcome_bind_eq_error_iff {first : Journaled ε α} {next : α → Journaled ε β} {e : ε} :
    (first >>= next).outcome = .error e ↔
      first.outcome = .error e ∨ ∃ a, first.outcome = .ok a ∧ (next a).outcome = .error e := by
  rw [outcome_bind]
  cases first.outcome with
  | error e => simp [bind, Except.bind]
  | ok a => simp [bind, Except.bind]

theorem outcome_bind_of_ok {first : Journaled ε α} {next : α → Journaled ε β} {a : α}
    (succeeded : first.outcome = .ok a) : (first >>= next).outcome = (next a).outcome := by
  rw [outcome_bind, succeeded]
  rfl

theorem outcome_bind_of_error {first : Journaled ε α} {next : α → Journaled ε β} {e : ε}
    (failed : first.outcome = .error e) : (first >>= next).outcome = .error e := by
  rw [outcome_bind, failed]
  rfl

end MeterUplink.Journaled

namespace MeterUplink

/-- Outcomes of runs on given inputs can be compared. -/
instance decidableEqExcept {ε α : Type} [DecidableEq ε] [DecidableEq α] :
    DecidableEq (Except ε α)
  | .ok first, .ok second => decidable_of_iff (first = second) ⟨congrArg _, Except.ok.inj⟩
  | .error first, .error second =>
    decidable_of_iff (first = second) ⟨congrArg _, Except.error.inj⟩
  | .ok _, .error _ => isFalse nofun
  | .error _, .ok _ => isFalse nofun

theorem mapError_eq_ok_iff {ε ε' α : Type} {outcome : Except ε α} {rename : ε → ε'} {a : α} :
    outcome.mapError rename = .ok a ↔ outcome = .ok a := by
  cases outcome with
  | error e => exact ⟨nofun, nofun⟩
  | ok b =>
      constructor
      · intro same
        cases same
        rfl
      · intro same
        cases same
        rfl

theorem mapError_eq_error_iff {ε ε' α : Type} {outcome : Except ε α} {rename : ε → ε'} {e : ε'} :
    outcome.mapError rename = .error e ↔ ∃ cause, outcome = .error cause ∧ rename cause = e := by
  constructor
  · intro failed
    cases outcome with
    | error cause => exact ⟨cause, rfl, Except.error.inj failed⟩
    | ok a => cases failed
  · rintro ⟨cause, rfl, rfl⟩
    rfl

theorem Journaled.outcome_mapError_eq_ok_iff {ε ε' α : Type} {computation : Journaled ε α}
    {rename : ε → ε'} {a : α} :
    (computation.mapError rename).outcome = .ok a ↔ computation.outcome = .ok a :=
  mapError_eq_ok_iff

theorem Journaled.outcome_mapError_eq_error_iff {ε ε' α : Type} {computation : Journaled ε α}
    {rename : ε → ε'} {e : ε'} :
    (computation.mapError rename).outcome = .error e ↔
      ∃ cause, computation.outcome = .error cause ∧ rename cause = e :=
  mapError_eq_error_iff

theorem map_eq_ok_iff {ε α β : Type} {outcome : Except ε α} {f : α → β} {b : β} :
    outcome.map f = .ok b ↔ ∃ a, outcome = .ok a ∧ f a = b := by
  cases outcome with
  | error e => simp [Except.map]
  | ok a => simp [Except.map]

theorem map_eq_error_iff {ε α β : Type} {outcome : Except ε α} {f : α → β} {e : ε} :
    outcome.map f = .error e ↔ outcome = .error e := by
  cases outcome with
  | error e => simp [Except.map]
  | ok a => simp [Except.map]

theorem bind_eq_ok_iff {ε α β : Type} {first : Except ε α} {next : α → Except ε β} {b : β} :
    first >>= next = .ok b ↔ ∃ a, first = .ok a ∧ next a = .ok b := by
  cases first with
  | error e => simp [bind, Except.bind]
  | ok a => simp [bind, Except.bind]

end MeterUplink
