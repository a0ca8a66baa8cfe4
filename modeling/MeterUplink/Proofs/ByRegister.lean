import MeterUplink.ByRegister

namespace MeterUplink.ByRegister

/-! Values put in from a list, and taken out again. -/

variable {α : Type}

theorem get?_foldl_insert (values start : ByRegister α) (registers : List Register)
    (register : Register) :
    ((registers.filterMap fun other => (values.get? other).map (other, ·)).foldl
        (fun kept entry => kept.insert entry.1 entry.2) start).get? register =
      if register ∈ registers ∧ (values.get? register).isSome then values.get? register
      else start.get? register := by
  induction registers generalizing start with
  | nil => simp
  | cons other rest ih =>
      cases stored : values.get? other with
      | none =>
          rw [List.filterMap_cons_none (by rw [stored]; rfl), ih]
          by_cases here : register = other
          · subst here
            simp [stored]
          · simp [here]
      | some value =>
          rw [List.filterMap_cons_some (by rw [stored]; rfl), List.foldl_cons, ih, get?_insert]
          by_cases here : register = other
          · subst here
            simp [stored]
          · simp [here]

/-- A list with the values of some registers gives these values, and no others. -/
theorem get?_ofList_filterMap (values : ByRegister α) (registers : List Register)
    (register : Register) :
    (ofList (registers.filterMap fun other => (values.get? other).map (other, ·))).get? register =
      if register ∈ registers then values.get? register else none := by
  rw [ofList, get?_foldl_insert, get?_empty]
  cases stored : values.get? register with
  | none => simp
  | some value => simp

theorem entries_of_get? {values : ByRegister α} {value : Register → α}
    (stored : ∀ register, values.get? register = some (value register)) :
    values.entries = Register.all.map fun register => (register, value register) := by
  rw [entries, ← List.filterMap_eq_map]
  congr 1
  funext register
  rw [stored register]
  rfl

end MeterUplink.ByRegister
