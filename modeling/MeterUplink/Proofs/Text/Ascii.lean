import MeterUplink.Text.UpperCase

namespace MeterUplink.Text

/-! Characters of ASCII: what can be checked code by code, and their upper case. -/

theorem holds_of_codes (holds : Char → Prop) {bound : Nat}
    (all : ∀ code < bound, holds (Char.ofNat code)) {c : Char} (below : c.toNat < bound) :
    holds c := by
  have here := all c.toNat below
  rwa [Char.ofNat_toNat] at here

theorem ascii_of_toUpper {c : Char} (ascii : c.toUpper.toNat < 0x80) : c.toNat < 0x80 := by
  delta Char.toUpper at ascii
  split at ascii
  case isTrue lower => exact Nat.lt_of_le_of_lt lower.2 (by decide)
  case isFalse => exact ascii

theorem upper_of_ascii {text : List Char} (ascii : ∀ c ∈ text, c.toNat < 0x80) :
    upper text = text.map Char.toUpper := by
  induction text with
  | nil => rfl
  | cons c rest ih =>
      obtain ⟨here, others⟩ := List.forall_mem_cons.mp ascii
      rw [List.map_cons, ← ih others, upper, List.flatMap_cons, upperChar, if_pos here]
      rfl

end MeterUplink.Text
