namespace MeterUplink.Text

/-! Search for a contiguous piece of a text, or of a sequence of bytes. -/

def occursIn {α : Type} [BEq α] (piece : List α) : List α → Bool
  | [] => piece.isEmpty
  | c :: rest => piece.isPrefixOf (c :: rest) || occursIn piece rest

theorem occursIn_iff {α : Type} [BEq α] [LawfulBEq α] {piece text : List α} :
    occursIn piece text = true ↔ piece <:+: text := by
  induction text with
  | nil => simp [occursIn]
  | cons c rest ih => simp [occursIn, ih, List.infix_cons_iff]

end MeterUplink.Text
