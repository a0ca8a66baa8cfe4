import MeterUplink.Proofs.Text.Joining

namespace MeterUplink.Text

/-! Lines that are each followed by a line feed, whatever else they hold. A carriage return at the
end of a line becomes part of the line end; the others stay. -/

def dropReturn (line : List Char) : List Char :=
  if line.getLast? = some '\r' then line.dropLast else line

theorem dropReturn_cons_cons (c d : Char) (line : List Char) :
    dropReturn (c :: d :: line) = c :: dropReturn (d :: line) := by
  rw [dropReturn, dropReturn, List.getLast?_cons_cons, List.dropLast_cons_cons]
  split <;> rfl

theorem joinLineEnds_feed {line : List Char} (whole : '\n' ∉ line) (rest : List Char) :
    joinLineEnds (line ++ '\n' :: rest) = dropReturn line ++ '\n' :: joinLineEnds rest := by
  induction line with
  | nil => exact joinLineEnds_cons_feed rest
  | cons c line ih =>
      obtain ⟨_, others⟩ := not_or.mp (mt List.mem_cons.mpr whole)
      cases line with
      | nil =>
          by_cases isReturn : c = '\r'
          · rw [isReturn, List.singleton_append, joinLineEnds, if_pos (by simp)]
            exact joinLineEnds_cons_feed rest
          · have kept : dropReturn [c] = [c] := if_neg (by simpa using isReturn)
            rw [kept, List.singleton_append, joinLineEnds, if_neg fun ends => isReturn ends.1,
              joinLineEnds_cons_feed]
            rfl
      | cons d line =>
          have inner : (d :: line ++ '\n' :: rest).head? ≠ some '\n' := by
            rintro first
            exact others (Option.some.inj first ▸ List.mem_cons_self)
          rw [dropReturn_cons_cons, List.cons_append, joinLineEnds,
            if_neg fun ends => inner ends.2, ih others, List.cons_append]

theorem joinLineEnds_flatMap_feed {texts : List (List Char)}
    (whole : ∀ text ∈ texts, '\n' ∉ text) :
    joinLineEnds (texts.flatMap (· ++ ['\n'])) = (texts.map dropReturn).flatMap (· ++ ['\n']) := by
  induction texts with
  | nil => rfl
  | cons text rest ih =>
      obtain ⟨here, others⟩ := List.forall_mem_cons.mp whole
      rw [List.flatMap_cons, List.append_assoc, List.singleton_append, joinLineEnds_feed here,
        ih others, List.map_cons, List.flatMap_cons, List.append_assoc, List.singleton_append]

theorem intercalate_snoc_nil {α : Type} (separator : α) (parts : List (List α)) :
    [separator].intercalate (parts ++ [[]]) = parts.flatMap (· ++ [separator]) := by
  induction parts with
  | nil => rfl
  | cons part rest ih =>
      rw [List.cons_append, List.intercalate_cons_of_ne_nil (by simp), ih, List.flatMap_cons]

theorem not_mem_dropReturn {c : Char} {line : List Char} (outside : c ∉ line) :
    c ∉ dropReturn line := by
  rw [dropReturn]
  split
  · exact fun inside => outside (List.mem_of_mem_dropLast inside)
  · exact outside

theorem lines_flatMap_feed {texts : List (List Char)} (whole : ∀ text ∈ texts, '\n' ∉ text) :
    lines (texts.flatMap (· ++ ['\n'])) = texts.map dropReturn := by
  have clean : ∀ piece ∈ texts.map dropReturn ++ [[]], '\n' ∉ piece := by
    refine List.forall_mem_append.mpr ⟨List.forall_mem_map.mpr fun text member => ?_, by simp⟩
    exact not_mem_dropReturn (whole text member)
  rw [lines, joinLineEnds_flatMap_feed whole, ← intercalate_snoc_nil,
    List.splitOn_intercalate _ clean (by simp), dropEmptyLast, if_pos (by simp)]
  simp

/-- A carriage return at the end decides nothing about a piece that has none in it. -/
theorem infix_dropReturn_iff {piece line : List Char} (apart : '\r' ∉ piece) :
    piece <:+: dropReturn line ↔ piece <:+: line := by
  rw [dropReturn]
  split
  case isFalse => rfl
  case isTrue ends =>
    have split : line = line.dropLast ++ '\r' :: [] := (List.dropLast_append_getLast? _ ends).symm
    constructor
    · exact fun inside => inside.trans (List.dropLast_prefix line).isInfix
    · intro inside
      rw [split] at inside
      rcases infix_append_cons apart inside with front | none
      · exact front
      · rw [List.infix_nil.mp none]
        exact List.nil_infix

end MeterUplink.Text
