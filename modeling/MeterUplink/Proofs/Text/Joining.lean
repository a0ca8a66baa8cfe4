import Mathlib.Data.List.Infix
import MeterUplink.Text.Lines

namespace MeterUplink.Text

/-! Pieces joined by a separator. What has no separator in it and stands in the joined text stands
in one of the pieces, and lines that are joined by line ends are found again. -/

section

variable {α : Type} {separator : α} {piece : List α} {parts : List (List α)}

theorem mem_of_mem_intercalate {a : α} (member : a ∈ [separator].intercalate parts) :
    a = separator ∨ ∃ part ∈ parts, a ∈ part := by
  induction parts with
  | nil => cases member
  | cons part rest ih =>
      cases rest with
      | nil =>
          rw [List.intercalate_singleton] at member
          exact .inr ⟨part, List.mem_cons_self, member⟩
      | cons next rest =>
          rw [List.intercalate_cons_cons, List.append_assoc, List.mem_append,
            List.singleton_append, List.mem_cons] at member
          rcases member with here | between | later
          · exact .inr ⟨part, List.mem_cons_self, here⟩
          · exact .inl between
          · rcases ih later with between | ⟨other, among, here⟩
            · exact .inl between
            · exact .inr ⟨other, List.mem_cons_of_mem _ among, here⟩

theorem infix_append_cons {before after : List α} (apart : separator ∉ piece)
    (inside : piece <:+: before ++ separator :: after) : piece <:+: before ∨ piece <:+: after := by
  rcases List.infix_append_iff.mp inside with front | back | ⟨first, second, rfl, ends, begins⟩
  · exact .inl front
  · rcases List.infix_cons_iff.mp back with begins | later
    · rcases List.prefix_cons_iff.mp begins with rfl | ⟨rest, rfl, _⟩
      · exact .inl (List.nil_infix)
      · exact absurd List.mem_cons_self apart
    · exact .inr later
  · rcases List.prefix_cons_iff.mp begins with rfl | ⟨rest, rfl, _⟩
    · rw [List.append_nil]
      exact .inl ends.isInfix
    · exact absurd (List.mem_append_right first List.mem_cons_self) apart

theorem exists_infix_of_infix_intercalate (nonempty : piece ≠ []) (apart : separator ∉ piece)
    (inside : piece <:+: [separator].intercalate parts) : ∃ part ∈ parts, piece <:+: part := by
  induction parts with
  | nil => exact absurd (List.infix_nil.mp inside) nonempty
  | cons part rest ih =>
      cases rest with
      | nil =>
          rw [List.intercalate_singleton] at inside
          exact ⟨part, List.mem_cons_self, inside⟩
      | cons next rest =>
          rw [List.intercalate_cons_cons, List.append_assoc, List.singleton_append] at inside
          rcases infix_append_cons apart inside with here | later
          · exact ⟨part, List.mem_cons_self, here⟩
          · obtain ⟨other, among, here⟩ := ih later
            exact ⟨other, List.mem_cons_of_mem _ among, here⟩

end

inductive LineEnd where
  | feed
  | returnFeed
deriving DecidableEq

def LineEnd.chars : LineEnd → List Char
  | feed => ['\n']
  | returnFeed => ['\r', '\n']

/-- Lines with a line end between any two of them, and one behind the last of them at will. -/
def LineEnd.join (lineEnd : LineEnd) (final : Bool) (lines : List (List Char)) : List Char :=
  lineEnd.chars.intercalate lines ++ if final then lineEnd.chars else []

theorem joinLineEnds_append {line : List Char} (plain : '\r' ∉ line) (rest : List Char) :
    joinLineEnds (line ++ rest) = line ++ joinLineEnds rest := by
  induction line with
  | nil => rfl
  | cons c line ih =>
      obtain ⟨other, plain⟩ := not_or.mp (mt List.mem_cons.mpr plain)
      rw [List.cons_append, joinLineEnds, if_neg (fun ends => other ends.1.symm), ih plain,
        List.cons_append]

theorem joinLineEnds_cons_feed (rest : List Char) :
    joinLineEnds ('\n' :: rest) = '\n' :: joinLineEnds rest := by
  rw [joinLineEnds, if_neg (by simp)]

theorem joinLineEnds_lineEnd (lineEnd : LineEnd) (rest : List Char) :
    joinLineEnds (lineEnd.chars ++ rest) = '\n' :: joinLineEnds rest := by
  cases lineEnd with
  | feed => exact joinLineEnds_cons_feed rest
  | returnFeed =>
      change joinLineEnds ('\r' :: '\n' :: rest) = _
      rw [joinLineEnds, if_pos (by simp), joinLineEnds_cons_feed]

theorem joinLineEnds_intercalate (lineEnd : LineEnd) {lines : List (List Char)}
    (plain : ∀ line ∈ lines, '\r' ∉ line) :
    joinLineEnds (lineEnd.chars.intercalate lines) = ['\n'].intercalate lines := by
  induction lines with
  | nil => rfl
  | cons line rest ih =>
      obtain ⟨here, others⟩ := List.forall_mem_cons.mp plain
      cases rest with
      | nil =>
          have alone := joinLineEnds_append here []
          rw [List.append_nil] at alone
          rw [List.intercalate_singleton, List.intercalate_singleton, alone]
          exact List.append_nil line
      | cons next rest =>
          rw [List.intercalate_cons_cons, List.intercalate_cons_cons, List.append_assoc,
            joinLineEnds_append here, joinLineEnds_lineEnd, ih others, List.append_assoc,
            List.singleton_append]

/-- A line end behind the last line is one in front of an empty line. -/
theorem join_true (lineEnd : LineEnd) {lines : List (List Char)} (nonempty : lines ≠ []) :
    lineEnd.join true lines = lineEnd.chars.intercalate (lines ++ [[]]) := by
  rw [LineEnd.join, if_pos rfl]
  induction lines with
  | nil => exact absurd rfl nonempty
  | cons line rest ih =>
      cases rest with
      | nil =>
          rw [List.intercalate_singleton, List.singleton_append, List.intercalate_cons_cons,
            List.intercalate_singleton, List.append_nil]
      | cons next rest =>
          rw [List.intercalate_cons_cons, List.append_assoc, ih (List.cons_ne_nil next rest)]
          exact (List.intercalate_cons_of_ne_nil (by simp)).symm

/-- Lines are found again as they were joined; without a last line end, an empty last line is
lost. -/
theorem lines_join (lineEnd : LineEnd) (final : Bool) {lines : List (List Char)}
    (nonempty : lines ≠ []) (plain : ∀ line ∈ lines, '\n' ∉ line ∧ '\r' ∉ line) :
    Text.lines (lineEnd.join final lines) = if final then lines else dropEmptyLast lines := by
  have split {pieces : List (List Char)} (some : pieces ≠ [])
      (clean : ∀ piece ∈ pieces, '\n' ∉ piece ∧ '\r' ∉ piece) :
      Text.lines (lineEnd.chars.intercalate pieces) = dropEmptyLast pieces := by
    rw [Text.lines, joinLineEnds_intercalate lineEnd fun piece member => (clean piece member).2,
      List.splitOn_intercalate _ (fun piece member => (clean piece member).1) some]
  cases final with
  | false =>
      rw [LineEnd.join, if_neg Bool.false_ne_true, List.append_nil, split nonempty plain]
      rfl
  | true =>
      rw [join_true lineEnd nonempty, split (by simp)
        (List.forall_mem_append.mpr ⟨plain, by simp⟩), dropEmptyLast, if_pos (by simp)]
      simp

end MeterUplink.Text
