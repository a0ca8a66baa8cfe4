import Mathlib.Algebra.Order.Floor.Div
import Mathlib.GroupTheory.GroupAction.Ring
import MeterUplink.Payload.Chunks
import MeterUplink.Proofs.Journal

namespace MeterUplink

/-! Chunks are a partition of the payload that they were cut from. -/

theorem toList_join_map_ofList (pieces : List (List Char)) :
    (String.join (pieces.map String.ofList)).toList = pieces.flatten := by
  induction pieces with
  | nil => rfl
  | cons piece rest ih =>
      rw [List.map_cons, String.join_cons, String.toList_append, String.toList_ofList, ih,
        List.flatten_cons]

theorem length_piecesOf {α : Type} (size : Nat) (elements : List α) :
    (piecesOf size elements).length = elements.length ⌈/⌉ (size + 1) := by
  fun_induction piecesOf size elements with
  | case1 => rw [List.length_nil, List.length_nil, zero_ceilDiv]
  | case2 first rest ih =>
      have whole : rest.length + 1 + (size + 1) - 1 = rest.length + (size + 1) := by omega
      rw [List.length_cons, ih, List.length_drop, List.length_cons, Nat.ceilDiv_eq_add_pred_div,
        Nat.ceilDiv_eq_add_pred_div, whole, Nat.add_div_right _ (Nat.succ_pos size)]
      by_cases more : size ≤ rest.length
      · rw [show rest.length - size + (size + 1) - 1 = rest.length by omega]
      · have last : rest.length - size + (size + 1) - 1 < size + 1 := by omega
        rw [Nat.div_eq_of_lt last, Nat.div_eq_of_lt (by omega)]

namespace Payload

theorem outcome_chunks (payload : Payload) (length : Nat) :
    (payload.chunks length).outcome = payload.cut length := by
  rw [chunks, Journaled.outcome_bind, Journaled.outcome_ofExcept]
  cases payload.cut length with
  | error e => rfl
  | ok chunks => rfl

theorem exists_cut (payload : Payload) {length : Nat} (positive : length ≠ 0) :
    ∃ chunks, payload.cut length = .ok chunks := by
  cases length with
  | zero => exact absurd rfl positive
  | succ size => exact ⟨_, rfl⟩

theorem cut_eq_error_iff {payload : Payload} {length : Nat} {error : PayloadError} :
    payload.cut length = .error error ↔ length = 0 ∧ error = .invalidChunkLength := by
  cases length with
  | zero => simp [cut, eq_comm]
  | succ size => simp [cut]

theorem pos_of_cut {payload : Payload} {length : Nat} {chunks : Chunks}
    (cut : payload.cut length = .ok chunks) : 0 < length := by
  cases length with
  | zero => cases cut
  | succ size => exact Nat.succ_pos size

theorem concat_of_cut {payload : Payload} {length : Nat} {chunks : Chunks}
    (cut : payload.cut length = .ok chunks) : chunks.concat = payload.text := by
  cases length with
  | zero => cases cut
  | succ size =>
      cases cut
      rw [Chunks.concat, ← String.toList_inj, toList_join_map_ofList, flatten_piecesOf]

theorem count_of_cut {payload : Payload} {length : Nat} {chunks : Chunks}
    (cut : payload.cut length = .ok chunks) : chunks.count = payload.length ⌈/⌉ length := by
  cases length with
  | zero => cases cut
  | succ size =>
      cases cut
      rw [Chunks.count, List.length_map, length_piecesOf, String.length_toList, Payload.length]

theorem texts_ne_nil_of_cut {payload : Payload} {length : Nat} {chunks : Chunks}
    (cut : payload.cut length = .ok chunks) (nonempty : payload.text ≠ "") :
    chunks.texts ≠ [] := by
  intro none
  rw [← concat_of_cut cut, Chunks.concat, none] at nonempty
  exact nonempty rfl

theorem mem_of_mem_chunk {payload : Payload} {length : Nat} {chunks : Chunks}
    (cut : payload.cut length = .ok chunks) {chunk : String} (member : chunk ∈ chunks.texts)
    {c : Char} (inside : c ∈ chunk.toList) : c ∈ payload.text.toList := by
  rw [← concat_of_cut cut, Chunks.concat, String.toList_join]
  exact List.mem_flatMap.mpr ⟨chunk, member, inside⟩

end Payload

end MeterUplink
