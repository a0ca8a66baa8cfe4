import MeterUplink.Proofs.Payload.Chunks

namespace MeterUplink

/-! There is one way to cut a payload into texts of a given length of which the last alone may be
shorter, and the chunks are it. So the place of a chunk tells which characters it consists of, and
what follows a payload of whole chunks can be cut by itself. -/

/-- Lengths that are all the same up to the last, which may be less but not zero. -/
structure IsEven (length : Nat) (lengths : List Nat) : Prop where
  whole : ∀ n ∈ lengths.dropLast, n = length
  last : ∀ n ∈ lengths.getLast?, 1 ≤ n ∧ n ≤ length

namespace IsEven

variable {length n m : Nat} {rest : List Nat}

theorem nil : IsEven length [] := ⟨by simp, by simp⟩

theorem singleton_iff : IsEven length [n] ↔ 1 ≤ n ∧ n ≤ length :=
  ⟨fun even => even.last n rfl, fun bounds => ⟨by simp, by simpa using bounds⟩⟩

theorem cons_cons_iff :
    IsEven length (n :: m :: rest) ↔ n = length ∧ IsEven length (m :: rest) := by
  constructor
  · intro even
    obtain ⟨first, others⟩ := List.forall_mem_cons.mp even.whole
    exact ⟨first, others, even.last⟩
  · rintro ⟨first, even⟩
    exact ⟨List.forall_mem_cons.mpr ⟨first, even.whole⟩, even.last⟩

end IsEven

section Pieces

variable {α : Type} {size : Nat} {elements : List α}

theorem piecesOf_of_ne_nil (nonempty : elements ≠ []) :
    piecesOf size elements =
      elements.take (size + 1) :: piecesOf size (elements.drop (size + 1)) := by
  cases elements with
  | nil => exact absurd rfl nonempty
  | cons first rest => rw [piecesOf, List.take_succ_cons, List.drop_succ_cons]

theorem isEven_piecesOf (size : Nat) (elements : List α) :
    IsEven (size + 1) ((piecesOf size elements).map List.length) := by
  fun_induction piecesOf size elements with
  | case1 => exact .nil
  | case2 first rest ih =>
      rw [List.map_cons]
      cases later : rest.drop size with
      | nil =>
          simp only [piecesOf, List.map_nil, IsEven.singleton_iff, List.length_cons,
            List.length_take]
          omega
      | cons next more =>
          -- something is left, so the piece in front of it is whole
          have left := congrArg List.length later
          rw [List.length_drop, List.length_cons] at left
          rw [later, piecesOf_of_ne_nil (List.cons_ne_nil next more), List.map_cons] at ih
          rw [piecesOf_of_ne_nil (List.cons_ne_nil next more), List.map_cons]
          refine IsEven.cons_cons_iff.mpr ⟨?_, ih⟩
          rw [List.length_cons, List.length_take]
          omega

/-- Pieces that are even come back from what they are joined to. -/
theorem piecesOf_flatten {pieces : List (List α)}
    (even : IsEven (size + 1) (pieces.map List.length)) :
    piecesOf size pieces.flatten = pieces := by
  induction pieces with
  | nil => simp [piecesOf]
  | cons piece rest ih =>
      cases rest with
      | nil =>
          obtain ⟨positive, within⟩ := IsEven.singleton_iff.mp even
          rw [List.flatten_singleton, piecesOf_of_ne_nil (List.ne_nil_of_length_pos positive),
            List.take_of_length_le within, List.drop_of_length_le within, piecesOf]
      | cons next more =>
          obtain ⟨whole, later⟩ := IsEven.cons_cons_iff.mp even
          have nonempty : piece ++ (next :: more).flatten ≠ [] :=
            List.append_ne_nil_of_left_ne_nil (List.ne_nil_of_length_pos (by omega)) _
          rw [List.flatten_cons, piecesOf_of_ne_nil nonempty, List.take_left' whole,
            List.drop_left' whole, ih later]

theorem piecesOf_append {first second : List α} (whole : size + 1 ∣ first.length) :
    piecesOf size (first ++ second) = piecesOf size first ++ piecesOf size second := by
  fun_induction piecesOf size first with
  | case1 => rfl
  | case2 head rest ih =>
      have enough : size ≤ rest.length :=
        Nat.le_of_succ_le_succ (Nat.le_of_dvd (Nat.succ_pos _) whole)
      have later : size + 1 ∣ (rest.drop size).length := by
        have shorter := Nat.dvd_sub whole (Nat.dvd_refl (size + 1))
        rwa [List.length_cons, Nat.add_sub_add_right, ← List.length_drop] at shorter
      rw [List.cons_append, piecesOf, List.take_append_of_le_length enough,
        List.drop_append_of_le_length enough, ih later, List.cons_append]

theorem getElem?_piecesOf {index : Nat} (within : index * (size + 1) < elements.length) :
    (piecesOf size elements)[index]? =
      some ((elements.drop (index * (size + 1))).take (size + 1)) := by
  induction index generalizing elements with
  | zero =>
      rw [Nat.zero_mul] at within ⊢
      rw [piecesOf_of_ne_nil (List.ne_nil_of_length_pos within), List.getElem?_cons_zero,
        List.drop_zero]
  | succ index ih =>
      rw [Nat.succ_mul] at within ⊢
      have left : index * (size + 1) < (elements.drop (size + 1)).length := by
        rw [List.length_drop]
        omega
      rw [piecesOf_of_ne_nil (List.ne_nil_of_length_pos (by omega)), List.getElem?_cons_succ,
        ih left, List.drop_drop, Nat.add_comm (size + 1)]

end Pieces

namespace Payload

variable {payload : Payload} {length : Nat} {chunks : Chunks}

theorem isEven_of_cut (cut : payload.cut length = .ok chunks) :
    IsEven length (chunks.texts.map String.length) := by
  cases length with
  | zero => cases cut
  | succ size =>
      cases cut
      have even := isEven_piecesOf size payload.text.toList
      simpa [List.map_map, Function.comp_def] using even

/-- Even texts are what the payload that they are joined to is cut into. -/
theorem cut_concat (positive : length ≠ 0)
    (even : IsEven length (chunks.texts.map String.length)) :
    Payload.cut ⟨chunks.concat⟩ length = .ok chunks := by
  obtain ⟨size, rfl⟩ := Nat.exists_eq_succ_of_ne_zero positive
  obtain ⟨texts⟩ := chunks
  have written : (texts.map String.toList).map String.ofList = texts := by
    simp [List.map_map, Function.comp_def]
  have joined : (Chunks.concat ⟨texts⟩).toList = (texts.map String.toList).flatten := by
    rw [← toList_join_map_ofList, written, Chunks.concat]
  have lengths : (texts.map String.toList).map List.length = texts.map String.length := by
    simp [List.map_map, Function.comp_def, String.length_toList]
  rw [← lengths] at even
  rw [Payload.cut, joined, piecesOf_flatten even, written]

theorem eq_iff_of_cut (cut : payload.cut length = .ok chunks) (other : Chunks) :
    (other.concat = payload.text ∧ IsEven length (other.texts.map String.length)) ↔
      other = chunks := by
  constructor
  · rintro ⟨joined, even⟩
    have again := cut_concat (Nat.ne_of_gt (pos_of_cut cut)) even
    rw [joined] at again
    exact Except.ok.inj (again.symm.trans cut)
  · rintro rfl
    exact ⟨concat_of_cut cut, isEven_of_cut cut⟩

theorem get?_of_cut (cut : payload.cut length = .ok chunks) (index : Nat) :
    chunks.get? index =
      if index < chunks.count then
        some (String.ofList (payload.text.toList.extract (index * length)
          (min ((index + 1) * length) payload.length)))
      else none := by
  split
  case isTrue inside =>
    rw [count_of_cut cut, ← not_le, ceilDiv_le_iff_le_mul (pos_of_cut cut), not_le,
      Nat.mul_comm] at inside
    cases length with
    | zero => cases cut
    | succ size =>
        cases cut
        rw [Payload.length, ← String.length_toList] at inside ⊢
        have characters : (payload.text.toList.drop (index * (size + 1))).take (size + 1) =
            payload.text.toList.extract (index * (size + 1))
              (min ((index + 1) * (size + 1)) payload.text.toList.length) := by
          rw [List.extract_eq_take_drop, List.take_eq_take_iff, List.length_drop, Nat.succ_mul]
          omega
        rw [Chunks.get?, List.getElem?_map, getElem?_piecesOf inside, Option.map_some, characters]
  case isFalse beyond => exact List.getElem?_eq_none (Nat.le_of_not_lt beyond)

theorem cut_append {other : Payload} {more : Chunks} (whole : length ∣ payload.length)
    (cut : payload.cut length = .ok chunks) (later : other.cut length = .ok more) :
    Payload.cut ⟨payload.text ++ other.text⟩ length = .ok ⟨chunks.texts ++ more.texts⟩ := by
  cases length with
  | zero => cases cut
  | succ size =>
      cases cut
      cases later
      rw [Payload.length, ← String.length_toList] at whole
      rw [Payload.cut, String.toList_append, piecesOf_append whole, List.map_append]

/-- A payload is refused only for chunks of no length. Else it is cut in the one way there is into
texts of that length, of which the last alone may be shorter; so the chunks are told by their
places, and those of whole chunks before another payload are cut off in front of it. -/
theorem chunks_partition :
    (∀ (payload : Payload) (length : Nat) (error : PayloadError),
      (payload.chunks length).outcome = .error error ↔
        length = 0 ∧ error = .invalidChunkLength) ∧
    ∀ (payload : Payload) (length : Nat), 1 ≤ length →
      ∃ chunks, (payload.chunks length).outcome = .ok chunks ∧
        (∀ other : Chunks,
          (other.concat = payload.text ∧ IsEven length (other.texts.map String.length)) ↔
            other = chunks) ∧
        chunks.count = payload.length ⌈/⌉ length ∧
        (∀ index, chunks.get? index =
          if index < chunks.count then
            some (String.ofList (payload.text.toList.extract (index * length)
              (min ((index + 1) * length) payload.length)))
          else none) ∧
        ∀ (other : Payload) (more : Chunks), length ∣ payload.length →
          (other.chunks length).outcome = .ok more →
          (Payload.chunks ⟨payload.text ++ other.text⟩ length).outcome =
            .ok ⟨chunks.texts ++ more.texts⟩ := by
  simp only [outcome_chunks]
  refine ⟨fun _ _ _ => cut_eq_error_iff, fun payload length positive => ?_⟩
  obtain ⟨chunks, cut⟩ := payload.exists_cut (Nat.ne_of_gt positive)
  exact ⟨chunks, cut, eq_iff_of_cut cut, count_of_cut cut, get?_of_cut cut,
    fun other more whole later => cut_append whole cut later⟩

/-- Characters count and not their bytes: four characters are two chunks of two, in front of a fifth
character too. -/
theorem chunks_partition_wide :
    (Payload.chunks ⟨"aß😀d"⟩ 2).outcome = .ok ⟨["aß", "😀d"]⟩ ∧
    (Payload.chunks ⟨"é"⟩ 2).outcome = .ok ⟨["é"]⟩ ∧
    (Payload.chunks ⟨"aß😀dé"⟩ 2).outcome = .ok ⟨["aß", "😀d", "é"]⟩ ∧
    (Payload.chunks ⟨"é"⟩ 0).outcome = .error .invalidChunkLength := by
  obtain ⟨refused, cut⟩ := chunks_partition
  obtain ⟨first, cutFirst, onlyFirst, _, _, follows⟩ := cut ⟨"aß😀d"⟩ 2 (by decide)
  obtain ⟨second, cutSecond, onlySecond, _⟩ := cut ⟨"é"⟩ 2 (by decide)
  obtain rfl := (onlyFirst ⟨["aß", "😀d"]⟩).mp ⟨by decide, by decide, by decide⟩
  obtain rfl := (onlySecond ⟨["é"]⟩).mp ⟨by decide, by decide, by decide⟩
  exact ⟨cutFirst, cutSecond, follows ⟨"é"⟩ _ (by decide) cutSecond,
    (refused _ _ _).mpr ⟨rfl, rfl⟩⟩

end Payload

end MeterUplink
