import MeterUplink.Marker
import MeterUplink.Proofs.Numeral.Decimal
import MeterUplink.Proofs.Text.Joining

namespace MeterUplink.Marker

/-! The shape of canonical markers. All of them have one length, so none stands within another;
and a marker has spaces between its digits, so it does not stand within a number. -/

theorem isPair_iff {pair : List Char} :
    isPair pair = true ↔ ∃ high low, pair = [high, low] ∧ isUpperDigit high = true ∧
      isUpperDigit low = true := by
  constructor
  · intro valid
    match pair, valid with
    | [high, low], valid => exact ⟨high, low, rfl, Bool.and_eq_true_iff.mp valid⟩
  · rintro ⟨high, low, rfl, digits⟩
    exact Bool.and_eq_true_iff.mpr digits

theorem exists_pairs_of_isValid {marker : String} (valid : isValid marker = true) :
    ∃ pairs, marker.toList = [' '].intercalate pairs ∧ pairs.length = 6 ∧
      ∀ pair ∈ pairs, isPair pair = true := by
  obtain ⟨six, each⟩ := Bool.and_eq_true_iff.mp valid
  exact ⟨_, (List.intercalate_splitOn ' ').symm, beq_iff_eq.mp six, List.all_eq_true.mp each⟩

/-- Six pairs of digits in upper case, with single spaces between them. -/
def IsCanonical (marker : String) : Prop :=
  ∃ pairs, marker.toList = [' '].intercalate pairs ∧ pairs.length = 6 ∧
    ∀ pair ∈ pairs, ∃ high low, pair = [high, low] ∧ isUpperDigit high = true ∧
      isUpperDigit low = true

theorem isCanonical_of_isValid {marker : String} (valid : isValid marker = true) :
    IsCanonical marker := by
  obtain ⟨pairs, joined, six, each⟩ := exists_pairs_of_isValid valid
  exact ⟨pairs, joined, six, fun pair among => isPair_iff.mp (each pair among)⟩

theorem length_intercalate {pairs : List (List Char)} (nonempty : pairs ≠ [])
    (each : ∀ pair ∈ pairs, isPair pair = true) :
    ([' '].intercalate pairs).length + 1 = 3 * pairs.length := by
  induction pairs with
  | nil => exact absurd rfl nonempty
  | cons pair rest ih =>
      obtain ⟨here, others⟩ := List.forall_mem_cons.mp each
      obtain ⟨high, low, rfl, _⟩ := isPair_iff.mp here
      cases rest with
      | nil => rfl
      | cons next rest =>
          have later := ih (List.cons_ne_nil next rest) others
          rw [List.intercalate_cons_cons, List.length_append, List.length_append]
          simp only [List.length_cons, List.length_nil] at later ⊢
          omega

variable {marker other : String}

theorem length_of_isValid (valid : isValid marker = true) : marker.toList.length = 17 := by
  obtain ⟨pairs, joined, six, each⟩ := exists_pairs_of_isValid valid
  have length := length_intercalate (List.ne_nil_of_length_pos (by omega)) each
  rw [joined]
  omega

theorem eq_of_infix (valid : isValid marker = true) (otherValid : isValid other = true)
    (inside : marker.toList <:+: other.toList) : marker = other := by
  refine String.toList_injective (inside.eq_of_length ?_)
  rw [length_of_isValid valid, length_of_isValid otherValid]

theorem visible_of_isUpperDigit {c : Char} (digit : isUpperDigit c = true) :
    0x30 ≤ c.toNat ∧ c.toNat ≤ 0x46 := by
  simp only [isUpperDigit, Bool.or_eq_true, Bool.and_eq_true, decide_eq_true_eq, Char.le_def,
    UInt32.le_iff_toNat_le] at digit
  change 0x30 ≤ c.val.toNat ∧ c.val.toNat ≤ 0x46
  rcases digit with ⟨low, high⟩ | ⟨low, high⟩
  · exact ⟨low, Nat.le_trans high (by decide)⟩
  · exact ⟨Nat.le_trans (by decide) low, high⟩

theorem digit_or_space_of_mem (valid : isValid marker = true) {c : Char}
    (member : c ∈ marker.toList) : isUpperDigit c = true ∨ c = ' ' := by
  obtain ⟨pairs, joined, _, each⟩ := exists_pairs_of_isValid valid
  rw [joined] at member
  rcases Text.mem_of_mem_intercalate member with space | ⟨pair, among, inside⟩
  · exact .inr space
  · obtain ⟨high, low, rfl, highDigit, lowDigit⟩ := isPair_iff.mp (each pair among)
    rcases List.mem_pair.mp inside with rfl | rfl
    · exact .inl highDigit
    · exact .inl lowDigit

theorem exists_space_between (valid : isValid marker = true) :
    ∃ before after, isUpperDigit before = true ∧ isUpperDigit after = true ∧
      [before, ' ', after] <:+: marker.toList := by
  obtain ⟨pairs, joined, six, each⟩ := exists_pairs_of_isValid valid
  match pairs, six with
  | first :: second :: rest, _ =>
      obtain ⟨high, low, rfl, _, lowDigit⟩ := isPair_iff.mp (each first (by simp))
      obtain ⟨high', low', rfl, highDigit', _⟩ := isPair_iff.mp (each second (by simp))
      have starts : ∃ tail, [' '].intercalate ([high', low'] :: rest) = high' :: tail := by
        cases rest with
        | nil => exact ⟨_, List.intercalate_singleton⟩
        | cons third rest => exact ⟨_, List.intercalate_cons_cons⟩
      obtain ⟨tail, starts⟩ := starts
      refine ⟨low, high', lowDigit, highDigit', [high], tail, ?_⟩
      rw [joined, List.intercalate_cons_cons, starts]
      rfl

theorem plain_of_mem (valid : isValid marker = true) :
    ∀ c ∈ marker.toList, c ≠ ',' ∧ c ≠ '\n' ∧ c ≠ '\r' := by
  intro c member
  rcases digit_or_space_of_mem valid member with digit | rfl
  · have visible := visible_of_isUpperDigit digit
    refine ⟨?_, ?_, ?_⟩ <;> rintro rfl <;> exact absurd visible (by decide)
  · decide

theorem not_infix_of_isRead (valid : isValid marker = true) {text : String} {n : Signed128}
    (read : Signed128.IsRead text n) : ¬ marker.toList <:+: text.toList := by
  obtain ⟨before, after, beforeDigit, afterDigit, inMarker⟩ := exists_space_between valid
  obtain ⟨front, core, back, split, frontBlank, backBlank, written⟩ := read
  have visible {c : Char} (digit : isUpperDigit c = true) : Text.isBlank c = false := by
    have bounds := visible_of_isUpperDigit digit
    exact Text.not_isBlank_of_visible (by omega) (by omega)
  intro inside
  rw [split] at inside
  exact Text.not_infix_of_padded frontBlank written.not_isBlank backBlank (visible beforeDigit)
    (by decide) (visible afterDigit) (inMarker.trans inside)

end MeterUplink.Marker
