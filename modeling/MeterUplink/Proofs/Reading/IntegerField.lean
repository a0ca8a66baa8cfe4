import Mathlib.Algebra.Group.Int.Defs
import MeterUplink.Proofs.Numeral.Spelling
import MeterUplink.Proofs.Reading.Decoding

namespace MeterUplink

/-! The language of the fields that are read as integers: decimal digits behind one sign at most,
blanks at the two ends alone, and a value that 128 bits can hold. All else is refused as it is
written. -/

/-- The text is the integer in decimal, with nothing but blanks around it. -/
def IsDecimal (text : String) (value : Int) : Prop :=
  ∃ front core back, text.toList = front ++ core ++ back ∧
    (∀ c ∈ front, Text.isBlank c = true) ∧ (∀ c ∈ back, Text.isBlank c = true) ∧
    Writes core value

namespace Signed128

def InRange (value : Int) : Prop := -2 ^ 127 ≤ value ∧ value ≤ 2 ^ 127 - 1

theorem exists_value_iff {value : Int} : (∃ n : Signed128, n.value = value) ↔ InRange value := by
  constructor
  · rintro ⟨n, rfl⟩
    have below : n.value < 2 ^ 127 := BitVec.toInt_lt
    exact ⟨BitVec.le_toInt n.bits, Int.le_sub_one_of_lt below⟩
  · rintro ⟨low, high⟩
    exact ⟨⟨BitVec.ofInt 128 value⟩,
      BitVec.toInt_ofInt_eq_self (by decide) low (Int.lt_of_le_sub_one high)⟩

end Signed128

namespace Spelling

/-- Without a plus sign, zeros in front or blanks. -/
def bare : Spelling := ⟨[], false, 0, [], by simp⟩

theorem write_bare (n : Int) : bare.write n = toString n := by
  cases n with
  | ofNat n =>
      have shown : toString (Int.ofNat n) = n.repr := rfl
      have positive : ¬ Int.ofNat n < 0 := Int.not_lt.mpr (Int.natCast_nonneg n)
      rw [shown, Nat.repr_eq_ofList_toDigits, write, sign, if_neg positive]
      simp [bare, digits]
  | negSucc n =>
      have shown : toString (Int.negSucc n) = "-" ++ (n + 1).repr := rfl
      rw [shown, Nat.repr_eq_ofList_toDigits, write, sign, if_pos (Int.negSucc_lt_zero n)]
      simp [bare, digits]

end Spelling

namespace RegisterLine

theorem exists_integer_iff {line : RegisterLine} {index : Nat} {value : Int} :
    (∃ n, line.integer index = .ok n ∧ n.value = value) ↔
      IsDecimal ((line.field? index).getD "") value ∧ Signed128.InRange value := by
  rw [← Signed128.exists_value_iff]
  constructor
  · rintro ⟨n, read, rfl⟩
    exact ⟨integer_eq_ok_iff_isRead.mp read, n, rfl⟩
  · rintro ⟨written, n, rfl⟩
    exact ⟨n, integer_eq_ok_iff_isRead.mpr written, rfl⟩

/-- A field is read as an integer exactly if it is one in decimal, between blanks, of 128 bits; else
the error shows the field as it is written, or nothing for a field that is not there. The integers
that are written without more than their sign and digits are all read back. -/
theorem integer_iff_isDecimal (line : RegisterLine) (index : Nat) :
    (∀ value : Int, (∃ n, line.integer index = .ok n ∧ n.value = value) ↔
      IsDecimal ((line.field? index).getD "") value ∧ Signed128.InRange value) ∧
    (∀ error, line.integer index = .error error ↔
      error = .invalidNumber line.marker index ((line.field? index).getD "") ∧
      ∀ value, IsDecimal ((line.field? index).getD "") value → ¬ Signed128.InRange value) ∧
    ∀ n : Signed128, line.field? index = some n.render → line.integer index = .ok n := by
  refine ⟨fun value => exists_integer_iff, fun error => ?_, fun n written => ?_⟩
  · rw [integer_eq_error_iff]
    refine and_congr_right fun _ => ⟨?_, ?_⟩
    · intro unread value decimal inRange
      obtain ⟨n, read, _⟩ := exists_integer_iff.mpr ⟨decimal, inRange⟩
      exact unread n (integer_eq_ok_iff_isRead.mp read)
    · intro outside n read
      exact outside n.value read (Signed128.exists_value_iff.mp ⟨n, rfl⟩)
  · have spelled := Spelling.bare.isRead_write n
    rw [Spelling.write_bare] at spelled
    exact integer_eq_ok_iff.mpr ⟨n.render, written, spelled⟩

/-- The greatest and the least integer of 128 bits are read, the next one above is not; nor are two
numbers in one field or a sign alone. -/
theorem integer_iff_isDecimal_limits :
    let line : RegisterLine := ⟨"", .frequency, ["170141183460469231731687303715884105727",
      "-170141183460469231731687303715884105728", "170141183460469231731687303715884105728",
      "1 2", "-"]⟩
    line.integer 0 = .ok ⟨BitVec.intMax 128⟩ ∧ line.integer 1 = .ok ⟨BitVec.intMin 128⟩ ∧
    (¬ ∃ n, line.integer 2 = .ok n ∧ n.value = 2 ^ 127) ∧
    (∀ value, IsDecimal "1 2" value → ¬ Signed128.InRange value) ∧
    ∀ value, IsDecimal "-" value → ¬ Signed128.InRange value := by
  intro line
  have read := integer_iff_isDecimal line
  refine ⟨(read 0).2.2 ⟨BitVec.intMax 128⟩ (by decide +kernel),
    (read 1).2.2 ⟨BitVec.intMin 128⟩ (by decide +kernel), ?_, ?_, ?_⟩
  · intro above
    exact absurd (((read 2).1 _).mp above).2.2 (by decide)
  · exact (((read 3).2.1 (.invalidNumber "" 3 "1 2")).mp (by decide +kernel)).2
  · exact (((read 4).2.1 (.invalidNumber "" 4 "-")).mp (by decide +kernel)).2

end RegisterLine

end MeterUplink
