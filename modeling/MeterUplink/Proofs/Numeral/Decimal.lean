import MeterUplink.Numeral.Signed128
import MeterUplink.Proofs.Text.Blank

namespace MeterUplink

/-! Which texts are read as integers of 128 bits, and as which. -/

/-- The texts of at most one sign and at least one digit, with the integers that they write. -/
inductive Writes : List Char → Int → Prop where
  | unsigned {digits : List Char} (nonempty : digits ≠ [])
      (ascii : ∀ c ∈ digits, c.isDigit = true) :
      Writes digits (Nat.ofDigitChars 10 digits 0)
  | plus {digits : List Char} (nonempty : digits ≠ []) (ascii : ∀ c ∈ digits, c.isDigit = true) :
      Writes ('+' :: digits) (Nat.ofDigitChars 10 digits 0)
  | minus {digits : List Char} (nonempty : digits ≠ []) (ascii : ∀ c ∈ digits, c.isDigit = true) :
      Writes ('-' :: digits) (-Nat.ofDigitChars 10 digits 0)

theorem decimal?_eq_some_iff {digits : List Char} {n : Nat} :
    decimal? digits = some n ↔
      digits ≠ [] ∧ (∀ c ∈ digits, c.isDigit = true) ∧ Nat.ofDigitChars 10 digits 0 = n := by
  rw [decimal?, Nat.ofDigitChars_eq_foldl]
  split
  · rename_i refused
    simp only [Bool.or_eq_true, List.isEmpty_iff, Bool.not_eq_true', List.all_eq_false] at refused
    constructor
    · intro impossible
      cases impossible
    · rintro ⟨nonempty, ascii, _⟩
      rcases refused with empty | ⟨c, member, other⟩
      · exact absurd empty nonempty
      · exact absurd (ascii c member) other
  · rename_i taken
    simp only [Bool.or_eq_true, List.isEmpty_iff, Bool.not_eq_true', not_or, Bool.not_eq_false,
      List.all_eq_true] at taken
    rw [Option.some.injEq]
    constructor
    · intro value
      exact ⟨taken.1, taken.2, value⟩
    · rintro ⟨_, _, value⟩
      exact value

theorem not_isDigit_plus : ¬ '+'.isDigit = true := by decide

theorem not_isDigit_minus : ¬ '-'.isDigit = true := by decide

theorem signedDecimal?_of_digits {digits : List Char}
    (ascii : ∀ c ∈ digits, c.isDigit = true) :
    signedDecimal? digits = (decimal? digits).map Int.ofNat := by
  unfold signedDecimal?
  split
  · exact absurd (ascii '+' List.mem_cons_self) not_isDigit_plus
  · exact absurd (ascii '-' List.mem_cons_self) not_isDigit_minus
  · rfl

theorem signedDecimal?_eq_some_iff {text : List Char} {n : Int} :
    signedDecimal? text = some n ↔ Writes text n := by
  constructor
  · intro read
    unfold signedDecimal? at read
    split at read
    · obtain ⟨m, digits, rfl⟩ := Option.map_eq_some_iff.mp read
      obtain ⟨nonempty, ascii, rfl⟩ := decimal?_eq_some_iff.mp digits
      exact .plus nonempty ascii
    · obtain ⟨m, digits, rfl⟩ := Option.map_eq_some_iff.mp read
      obtain ⟨nonempty, ascii, rfl⟩ := decimal?_eq_some_iff.mp digits
      exact .minus nonempty ascii
    · obtain ⟨m, digits, rfl⟩ := Option.map_eq_some_iff.mp read
      obtain ⟨nonempty, ascii, rfl⟩ := decimal?_eq_some_iff.mp digits
      exact .unsigned nonempty ascii
  · intro written
    cases written with
    | unsigned nonempty ascii =>
        rw [signedDecimal?_of_digits ascii, decimal?_eq_some_iff.mpr ⟨nonempty, ascii, rfl⟩]
        rfl
    | plus nonempty ascii =>
        rw [signedDecimal?, decimal?_eq_some_iff.mpr ⟨nonempty, ascii, rfl⟩]
        rfl
    | minus nonempty ascii =>
        rw [signedDecimal?, decimal?_eq_some_iff.mpr ⟨nonempty, ascii, rfl⟩]
        rfl

theorem Writes.digit_or_sign {text : List Char} {n : Int} (written : Writes text n) :
    ∀ c ∈ text, c.isDigit = true ∨ c = '+' ∨ c = '-' := by
  intro c member
  cases written with
  | unsigned nonempty ascii => exact .inl (ascii c member)
  | plus nonempty ascii =>
      rcases List.mem_cons.mp member with rfl | member
      · exact .inr (.inl rfl)
      · exact .inl (ascii c member)
  | minus nonempty ascii =>
      rcases List.mem_cons.mp member with rfl | member
      · exact .inr (.inr rfl)
      · exact .inl (ascii c member)

/-- Nothing that writes an integer has a blank in it. -/
theorem Writes.not_isBlank {text : List Char} {n : Int} (written : Writes text n) :
    ∀ c ∈ text, Text.isBlank c = false := by
  intro c member
  rcases written.digit_or_sign c member with digit | rfl | rfl
  · have bounds : 48 ≤ c.toNat ∧ c.toNat ≤ 57 := Char.isDigit_iff_toNat.mp digit
    exact Text.not_isBlank_of_visible (by omega) (by omega)
  · decide
  · decide

theorem toDigits_injective : Function.Injective (Nat.toDigits 10) := by
  intro first second same
  have value := congrArg (Nat.ofDigitChars 10 · 0) same
  simpa only [Nat.ofDigitChars_ten_toDigits] using value

/-- A decimal number ends at the first character that is no digit. -/
theorem toDigits_append_cons_inj {first second : Nat} {mark : Char} {rest other : List Char}
    (apart : mark.isDigit = false)
    (same : Nat.toDigits 10 first ++ mark :: rest = Nat.toDigits 10 second ++ mark :: other) :
    first = second ∧ rest = other := by
  have ends (n : Nat) (tail : List Char) :
      (Nat.toDigits 10 n ++ mark :: tail).takeWhile Char.isDigit = Nat.toDigits 10 n := by
    rw [List.takeWhile_append_of_pos fun c => Nat.isDigit_of_mem_toDigits (by decide) (by decide),
      List.takeWhile_cons_of_neg (by simp [apart]), List.append_nil]
  have digits := congrArg (List.takeWhile Char.isDigit) same
  rw [ends, ends] at digits
  rw [digits, List.append_cancel_left_eq] at same
  exact ⟨toDigits_injective digits, (List.cons.inj same).2⟩

namespace Signed128

theorem ofInt?_eq_some_iff {value : Int} {n : Signed128} :
    ofInt? value = some n ↔ n.value = value := by
  have bounded : -bound ≤ n.value ∧ n.value < bound := ⟨BitVec.le_toInt n.bits, BitVec.toInt_lt⟩
  rw [ofInt?]
  split
  · rename_i inside
    rw [Option.some.injEq]
    constructor
    · rintro rfl
      exact BitVec.toInt_ofInt_eq_self (by decide) inside.1 inside.2
    · rintro rfl
      exact congrArg mk BitVec.ofInt_toInt
  · rename_i outside
    constructor
    · intro impossible
      cases impossible
    · rintro rfl
      exact absurd bounded outside

/-- The text is a decimal integer with nothing but blanks around it, and this is its value. -/
def IsRead (text : String) (n : Signed128) : Prop :=
  ∃ front core back, text.toList = front ++ core ++ back ∧
    (∀ c ∈ front, Text.isBlank c = true) ∧ (∀ c ∈ back, Text.isBlank c = true) ∧
    Writes core n.value

theorem ofText?_eq_some_iff {text : String} {n : Signed128} :
    ofText? text = some n ↔ IsRead text n := by
  rw [ofText?, Option.bind_eq_some_iff]
  constructor
  · rintro ⟨value, read, inRange⟩
    obtain ⟨front, back, split, frontBlank, backBlank⟩ := Text.exists_trim text.toList
    have written := signedDecimal?_eq_some_iff.mp read
    rw [← ofInt?_eq_some_iff.mp inRange] at written
    exact ⟨front, Text.trim text.toList, back, split, frontBlank, backBlank, written⟩
  · rintro ⟨front, core, back, split, frontBlank, backBlank, written⟩
    refine ⟨n.value, ?_, ofInt?_eq_some_iff.mpr rfl⟩
    rw [split, Text.trim_append frontBlank written.not_isBlank backBlank]
    exact signedDecimal?_eq_some_iff.mpr written

end Signed128

end MeterUplink
