import MeterUplink.Proofs.Numeral.Decimal

namespace MeterUplink

/-! Spellings of an integer in the field of a log: its digits behind any number of zeros, a minus
sign if it is negative, a plus sign at will if it is not, and blanks around all of it. Every
integer of 128 bits is read back from every spelling. -/

/-- A way to write integers. The blanks end no line. -/
structure Spelling where
  front : List Char
  plus : Bool
  zeros : Nat
  back : List Char
  padding : ∀ c ∈ front ++ back, Text.isBlank c = true ∧ c ≠ '\n' ∧ c ≠ '\r'

namespace Spelling

def sign (spelling : Spelling) (n : Int) : List Char :=
  if n < 0 then ['-'] else if spelling.plus then ['+'] else []

def digits (spelling : Spelling) (n : Int) : List Char :=
  List.replicate spelling.zeros '0' ++ Nat.toDigits 10 n.natAbs

def write (spelling : Spelling) (n : Int) : String :=
  String.ofList (spelling.front ++ (spelling.sign n ++ spelling.digits n) ++ spelling.back)

theorem blank_front (spelling : Spelling) : ∀ c ∈ spelling.front, Text.isBlank c = true :=
  fun c member => (spelling.padding c (List.mem_append_left _ member)).1

theorem blank_back (spelling : Spelling) : ∀ c ∈ spelling.back, Text.isBlank c = true :=
  fun c member => (spelling.padding c (List.mem_append_right _ member)).1

theorem digits_ne_nil (spelling : Spelling) (n : Int) : spelling.digits n ≠ [] :=
  List.append_ne_nil_of_right_ne_nil _ Nat.toDigits_ne_nil

theorem isDigit_of_mem_digits (spelling : Spelling) (n : Int) :
    ∀ c ∈ spelling.digits n, c.isDigit = true := by
  intro c member
  rcases List.mem_append.mp member with zero | digit
  · rw [List.eq_of_mem_replicate zero]
    rfl
  · exact Nat.isDigit_of_mem_toDigits (by decide) (by decide) digit

theorem ofDigitChars_digits (spelling : Spelling) (n : Int) :
    Nat.ofDigitChars 10 (spelling.digits n) 0 = n.natAbs := by
  rw [digits, Nat.ofDigitChars_append, Nat.ofDigitChars_replicate_zero, Nat.mul_zero]
  exact Nat.ofDigitChars_toDigits (by decide) (by decide)

theorem writes_sign_digits (spelling : Spelling) (n : Int) :
    Writes (spelling.sign n ++ spelling.digits n) n := by
  have nonempty := spelling.digits_ne_nil n
  have ascii := spelling.isDigit_of_mem_digits n
  have value := spelling.ofDigitChars_digits n
  rw [sign]
  split
  case isTrue negative =>
    have written := Writes.minus nonempty ascii
    rwa [value, Int.ofNat_natAbs_of_nonpos (Int.le_of_lt negative), Int.neg_neg] at written
  case isFalse positive =>
    have size : (n.natAbs : Int) = n := Int.natAbs_of_nonneg (Int.not_lt.mp positive)
    split
    · have written := Writes.plus nonempty ascii
      rwa [value, size] at written
    · have written := Writes.unsigned nonempty ascii
      rwa [value, size] at written

/-- Every quantity, up to both ends of the range, is read back from each of its spellings. -/
theorem isRead_write (spelling : Spelling) (n : Signed128) :
    Signed128.IsRead (spelling.write n.value) n :=
  ⟨spelling.front, spelling.sign n.value ++ spelling.digits n.value, spelling.back,
    String.toList_ofList, spelling.blank_front, spelling.blank_back,
    spelling.writes_sign_digits n.value⟩

theorem plain_of_mem_write (spelling : Spelling) (n : Int) :
    ∀ c ∈ (spelling.write n).toList, c ≠ ',' ∧ c ≠ '\n' ∧ c ≠ '\r' := by
  have written := spelling.writes_sign_digits n
  have padded (c : Char) (member : c ∈ spelling.front ++ spelling.back) :
      c ≠ ',' ∧ c ≠ '\n' ∧ c ≠ '\r' := by
    obtain ⟨blank, noFeed, noReturn⟩ := spelling.padding c member
    refine ⟨?_, noFeed, noReturn⟩
    rintro rfl
    exact absurd blank (by decide)
  intro c member
  rw [write, String.toList_ofList, List.mem_append, List.mem_append] at member
  rcases member with (front | core) | back
  · exact padded c (List.mem_append_left _ front)
  · refine ⟨?_, ?_, ?_⟩
    · rintro rfl
      exact absurd (written.digit_or_sign _ core) (by decide)
    · rintro rfl
      exact absurd (written.not_isBlank _ core) (by decide)
    · rintro rfl
      exact absurd (written.not_isBlank _ core) (by decide)
  · exact padded c (List.mem_append_right _ back)

end Spelling

end MeterUplink
