import MeterUplink.Numeral.Hex
import MeterUplink.Proofs.Text.Utf8

namespace MeterUplink.Hex

/-! Bytes and their hexadecimal digits. What is written reads back as the same bytes, and what
was read is written again in lower-case letters. -/

/-- The digits that are written: no capital letters. -/
def isLowerDigit (c : Char) : Bool :=
  (decide ('0' ≤ c) && decide (c ≤ '9')) || (decide ('a' ≤ c) && decide (c ≤ 'f'))

theorem isLowerDigit_digit {value : Nat} (small : value < 16) :
    isLowerDigit (digit value) = true := by
  revert value
  decide

theorem digit_ascii {value : Nat} (small : value < 16) : (digit value).toNat < 0x80 := by
  revert value
  decide

theorem exists_digit_of_mem_encode {bytes : List UInt8} {c : Char} (member : c ∈ encode bytes) :
    ∃ value < 16, c = digit value := by
  obtain ⟨byte, _, inside⟩ := List.mem_flatMap.mp member
  have small : byte.toNat < 256 := byte.toNat_lt
  simp only [List.mem_cons, List.not_mem_nil, or_false] at inside
  rcases inside with same | same
  · exact ⟨byte.toNat / 16, by omega, same⟩
  · exact ⟨byte.toNat % 16, by omega, same⟩

theorem isLowerDigit_of_mem_encode {bytes : List UInt8} {c : Char}
    (member : c ∈ encode bytes) : isLowerDigit c = true := by
  obtain ⟨value, small, rfl⟩ := exists_digit_of_mem_encode member
  exact isLowerDigit_digit small

theorem utf8Bytes_encode (bytes : List UInt8) :
    Text.utf8Bytes (String.ofList (encode bytes)) =
      (encode bytes).map fun c => UInt8.ofNat c.toNat := by
  rw [Text.utf8Bytes, String.toList_ofList]
  apply Text.encodeUtf8_ascii
  intro c member
  obtain ⟨value, small, rfl⟩ := exists_digit_of_mem_encode member
  exact digit_ascii small

@[simp] theorem length_encode (bytes : List UInt8) :
    (encode bytes).length = 2 * bytes.length := by
  induction bytes with
  | nil => rfl
  | cons byte rest ih =>
      simp only [encode, List.flatMap_cons, List.length_append, List.length_cons] at ih ⊢
      rw [ih]
      simp only [List.length_nil]
      omega

theorem decodePairs_encode (position : Nat) (bytes : List UInt8) :
    decodePairs position ((encode bytes).map fun c => UInt8.ofNat c.toNat) = .ok bytes := by
  induction bytes generalizing position with
  | nil => rfl
  | cons byte rest ih =>
      have small : byte.toNat < 256 := byte.toNat_lt
      have high := digitValue?_digit (show byte.toNat / 16 < 16 by omega)
      have low := digitValue?_digit (show byte.toNat % 16 < 16 by omega)
      have whole : byte.toNat / 16 * 16 + byte.toNat % 16 = byte.toNat := by omega
      have split : encode (byte :: rest) =
          digit (byte.toNat / 16) :: digit (byte.toNat % 16) :: encode rest := rfl
      rw [split, List.map_cons, List.map_cons, decodePairs, high, low]
      simp only [ih, whole, Except.map, UInt8.ofNat_toNat]

theorem decode_encode (bytes : List UInt8) :
    decode (String.ofList (encode bytes)) = .ok bytes := by
  have even : ¬ (2 * bytes.length) % 2 = 1 := by omega
  simp only [decode, utf8Bytes_encode, List.length_map, length_encode, even, if_false,
    decodePairs_encode]

/-- A digit in either case has a value, and the digit of that value is its lower-case form. -/
theorem digit_of_digitValue? {byte : UInt8} {value : Nat} (read : digitValue? byte = some value) :
    value < 16 ∧ byte.toNat < 0x80 ∧ digit value = (Char.ofNat byte.toNat).toLower := by
  have all : ∀ code < 256, ∀ value ∈ digitValue? (UInt8.ofNat code),
      value < 16 ∧ code < 0x80 ∧ digit value = (Char.ofNat code).toLower := by
    decide +kernel
  have small : byte.toNat < 256 := byte.toNat_lt
  exact all byte.toNat small value (by rw [UInt8.ofNat_toNat]; exact read)

theorem encode_of_decodePairs {position : Nat} {sent bytes : List UInt8}
    (read : decodePairs position sent = .ok bytes) :
    (∀ byte ∈ sent, byte.toNat < 0x80) ∧
      encode bytes = sent.map fun byte => (Char.ofNat byte.toNat).toLower := by
  fun_induction decodePairs position sent generalizing bytes with
  | case1 => cases read; simp [encode]
  | case2 => cases read
  | case3 => cases read
  | case4 => cases read
  | case5 position high low rest h l lowRead highRead ih =>
      cases later : decodePairs (position + 2) rest with
      | error fault => simp [later, Except.map] at read
      | ok tail =>
          simp only [later, Except.map, Except.ok.injEq] at read
          subst read
          obtain ⟨ascii, written⟩ := ih later
          obtain ⟨hSmall, highAscii, hDigit⟩ := digit_of_digitValue? highRead
          obtain ⟨lSmall, lowAscii, lDigit⟩ := digit_of_digitValue? lowRead
          refine ⟨List.forall_mem_cons.mpr ⟨highAscii, List.forall_mem_cons.mpr
            ⟨lowAscii, ascii⟩⟩, ?_⟩
          have whole : (UInt8.ofNat (h * 16 + l)).toNat = h * 16 + l := by
            rw [UInt8.toNat_ofNat', Nat.mod_eq_of_lt (by omega)]
          have split : encode (UInt8.ofNat (h * 16 + l) :: tail) =
              digit h :: digit l :: encode tail := by
            simp only [encode, List.flatMap_cons, whole, List.cons_append, List.nil_append]
            rw [show (h * 16 + l) / 16 = h by omega, show (h * 16 + l) % 16 = l by omega]
          rw [split, written, hDigit, lDigit]
          rfl

/-- The bytes of a text, written again, are the text in lower case. -/
theorem encode_of_decode {text : String} {bytes : List UInt8} (read : decode text = .ok bytes) :
    encode bytes = text.toList.map Char.toLower := by
  rw [decode] at read
  split at read
  · cases read
  · obtain ⟨ascii, written⟩ := encode_of_decodePairs read
    have plain := Text.ascii_of_encodeUtf8 ascii
    rw [written, Text.utf8Bytes, Text.encodeUtf8_ascii plain, List.map_map]
    apply List.map_congr_left
    intro c member
    have small := plain c member
    simp only [Function.comp_apply, UInt8.toNat_ofNat']
    rw [Nat.mod_eq_of_lt (by omega), Char.ofNat_toNat]

end MeterUplink.Hex
