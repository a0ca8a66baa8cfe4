import MeterUplink.Proofs.Journal
import MeterUplink.Proofs.Numeral.HexBytes
import MeterUplink.Proofs.Text.Ascii

namespace MeterUplink.Hex

/-! Which texts stand for bytes. A text is read as its UTF-8, but every byte of a longer character
is no digit, so what counts in the end is the characters and how many there are. -/

/-- The digits that are read, in either case. -/
def isDigit (c : Char) : Bool :=
  isLowerDigit c || (decide ('A' ≤ c) && decide (c ≤ 'F'))

theorem isDigit_of_isLowerDigit {c : Char} (lower : isLowerDigit c = true) : isDigit c = true := by
  rw [isDigit, lower, Bool.true_or]

theorem isDigit_iff {c : Char} : isDigit c = true ↔
    (48 ≤ c.toNat ∧ c.toNat ≤ 57) ∨ (65 ≤ c.toNat ∧ c.toNat ≤ 70) ∨
      (97 ≤ c.toNat ∧ c.toNat ≤ 102) := by
  have ranges : isDigit c = true ↔ ((48 ≤ c.toNat ∧ c.toNat ≤ 57) ∨
      (97 ≤ c.toNat ∧ c.toNat ≤ 102)) ∨ (65 ≤ c.toNat ∧ c.toNat ≤ 70) := by
    simp only [isDigit, isLowerDigit, Bool.or_eq_true, Bool.and_eq_true, decide_eq_true_eq]
    exact Iff.rfl
  rw [ranges]
  omega

theorem isSome_digitValue?_iff {byte : UInt8} : (digitValue? byte).isSome = true ↔
    (48 ≤ byte.toNat ∧ byte.toNat ≤ 57) ∨ (65 ≤ byte.toNat ∧ byte.toNat ≤ 70) ∨
      (97 ≤ byte.toNat ∧ byte.toNat ≤ 102) := by
  rw [digitValue?]
  split
  case isTrue decimal => simp [decimal]
  split
  case isTrue capital => simp [capital]
  split
  case isTrue lower => simp [lower]
  case isFalse => simp_all

theorem exists_decodePairs_iff {position : Nat} {sent : List UInt8} :
    (∃ bytes, decodePairs position sent = .ok bytes) ↔
      sent.length % 2 = 0 ∧ ∀ byte ∈ sent, (digitValue? byte).isSome = true := by
  fun_induction decodePairs position sent with
  | case1 => simp
  | case2 => simp
  | case3 position high low rest unread => simp [unread]
  | case4 position high low rest h unread highRead => simp [unread]
  | case5 position high low rest h l lowRead highRead ih =>
      have parity : (high :: low :: rest).length % 2 = rest.length % 2 := by
        rw [List.length_cons, List.length_cons]
        omega
      rw [parity, List.forall_mem_cons, List.forall_mem_cons, highRead, lowRead]
      simp only [Option.isSome_some, true_and]
      rw [← ih]
      constructor
      · rintro ⟨_, read⟩
        obtain ⟨tail, later, _⟩ := map_eq_ok_iff.mp read
        exact ⟨tail, later⟩
      · rintro ⟨tail, later⟩
        exact ⟨_, map_eq_ok_iff.mpr ⟨tail, later, rfl⟩⟩

theorem exists_decode_iff {text : String} :
    (∃ bytes, decode text = .ok bytes) ↔
      text.length % 2 = 0 ∧ ∀ c ∈ text.toList, isDigit c = true := by
  -- in ASCII, characters and bytes are the same; each side says that the text is such a one
  have ofAscii (ascii : ∀ c ∈ text.toList, c.toNat < 0x80) :
      (Text.utf8Bytes text).length = text.length ∧
        ((∀ byte ∈ Text.utf8Bytes text, (digitValue? byte).isSome = true) ↔
          ∀ c ∈ text.toList, isDigit c = true) := by
    rw [Text.utf8Bytes, Text.encodeUtf8_ascii ascii, List.length_map, String.length_toList]
    refine ⟨rfl, List.forall_mem_map.trans (forall₂_congr fun c member => ?_)⟩
    have small := ascii c member
    have same : (UInt8.ofNat c.toNat).toNat = c.toNat := by
      rw [UInt8.toNat_ofNat', Nat.mod_eq_of_lt (by omega)]
    rw [isSome_digitValue?_iff, isDigit_iff, same]
  constructor
  · rintro ⟨bytes, read⟩
    rw [decode] at read
    split at read
    · cases read
    case isFalse even =>
      obtain ⟨count, digits⟩ := ofAscii (Text.ascii_of_encodeUtf8 (encode_of_decodePairs read).1)
      obtain ⟨_, each⟩ := exists_decodePairs_iff.mp ⟨bytes, read⟩
      exact ⟨by omega, digits.mp each⟩
  · rintro ⟨even, each⟩
    have ascii (c : Char) (member : c ∈ text.toList) : c.toNat < 0x80 := by
      have ranges := isDigit_iff.mp (each c member)
      omega
    obtain ⟨count, digits⟩ := ofAscii ascii
    have stillEven : ¬ (Text.utf8Bytes text).length % 2 = 1 := by omega
    simp only [decode, stillEven, if_false]
    exact exists_decodePairs_iff.mpr ⟨by omega, digits.mpr each⟩

theorem isDigit_of_toLower {c : Char} (lower : isLowerDigit c.toLower = true) :
    isDigit c = true := by
  by_cases ascii : c.toNat < 0x80
  · exact Text.holds_of_codes (fun c => isLowerDigit c.toLower = true → isDigit c = true)
      (by decide +kernel) ascii lower
  · have beyond : ¬ (c.val ≥ 'A'.val ∧ c.val ≤ 'Z'.val) := by
      rintro ⟨_, last⟩
      have capital : c.toNat ≤ 0x5A := last
      omega
    have same : c.toLower = c := dif_neg beyond
    rw [same] at lower
    exact isDigit_of_isLowerDigit lower

theorem encode_injective : Function.Injective encode := by
  intro first second same
  have read := decode_encode first
  rw [same, decode_encode] at read
  exact (Except.ok.inj read).symm

/-- The texts of given bytes are those that the bytes are written as, in any case of letters. -/
theorem decode_eq_ok_iff {text : String} {bytes : List UInt8} :
    decode text = .ok bytes ↔ encode bytes = text.toList.map Char.toLower := by
  refine ⟨encode_of_decode, fun same => ?_⟩
  have digits : ∀ c ∈ text.toList, isDigit c = true := by
    intro c member
    have written : c.toLower ∈ encode bytes := by
      rw [same]
      exact List.mem_map_of_mem member
    exact isDigit_of_toLower (isLowerDigit_of_mem_encode written)
  have length := congrArg List.length same
  rw [length_encode, List.length_map, String.length_toList] at length
  obtain ⟨read, decoded⟩ := exists_decode_iff.mpr ⟨by omega, digits⟩
  rw [decoded, encode_injective ((encode_of_decode decoded).trans same.symm)]

end MeterUplink.Hex
