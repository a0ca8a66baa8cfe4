import MeterUplink.Text.Utf8

namespace MeterUplink.Text

/-! What the encoder of UTF-8 writes the reader reads back, character by character, and no piece
of it is broken. -/

theorem utf8PiecesFrom_finish {unfinished : Unfinished} {byte : UInt8} {rest : List UInt8}
    (last : unfinished.missing = 1)
    (within : unfinished.low ≤ byte ∧ byte ≤ unfinished.high) :
    utf8PiecesFrom (some unfinished) (byte :: rest) =
      some (Char.ofNat (unfinished.bits * 64 + (byte.toNat - 0x80))) ::
        utf8PiecesFrom none rest := by
  simp only [utf8PiecesFrom, within, and_self, if_true, last, Nat.le_refl]

theorem utf8PiecesFrom_continue {unfinished : Unfinished} {byte : UInt8} {rest : List UInt8}
    (more : 1 < unfinished.missing)
    (within : unfinished.low ≤ byte ∧ byte ≤ unfinished.high) :
    utf8PiecesFrom (some unfinished) (byte :: rest) =
      utf8PiecesFrom
        (some ⟨unfinished.bits * 64 + (byte.toNat - 0x80), unfinished.missing - 1, 0x80, 0xBF⟩)
        rest := by
  have notLast : ¬ unfinished.missing ≤ 1 := by omega
  simp only [utf8PiecesFrom, within, and_self, if_true, notLast, if_false]

theorem utf8PiecesFrom_whole {byte : UInt8} {rest : List UInt8} {c : Char}
    (opens : opening byte = .whole c) :
    utf8PiecesFrom none (byte :: rest) = some c :: utf8PiecesFrom none rest := by
  simp only [utf8PiecesFrom, opens]

theorem utf8PiecesFrom_begin {byte : UInt8} {rest : List UInt8} {first : Unfinished}
    (opens : opening byte = .begins first) :
    utf8PiecesFrom none (byte :: rest) = utf8PiecesFrom (some first) rest := by
  simp only [utf8PiecesFrom, opens]

theorem opening_ascii {code : Nat} (ascii : code < 0x80) :
    opening (UInt8.ofNat code) = .whole (Char.ofNat code) := by
  have small : UInt8.ofNat code < 0x80 := by
    rw [UInt8.lt_iff_toNat_lt, UInt8.toNat_ofNat', Nat.mod_eq_of_lt (by omega)]
    exact ascii
  rw [opening, if_pos small, UInt8.toNat_ofNat', Nat.mod_eq_of_lt (by omega)]

theorem tail_within (bits : Nat) :
    0x80 ≤ UInt8.ofNat (bits % 64 + 0x80) ∧ UInt8.ofNat (bits % 64 + 0x80) ≤ 0xBF := by
  constructor <;> rw [UInt8.le_iff_toNat_le] <;> simp only [UInt8.toNat_ofNat'] <;>
    simp only [UInt8.reduceToNat] <;> omega

theorem tail_bits (bits : Nat) :
    (UInt8.ofNat (bits % 64 + 0x80)).toNat - 0x80 = bits % 64 := by
  rw [UInt8.toNat_ofNat', Nat.mod_eq_of_lt (by omega)]
  omega

theorem opening_two {lead : Nat} (small : lead < 32) (long : 2 ≤ lead) :
    opening (UInt8.ofNat (lead + 0xC0)) = .begins ⟨lead, 1, 0x80, 0xBF⟩ := by
  revert lead
  decide

theorem opening_three {lead : Nat} (small : lead < 16) :
    opening (UInt8.ofNat (lead + 0xE0)) =
      .begins ⟨lead, 2, if lead = 0 then 0xA0 else 0x80, if lead = 0xD then 0x9F else 0xBF⟩ := by
  revert lead
  decide

theorem opening_four {lead : Nat} (small : lead < 5) :
    opening (UInt8.ofNat (lead + 0xF0)) =
      .begins ⟨lead, 3, if lead = 0 then 0x90 else 0x80, if lead = 4 then 0x8F else 0xBF⟩ := by
  revert lead
  decide

theorem ofNat_le_ofNat (low high : Nat) (ordered : low ≤ high) (bounded : high < 256) :
    UInt8.ofNat low ≤ UInt8.ofNat high := by
  rw [UInt8.le_iff_toNat_le, UInt8.toNat_ofNat', UInt8.toNat_ofNat']
  omega

/-- The narrowed range of the second of three bytes: no form is overlong and no surrogate is
written. -/
theorem second_of_three_within {code : Nat} (valid : code < 0xD800 ∨ 0xDFFF < code)
    (long : 0x7FF < code) (small : code ≤ 0xFFFF) :
    (if code / 4096 = 0 then 0xA0 else 0x80) ≤ UInt8.ofNat (code / 64 % 64 + 0x80) ∧
      UInt8.ofNat (code / 64 % 64 + 0x80) ≤ if code / 4096 = 0xD then 0x9F else 0xBF := by
  constructor
  · split
    · exact ofNat_le_ofNat 0xA0 _ (by omega) (by omega)
    · exact (tail_within _).1
  · split
    · exact ofNat_le_ofNat _ 0x9F (by omega) (by omega)
    · exact (tail_within _).2

/-- The narrowed range of the second of four bytes: no form is overlong and nothing beyond the
last code point is written. -/
theorem second_of_four_within {code : Nat} (long : 0xFFFF < code) (small : code < 0x110000) :
    (if code / 262144 = 0 then 0x90 else 0x80) ≤ UInt8.ofNat (code / 4096 % 64 + 0x80) ∧
      UInt8.ofNat (code / 4096 % 64 + 0x80) ≤ if code / 262144 = 4 then 0x8F else 0xBF := by
  constructor
  · split
    · exact ofNat_le_ofNat 0x90 _ (by omega) (by omega)
    · exact (tail_within _).1
  · split
    · exact ofNat_le_ofNat _ 0x8F (by omega) (by omega)
    · exact (tail_within _).2

theorem utf8PiecesFrom_utf8EncodeChar (c : Char) (rest : List UInt8) :
    utf8PiecesFrom none (String.utf8EncodeChar c ++ rest) =
      some c :: utf8PiecesFrom none rest := by
  have valid : c.toNat < 0xD800 ∨ (0xDFFF < c.toNat ∧ c.toNat < 0x110000) := c.valid
  have same : Char.ofNat c.toNat = c := Char.ofNat_toNat c
  have value : c.val.toNat = c.toNat := rfl
  rw [String.utf8EncodeChar, value]
  generalize c.toNat = code at valid same
  split
  case isTrue ascii =>
    rw [List.singleton_append, utf8PiecesFrom_whole (opening_ascii (by omega)), same]
  split
  case isTrue two =>
    have lead : code / 64 % 32 = code / 64 := by omega
    rw [lead, List.cons_append, List.singleton_append,
      utf8PiecesFrom_begin (opening_two (by omega) (by omega)),
      utf8PiecesFrom_finish rfl (tail_within code), tail_bits]
    rw [show code / 64 * 64 + code % 64 = code by omega, same]
  split
  case isTrue three =>
    have lead : code / 4096 % 16 = code / 4096 := by omega
    rw [lead, List.cons_append, List.cons_append, List.singleton_append,
      utf8PiecesFrom_begin (opening_three (by omega)),
      utf8PiecesFrom_continue (by simp)
        (second_of_three_within (by omega) (by omega) (by omega)),
      utf8PiecesFrom_finish rfl (tail_within code), tail_bits, tail_bits]
    rw [show (code / 4096 * 64 + code / 64 % 64) * 64 + code % 64 = code by omega, same]
  case isFalse four =>
    have lead : code / 262144 % 8 = code / 262144 := by omega
    rw [lead, List.cons_append, List.cons_append, List.cons_append, List.singleton_append,
      utf8PiecesFrom_begin (opening_four (by omega)),
      utf8PiecesFrom_continue (by simp) (second_of_four_within (by omega) (by omega)),
      utf8PiecesFrom_continue (by simp) (tail_within (code / 64)),
      utf8PiecesFrom_finish rfl (tail_within code), tail_bits, tail_bits, tail_bits]
    rw [show ((code / 262144 * 64 + code / 4096 % 64) * 64 + code / 64 % 64) * 64 + code % 64 =
      code by omega, same]

theorem utf8Pieces_encodeUtf8 (text : List Char) :
    utf8Pieces (encodeUtf8 text) = text.map some := by
  induction text with
  | nil => rfl
  | cons c rest ih =>
      rw [utf8Pieces, encodeUtf8, List.flatMap_cons, utf8PiecesFrom_utf8EncodeChar,
        List.map_cons]
      exact congrArg _ ih

theorem decodeUtf8?_encodeUtf8 (text : List Char) : decodeUtf8? (encodeUtf8 text) = some text := by
  rw [decodeUtf8?, utf8Pieces_encodeUtf8]
  induction text with
  | nil => rfl
  | cons c rest ih => simp [List.mapM_cons, ih]

theorem decodeUtf8_encodeUtf8 (text : List Char) : decodeUtf8 (encodeUtf8 text) = text := by
  rw [decodeUtf8, utf8Pieces_encodeUtf8, List.map_map]
  exact List.map_id text

theorem utf8EncodeChar_ascii {c : Char} (ascii : c.toNat < 0x80) :
    String.utf8EncodeChar c = [UInt8.ofNat c.toNat] := by
  have small : c.val.toNat ≤ 0x7F := Nat.le_of_lt_succ ascii
  rw [String.utf8EncodeChar, if_pos small]
  rfl

theorem encodeUtf8_ascii {text : List Char} (ascii : ∀ c ∈ text, c.toNat < 0x80) :
    encodeUtf8 text = text.map fun c => UInt8.ofNat c.toNat := by
  induction text with
  | nil => rfl
  | cons c rest ih =>
      have tail := ih fun other member => ascii other (List.mem_cons_of_mem c member)
      rw [encodeUtf8] at tail ⊢
      rw [List.flatMap_cons, utf8EncodeChar_ascii (ascii c List.mem_cons_self), tail]
      rfl

theorem ascii_of_utf8EncodeChar {c : Char}
    (ascii : ∀ byte ∈ String.utf8EncodeChar c, byte.toNat < 0x80) : c.toNat < 0x80 := by
  refine Nat.lt_of_not_le fun beyond => ?_
  have notOne : ¬ c.val.toNat ≤ 0x7F := Nat.not_le_of_lt beyond
  rw [String.utf8EncodeChar, if_neg notOne] at ascii
  split at ascii
  case isTrue two =>
    have first := ascii _ List.mem_cons_self
    rw [UInt8.toNat_ofNat'] at first
    omega
  split at ascii
  case isTrue three =>
    have first := ascii _ List.mem_cons_self
    rw [UInt8.toNat_ofNat'] at first
    omega
  case isFalse four =>
    have first := ascii _ List.mem_cons_self
    rw [UInt8.toNat_ofNat'] at first
    omega

theorem ascii_of_encodeUtf8 {text : List Char}
    (ascii : ∀ byte ∈ encodeUtf8 text, byte.toNat < 0x80) : ∀ c ∈ text, c.toNat < 0x80 := by
  intro c member
  apply ascii_of_utf8EncodeChar
  intro byte inside
  exact ascii byte (List.mem_flatMap.mpr ⟨c, member, inside⟩)

theorem utf8Bytes_append (first second : String) :
    utf8Bytes (first ++ second) = utf8Bytes first ++ utf8Bytes second := by
  simp only [utf8Bytes, encodeUtf8, String.toList_append, List.flatMap_append]

end MeterUplink.Text
