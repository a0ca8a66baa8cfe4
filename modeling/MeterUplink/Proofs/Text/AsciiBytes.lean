import Mathlib.Algebra.Order.Ring.Nat
import Mathlib.Tactic.SplitIfs
import MeterUplink.Proofs.Text.Shown
import MeterUplink.Proofs.Text.Utf8

namespace MeterUplink.Text

/-! ASCII within bytes of any kind. A byte below 0x80 is read as its own character whatever stands
around it, and no other byte gives such a character; so a word in ASCII stands in the text that is
read exactly where its bytes stand, even if the bytes around it are no UTF-8. -/

/-- The text that is read from here on, with U+FFFD for each broken piece. -/
def textFrom (state : Option Unfinished) (bytes : List UInt8) : List Char :=
  (utf8PiecesFrom state bytes).map fun piece => piece.getD '\uFFFD'

theorem decodeUtf8_eq_textFrom (bytes : List UInt8) : decodeUtf8 bytes = textFrom none bytes := rfl

def readAfresh (byte : UInt8) : List Char × Option Unfinished :=
  match opening byte with
  | .whole c => ([c], none)
  | .begins first => ([], some first)
  | .broken => (['\uFFFD'], none)

/-- The characters that one byte completes, and what is held behind it. -/
def readByte : Option Unfinished → UInt8 → List Char × Option Unfinished
  | none, byte => readAfresh byte
  | some unfinished, byte =>
    if unfinished.low ≤ byte ∧ byte ≤ unfinished.high then
      let bits := unfinished.bits * 64 + (byte.toNat - 0x80)
      if unfinished.missing ≤ 1 then ([Char.ofNat bits], none)
      else ([], some ⟨bits, unfinished.missing - 1, 0x80, 0xBF⟩)
    else ('\uFFFD' :: (readAfresh byte).1, (readAfresh byte).2)

theorem textFrom_cons (state : Option Unfinished) (byte : UInt8) (rest : List UInt8) :
    textFrom state (byte :: rest) =
      (readByte state byte).1 ++ textFrom (readByte state byte).2 rest := by
  have afresh : textFrom none (byte :: rest) =
      (readAfresh byte).1 ++ textFrom (readAfresh byte).2 rest := by
    simp only [textFrom, utf8PiecesFrom, readAfresh]
    cases opening byte <;> rfl
  cases state with
  | none => exact afresh
  | some unfinished =>
      simp only [readByte]
      split
      case isTrue within =>
        split
        case isTrue last => simp [textFrom, utf8PiecesFrom, within, last]
        case isFalse more => simp [textFrom, utf8PiecesFrom, within, more]
      case isFalse outside =>
        rw [List.cons_append, ← afresh]
        simp [textFrom, utf8PiecesFrom, outside]

/-- The least code point that the bytes to come can complete. -/
def Unfinished.least (unfinished : Unfinished) : Nat :=
  (unfinished.bits * 64 + (unfinished.low.toNat - 0x80)) * 64 ^ (unfinished.missing - 1)

/-- All code points that the bytes to come can complete lie below it. -/
def Unfinished.bound (unfinished : Unfinished) : Nat :=
  (unfinished.bits * 64 + (unfinished.high.toNat - 0x80) + 1) * 64 ^ (unfinished.missing - 1)

/-- No ASCII byte is waited for, and what will be completed is a character beyond ASCII. -/
structure Unfinished.Sound (unfinished : Unfinished) : Prop where
  low : 0x80 ≤ unfinished.low.toNat
  codes : ∀ code, unfinished.least ≤ code → code < unfinished.bound →
    0x80 ≤ code ∧ code.isValidChar

theorem opening_of_ascii {byte : UInt8} (ascii : byte.toNat < 0x80) :
    opening byte = .whole (Char.ofNat byte.toNat) := by
  have same := opening_ascii ascii
  rwa [UInt8.ofNat_toNat] at same

/-- What a byte beyond ASCII may open. -/
def Opening.Sound : Opening → Prop
  | .whole _ => False
  | .begins first => first.Sound
  | .broken => True

theorem opening_of_beyond {byte : UInt8} (beyond : 0x80 ≤ byte.toNat) : (opening byte).Sound := by
  have notAscii : ¬ byte < 0x80 := Nat.not_lt.mpr beyond
  rw [opening, if_neg notAscii]
  simp only [UInt8.lt_iff_toNat_lt, ← UInt8.toNat_inj, UInt8.reduceToNat]
  -- One case for each range of first bytes; the narrowed second bytes keep the codes valid.
  split_ifs
  all_goals first
    | exact trivial
    | refine ⟨by simp, fun code atLeast below => ?_⟩
  all_goals
    simp only [Unfinished.least, Unfinished.bound, UInt8.reduceToNat] at atLeast below
    simp only [Nat.isValidChar]
    omega

theorem Unfinished.Sound.next {unfinished : Unfinished} {byte : UInt8} (sound : unfinished.Sound)
    (within : unfinished.low ≤ byte ∧ byte ≤ unfinished.high) (more : 1 < unfinished.missing) :
    Unfinished.Sound
      ⟨unfinished.bits * 64 + (byte.toNat - 0x80), unfinished.missing - 1, 0x80, 0xBF⟩ where
  low := by simp
  codes := by
    intro code atLeast below
    simp only [UInt8.le_iff_toNat_le] at within
    have scale : 64 ^ (unfinished.missing - 1) = 64 * 64 ^ (unfinished.missing - 1 - 1) := by
      rw [← Nat.pow_succ', Nat.succ_eq_add_one, Nat.sub_add_cancel (by omega)]
    apply sound.codes code
    · refine Nat.le_trans ?_ atLeast
      simp only [Unfinished.least, scale, ← Nat.mul_assoc]
      exact Nat.mul_le_mul_right _ (by simp; omega)
    · refine Nat.lt_of_lt_of_le below ?_
      simp only [Unfinished.bound, scale, ← Nat.mul_assoc]
      exact Nat.mul_le_mul_right _ (by simp; omega)

theorem Unfinished.Sound.completed {unfinished : Unfinished} {byte : UInt8}
    (sound : unfinished.Sound) (within : unfinished.low ≤ byte ∧ byte ≤ unfinished.high)
    (last : unfinished.missing ≤ 1) :
    0x80 ≤ (Char.ofNat (unfinished.bits * 64 + (byte.toNat - 0x80))).toNat := by
  simp only [UInt8.le_iff_toNat_le] at within
  have single : 64 ^ (unfinished.missing - 1) = 1 := by
    rw [Nat.sub_eq_zero_of_le last, Nat.pow_zero]
  have code := sound.codes (unfinished.bits * 64 + (byte.toNat - 0x80))
    (by rw [Unfinished.least, single]; omega) (by rw [Unfinished.bound, single]; omega)
  rw [Char.ofNat, dif_pos code.2]
  exact code.1

/-- A reader that holds nothing, or a beginning of a character beyond ASCII. -/
def SoundState (state : Option Unfinished) : Prop := ∀ unfinished ∈ state, unfinished.Sound

theorem soundState_none : SoundState none := nofun

theorem readAfresh_of_ascii {byte : UInt8} (ascii : byte.toNat < 0x80) :
    readAfresh byte = ([Char.ofNat byte.toNat], none) := by
  rw [readAfresh, opening_of_ascii ascii]

theorem readAfresh_of_beyond {byte : UInt8} (beyond : 0x80 ≤ byte.toNat) :
    (∀ c ∈ (readAfresh byte).1, 0x80 ≤ c.toNat) ∧ SoundState (readAfresh byte).2 := by
  have sound := opening_of_beyond beyond
  rw [readAfresh]
  cases opened : opening byte with
  | whole c =>
      rw [opened] at sound
      exact sound.elim
  | begins first =>
      rw [opened] at sound
      exact ⟨nofun, fun unfinished held => Option.mem_some.mp held ▸ sound⟩
  | broken => exact ⟨by simp, soundState_none⟩

theorem byte_of_ascii {byte : UInt8} (ascii : byte.toNat < 0x80) :
    UInt8.ofNat (Char.ofNat byte.toNat).toNat = byte := by
  have valid : byte.toNat.isValidChar := .inl (by omega)
  rw [Char.ofNat, dif_pos valid]
  exact UInt8.ofNat_toNat

variable {state : Option Unfinished} {byte : UInt8}

theorem readByte_of_ascii (sound : SoundState state) (ascii : byte.toNat < 0x80) :
    readByte state byte = (textFrom state [] ++ [Char.ofNat byte.toNat], none) := by
  cases state with
  | none => exact readAfresh_of_ascii ascii
  | some unfinished =>
      have outside : ¬ (unfinished.low ≤ byte ∧ byte ≤ unfinished.high) := by
        have low := (sound unfinished rfl).low
        rw [UInt8.le_iff_toNat_le]
        omega
      rw [readByte, if_neg outside, readAfresh_of_ascii ascii]
      rfl

theorem readByte_of_beyond (sound : SoundState state) (beyond : 0x80 ≤ byte.toNat) :
    (∀ c ∈ (readByte state byte).1, 0x80 ≤ c.toNat) ∧ SoundState (readByte state byte).2 := by
  obtain ⟨afresh, afreshSound⟩ := readAfresh_of_beyond beyond
  cases state with
  | none => exact ⟨afresh, afreshSound⟩
  | some unfinished =>
      have held := sound unfinished rfl
      rw [readByte]
      split
      case isTrue within =>
        split
        case isTrue last =>
          exact ⟨List.forall_mem_singleton.mpr (held.completed within last), soundState_none⟩
        case isFalse more =>
          refine ⟨nofun, fun next isNext => ?_⟩
          rw [← Option.mem_some.mp isNext]
          exact held.next within (by omega)
      case isFalse outside =>
        exact ⟨List.forall_mem_cons.mpr ⟨by decide, afresh⟩, afreshSound⟩

theorem soundState_readByte (sound : SoundState state) : SoundState (readByte state byte).2 := by
  rcases Nat.lt_or_ge byte.toNat 0x80 with ascii | beyond
  · rw [readByte_of_ascii sound ascii]
    exact soundState_none
  · exact (readByte_of_beyond sound beyond).2

theorem textFrom_append_ascii (sound : SoundState state) (ascii : byte.toNat < 0x80)
    (front back : List UInt8) :
    textFrom state (front ++ byte :: back) =
      textFrom state front ++ Char.ofNat byte.toNat :: decodeUtf8 back := by
  induction front generalizing state with
  | nil =>
      rw [List.nil_append, textFrom_cons, readByte_of_ascii sound ascii, List.append_assoc,
        List.singleton_append]
      rfl
  | cons first front ih =>
      rw [List.cons_append, textFrom_cons, textFrom_cons, ih (soundState_readByte sound),
        List.append_assoc]

theorem beyond_of_mem_textFrom_nil (state : Option Unfinished) {c : Char}
    (member : c ∈ textFrom state []) : 0x80 ≤ c.toNat := by
  cases state with
  | none => cases member
  | some unfinished =>
      rw [List.mem_singleton.mp member]
      decide

/-- An ASCII character is the last one that a byte completes, and ends what was held. -/
theorem readByte_eq_append_cons {c : Char} {before between : List Char} (sound : SoundState state)
    (ascii : c.toNat < 0x80) (completes : (readByte state byte).1 = before ++ c :: between) :
    byte = UInt8.ofNat c.toNat ∧ before = textFrom state [] ∧ between = [] ∧
      (readByte state byte).2 = none := by
  have member : c ∈ (readByte state byte).1 := by simp [completes]
  have asciiByte : byte.toNat < 0x80 := by
    refine Nat.lt_of_not_le fun beyond => ?_
    exact Nat.not_lt.mpr ((readByte_of_beyond sound beyond).1 c member) ascii
  rw [readByte_of_ascii sound asciiByte] at completes ⊢
  rcases List.eq_nil_or_concat between with rfl | ⟨middle, last, rfl⟩
  · obtain ⟨rfl, same⟩ := List.append_inj' completes rfl
    rw [← List.singleton_inj.mp same, byte_of_ascii asciiByte]
    exact ⟨rfl, rfl, rfl, rfl⟩
  · rw [List.concat_eq_append, ← List.cons_append, ← List.append_assoc] at completes
    have early : textFrom state [] = before ++ c :: middle := (List.append_inj' completes rfl).1
    have beyond : 0x80 ≤ c.toNat := beyond_of_mem_textFrom_nil state (by simp [early])
    omega

/-- Where an ASCII character is read, its byte stands, and the bytes on either side of it are
read on their own. -/
theorem exists_of_textFrom_eq {c : Char} {bytes : List UInt8} {before after : List Char}
    (sound : SoundState state) (ascii : c.toNat < 0x80)
    (read : textFrom state bytes = before ++ c :: after) :
    ∃ front back, bytes = front ++ UInt8.ofNat c.toNat :: back ∧ textFrom state front = before ∧
      decodeUtf8 back = after := by
  induction bytes generalizing state before with
  | nil =>
      have beyond : 0x80 ≤ c.toNat := beyond_of_mem_textFrom_nil state (by simp [read])
      omega
  | cons byte rest ih =>
      rw [textFrom_cons] at read
      rcases append_eq_append_cons read with ⟨between, rfl, later⟩ | ⟨between, completes, tail⟩
      · obtain ⟨front, back, rfl, rfl, rfl⟩ := ih (soundState_readByte sound) later
        exact ⟨byte :: front, back, rfl, textFrom_cons state byte front, rfl⟩
      · obtain ⟨rfl, rfl, rfl, ended⟩ := readByte_eq_append_cons sound ascii completes
        rw [ended] at tail
        exact ⟨[], rest, rfl, rfl, tail.symm⟩

theorem decodeUtf8_eq_append_cons_iff {c : Char} {bytes : List UInt8} {before after : List Char}
    (ascii : c.toNat < 0x80) :
    decodeUtf8 bytes = before ++ c :: after ↔
      ∃ front back, bytes = front ++ UInt8.ofNat c.toNat :: back ∧ decodeUtf8 front = before ∧
        decodeUtf8 back = after := by
  constructor
  · exact exists_of_textFrom_eq soundState_none ascii
  · rintro ⟨front, back, rfl, rfl, rfl⟩
    have same : (UInt8.ofNat c.toNat).toNat = c.toNat := by
      rw [UInt8.toNat_ofNat', Nat.mod_eq_of_lt (by omega)]
    rw [decodeUtf8_eq_textFrom, textFrom_append_ascii soundState_none (by omega), same,
      Char.ofNat_toNat]
    rfl

theorem textFrom_some_ne_nil (unfinished : Unfinished) (bytes : List UInt8) :
    textFrom (some unfinished) bytes ≠ [] := by
  induction bytes generalizing unfinished with
  | nil => exact List.cons_ne_nil _ _
  | cons byte rest ih =>
      rw [textFrom_cons, readByte]
      split
      · split
        · exact List.cons_ne_nil _ _
        · exact ih _
      · exact List.cons_ne_nil _ _

theorem decodeUtf8_eq_nil_iff {bytes : List UInt8} : decodeUtf8 bytes = [] ↔ bytes = [] := by
  refine ⟨fun empty => ?_, fun none => none ▸ rfl⟩
  cases bytes with
  | nil => rfl
  | cons byte rest =>
      rw [decodeUtf8_eq_textFrom, textFrom_cons, readByte, readAfresh] at empty
      split at empty
      · cases empty
      · exact absurd empty (textFrom_some_ne_nil _ rest)
      · cases empty

/-- What is read of bytes shows the ASCII characters among them. -/
theorem shows_decodeUtf8 :
    Shows decodeUtf8 (fun byte c => byte = UInt8.ofNat c.toNat) fun c => c.toNat < 0x80 where
  eq_nil_iff := decodeUtf8_eq_nil_iff
  eq_append_cons_iff := by
    intro bytes before c after ascii
    rw [decodeUtf8_eq_append_cons_iff ascii]
    simp

/-- A word in ASCII stands in a text that is read exactly where its bytes stand. -/
theorem infix_decodeUtf8_iff {word : List Char} {bytes : List UInt8}
    (ascii : ∀ c ∈ word, c.toNat < 0x80) :
    word <:+: decodeUtf8 bytes ↔ encodeUtf8 word <:+: bytes := by
  have given (piece : List UInt8) :
      List.Forall₂ (fun byte (c : Char) => byte = UInt8.ofNat c.toNat) piece word ↔
        piece = encodeUtf8 word := by
    rw [encodeUtf8_ascii ascii, ← List.forall₂_map_right_iff, List.forall₂_eq_eq_eq]
  simp only [shows_decodeUtf8.infix_iff ascii, given, exists_eq_left]

end MeterUplink.Text
