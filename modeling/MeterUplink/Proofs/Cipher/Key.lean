import MeterUplink.Cipher.Key
import MeterUplink.Proofs.Numeral.HexDigits

namespace MeterUplink.Cipher

/-! Which texts are read as blocks of key material, which block each of them is, and what is said
about the others. -/

/-- Thirty-two digits in either case, with blanks around them or none. -/
def IsBlockText (text : String) : Prop :=
  (Text.trimmed text).length = 32 ∧ ∀ c ∈ (Text.trimmed text).toList, Hex.isDigit c = true

instance (text : String) : Decidable (IsBlockText text) :=
  decidable_of_iff ((Text.trimmed text).length = 32 ∧
    (Text.trimmed text).toList.all Hex.isDigit = true) (and_congr_right' List.all_eq_true)

/-- The texts differ in the case of letters and in the blanks around them, in nothing else. -/
def SameDigits (text other : String) : Prop :=
  (Text.trimmed text).toList.map Char.toLower = (Text.trimmed other).toList.map Char.toLower

instance (text other : String) : Decidable (SameDigits text other) :=
  inferInstanceAs (Decidable (_ = _))

/-- What is wrong with a text: its digits, or only the number of them. -/
inductive BlockFault (text : String) : KeyFault → Prop where
  | digits {fault : Hex.Fault} (unread : Hex.decode (Text.trimmed text) = .error fault) :
      BlockFault text (.digits fault)
  | size {bytes : List UInt8} (read : Hex.decode (Text.trimmed text) = .ok bytes)
      (other : bytes.length ≠ 16) : BlockFault text (.size bytes.length)

theorem BlockFault.unique {text : String} {fault other : KeyFault} (first : BlockFault text fault)
    (second : BlockFault text other) : fault = other := by
  cases first <;> cases second <;> simp_all

theorem Block.ofBytes?_eq_some_iff {bytes : List UInt8} {block : Block} :
    Block.ofBytes? bytes = some block ↔ bytes = block.toList := by
  rw [Block.ofBytes?]
  constructor
  · intro made
    split at made
    · cases made
      rfl
    · cases made
  · rintro rfl
    rw [dif_pos block.length_toList]
    rfl

theorem Block.ofBytes?_eq_none_iff {bytes : List UInt8} :
    Block.ofBytes? bytes = none ↔ bytes.length ≠ 16 := by
  rw [Block.ofBytes?]
  split <;> simp [*]

variable {part : KeyPart} {text other : String} {block : Block} {error : KeyError}

/-- The texts of a block are those that its bytes are written as. -/
theorem readBlock_eq_ok_iff : readBlock part text = .ok block ↔
    Hex.encode block.toList = (Text.trimmed text).toList.map Char.toLower := by
  rw [← Hex.decode_eq_ok_iff]
  constructor
  · intro read
    rw [readBlock] at read
    split at read
    · cases read
    · rename_i bytes decoded
      split at read
      · rename_i found made
        cases read
        rw [decoded, Block.ofBytes?_eq_some_iff.mp made]
      · cases read
  · intro decoded
    rw [readBlock, decoded]
    simp only [Block.ofBytes?_eq_some_iff.mpr rfl]

theorem readBlock_eq_error_iff : readBlock part text = .error error ↔
    ∃ fault, BlockFault text fault ∧ error = ⟨part, fault⟩ := by
  rw [readBlock]
  constructor
  · intro failed
    split at failed
    · rename_i unread
      cases failed
      exact ⟨_, .digits unread, rfl⟩
    · rename_i bytes read
      split at failed
      · cases failed
      · rename_i none
        cases failed
        exact ⟨_, .size read (Block.ofBytes?_eq_none_iff.mp none), rfl⟩
  · rintro ⟨fault, wrong, rfl⟩
    cases wrong with
    | digits unread => rw [unread]
    | size read other => rw [read]; simp only [Block.ofBytes?_eq_none_iff.mpr other]

theorem exists_readBlock_iff : (∃ block, readBlock part text = .ok block) ↔ IsBlockText text := by
  constructor
  · rintro ⟨block, read⟩
    have written := readBlock_eq_ok_iff.mp read
    have length := congrArg List.length written
    rw [Hex.length_encode, block.length_toList, List.length_map, String.length_toList] at length
    exact ⟨length.symm, (Hex.exists_decode_iff.mp ⟨_, Hex.decode_eq_ok_iff.mpr written⟩).2⟩
  · rintro ⟨length, digits⟩
    obtain ⟨bytes, decoded⟩ := Hex.exists_decode_iff.mpr ⟨by rw [length], digits⟩
    have written := Hex.decode_eq_ok_iff.mp decoded
    have count := congrArg List.length written
    rw [Hex.length_encode, List.length_map, String.length_toList, length] at count
    have sixteen : bytes.length = 16 := by omega
    refine ⟨⟨bytes.toArray, by simpa using sixteen⟩, readBlock_eq_ok_iff.mpr ?_⟩
    exact written

theorem exists_readBlock_eq_error (refused : ¬ IsBlockText text) (part : KeyPart) :
    ∃ fault, BlockFault text fault ∧ readBlock part text = .error ⟨part, fault⟩ := by
  cases outcome : readBlock part text with
  | ok block => exact absurd (exists_readBlock_iff.mp ⟨block, outcome⟩) refused
  | error error =>
      obtain ⟨fault, wrong, rfl⟩ := readBlock_eq_error_iff.mp outcome
      exact ⟨fault, wrong, rfl⟩

theorem SameDigits.readBlock (same : SameDigits text other)
    (read : readBlock part text = .ok block) : Cipher.readBlock part other = .ok block :=
  readBlock_eq_ok_iff.mpr ((readBlock_eq_ok_iff.mp read).trans same)

theorem ofHex_eq_ok_iff {key iv : String} {cipherKey : CipherKey} :
    CipherKey.ofHex key iv = .ok cipherKey ↔
      readBlock .key key = .ok cipherKey.key ∧ readBlock .iv iv = .ok cipherKey.iv := by
  constructor
  · intro read
    obtain ⟨keyBlock, keyRead, read⟩ := bind_eq_ok_iff.mp read
    obtain ⟨ivBlock, ivRead, read⟩ := bind_eq_ok_iff.mp read
    cases read
    exact ⟨keyRead, ivRead⟩
  · rintro ⟨keyRead, ivRead⟩
    exact bind_eq_ok_iff.mpr ⟨_, keyRead, bind_eq_ok_iff.mpr ⟨_, ivRead, rfl⟩⟩

theorem ofHex_of_key {key : String} (unread : readBlock .key key = .error error) (iv : String) :
    CipherKey.ofHex key iv = .error error := by
  rw [CipherKey.ofHex, unread]
  rfl

/-- The initialization vector counts only beside a key that is one. -/
theorem ofHex_of_iv {key iv : String} (read : IsBlockText key)
    (unread : readBlock .iv iv = .error error) : CipherKey.ofHex key iv = .error error := by
  obtain ⟨block, keyRead⟩ : ∃ block, readBlock .key key = .ok block := exists_readBlock_iff.mpr read
  rw [CipherKey.ofHex, keyRead, unread]
  rfl

end MeterUplink.Cipher
