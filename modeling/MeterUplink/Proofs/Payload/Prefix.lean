import MeterUplink.Proofs.Payload.Chunks
import MeterUplink.Proofs.Payload.Encryption

namespace MeterUplink

/-! The first part of a payload. Cutting and encryption go on from the front, so the first part of
what they give depends on the first part of the payload alone. -/

namespace Cipher

/-- The register holds nothing but what was sent before, so a stream can end after any byte. -/
theorem feedbackEncrypt_take (encipher : Block → Block) (register : Block) (plain : List UInt8)
    (count : Nat) :
    feedbackEncrypt encipher register (plain.take count) =
      (feedbackEncrypt encipher register plain).take count := by
  induction plain generalizing register count with
  | nil => simp [feedbackEncrypt]
  | cons byte rest ih =>
      cases count with
      | zero => rfl
      | succ count => simp only [List.take_succ_cons, feedbackEncrypt, ih]

end Cipher

namespace Hex

theorem encode_take (bytes : List UInt8) (count : Nat) :
    encode (bytes.take count) = (encode bytes).take (2 * count) := by
  induction bytes generalizing count with
  | nil => simp [encode]
  | cons byte rest ih =>
      cases count with
      | zero => rfl
      | succ count =>
          have digits (tail : List UInt8) : encode (byte :: tail) =
              digit (byte.toNat / 16) :: digit (byte.toNat % 16) :: encode tail := rfl
          rw [List.take_succ_cons, digits, digits, ih, Nat.mul_succ, List.take_succ_cons,
            List.take_succ_cons]

theorem decodePairs_take {position : Nat} {sent bytes : List UInt8}
    (read : decodePairs position sent = .ok bytes) (count : Nat) :
    decodePairs position (sent.take (2 * count)) = .ok (bytes.take count) := by
  fun_induction decodePairs position sent generalizing bytes count with
  | case1 =>
      cases read
      simp [decodePairs]
  | case2 => cases read
  | case3 => cases read
  | case4 => cases read
  | case5 position high low rest h l lowRead highRead ih =>
      obtain ⟨tail, later, rfl⟩ := map_eq_ok_iff.mp read
      cases count with
      | zero => rfl
      | succ count =>
          rw [Nat.mul_succ, List.take_succ_cons, List.take_succ_cons, List.take_succ_cons,
            decodePairs, highRead, lowRead]
          simp only [ih later count, Except.map]

theorem decode_take {text : String} {bytes : List UInt8} (read : decode text = .ok bytes)
    (count : Nat) :
    decode (String.ofList (text.toList.take (2 * count))) = .ok (bytes.take count) := by
  rw [decode] at read
  split at read
  · cases read
  case isFalse even =>
    -- a text that was read is ASCII, so its bytes can be cut where its characters are
    have ascii := Text.ascii_of_encodeUtf8 (encode_of_decodePairs read).1
    have first : Text.utf8Bytes (String.ofList (text.toList.take (2 * count))) =
        (Text.utf8Bytes text).take (2 * count) := by
      rw [Text.utf8Bytes, Text.utf8Bytes, String.toList_ofList, Text.encodeUtf8_ascii ascii,
        Text.encodeUtf8_ascii fun c member => ascii c (List.mem_of_mem_take member), List.map_take]
    have stillEven : ¬ ((Text.utf8Bytes text).take (2 * count)).length % 2 = 1 := by
      rw [List.length_take]
      omega
    rw [decode, first]
    simp only [stillEven, if_false]
    exact decodePairs_take read count

end Hex

/-- The pieces are of one size up to the last, so the first ones cover as many elements. -/
theorem flatten_take_piecesOf {α : Type} (size frames : Nat) (elements : List α) :
    ((piecesOf size elements).take frames).flatten = elements.take (frames * (size + 1)) := by
  induction frames generalizing elements with
  | zero => simp
  | succ frames ih =>
      cases elements with
      | nil => simp [piecesOf]
      | cons first rest =>
          have total : (frames + 1) * (size + 1) = size + frames * (size + 1) + 1 := by
            rw [Nat.succ_mul]
            omega
          rw [piecesOf, List.take_succ_cons, List.flatten_cons, ih, total, List.take_succ_cons,
            List.take_add, List.cons_append]

def Chunks.take (chunks : Chunks) (frames : Nat) : Chunks := ⟨chunks.texts.take frames⟩

namespace Payload

def take (payload : Payload) (count : Nat) : Payload :=
  ⟨String.ofList (payload.text.toList.take count)⟩

@[simp] theorem length_take (payload : Payload) (count : Nat) :
    (payload.take count).length = min count payload.length := by
  rw [length, take, String.length_ofList, List.length_take, String.length_toList, length]

theorem take_of_length_le {payload : Payload} {count : Nat} (all : payload.length ≤ count) :
    payload.take count = payload := by
  rw [length, ← String.length_toList] at all
  rw [take, List.take_of_length_le all, String.ofList_toList]

theorem take_min_length (payload : Payload) (count : Nat) :
    payload.take (min count payload.length) = payload.take count := by
  rcases Nat.le_total count payload.length with within | beyond
  · rw [Nat.min_eq_left within]
  · rw [Nat.min_eq_right beyond, take_of_length_le beyond, take_of_length_le (Nat.le_refl _)]

theorem map_take (payload : Payload) (count : Nat) (change : Char → Char) :
    (payload.take count).text.map change =
      (take ⟨payload.text.map change⟩ count).text := by
  rw [← String.toList_inj, take, take, String.toList_map, String.toList_ofList,
    String.toList_ofList, String.toList_map, List.map_take]

theorem ofBytes_take (content : List UInt8) (count : Nat) :
    ofBytes (content.take count) = (ofBytes content).take (2 * count) := by
  rw [ofBytes, Hex.encode_take, take, ofBytes, String.toList_ofList]

theorem bytes_take {payload : Payload} {content : List UInt8}
    (read : payload.bytes = .ok content) (count : Nat) :
    (payload.take (2 * count)).bytes = .ok (content.take count) := by
  have length := length_of_bytes read
  rw [bytes] at read
  split at read
  · cases read
  · have even : ¬ (payload.take (2 * count)).length % 2 = 1 := by
      rw [length_take]
      omega
    rw [bytes, if_neg even, take, Hex.decode_take (mapError_eq_ok_iff.mp read)]
    rfl

open Cipher

variable {cipher : BlockCipher} {key : CipherKey} {payload ciphertext : Payload}

theorem encryptWith_take (encrypted : encryptWith cipher key payload = .ok ciphertext) {count : Nat}
    (even : count % 2 = 0) :
    encryptWith cipher key (payload.take count) = .ok (ciphertext.take count) := by
  obtain ⟨plain, read, rfl⟩ := map_eq_ok_iff.mp encrypted
  obtain ⟨half, rfl⟩ : ∃ half, count = 2 * half := ⟨count / 2, by omega⟩
  rw [encryptWith_of_bytes cipher key (bytes_take read half), feedbackEncrypt_take, ofBytes_take]

theorem decryptWith_take (encrypted : encryptWith cipher key payload = .ok ciphertext) {count : Nat}
    (even : count % 2 = 0) :
    decryptWith cipher key (ciphertext.take count) =
      .ok (take ⟨payload.text.map Char.toLower⟩ count) := by
  rw [decryptWith_of_encryptWith (encryptWith_take encrypted even), map_take]

theorem concat_take_of_cut {length : Nat} {chunks : Chunks} (cut : payload.cut length = .ok chunks)
    (frames : Nat) : (chunks.take frames).concat = (payload.take (frames * length)).text := by
  cases length with
  | zero => cases cut
  | succ size =>
      cases cut
      rw [Chunks.concat, Chunks.take, ← List.map_take, ← String.toList_inj, toList_join_map_ofList,
        flatten_take_piecesOf, take, String.toList_ofList]

theorem length_concat_take {length : Nat} {chunks : Chunks}
    (cut : payload.cut length = .ok chunks) (frames : Nat) :
    (chunks.take frames).concat.length = min (frames * length) payload.length := by
  rw [concat_take_of_cut cut]
  exact length_take payload _

/-- The first frames are the beginning of what was cut, wherever the cuts are. -/
theorem concat_take_eq_take_length {length : Nat} {chunks : Chunks}
    (cut : payload.cut length = .ok chunks) (frames : Nat) :
    (⟨(chunks.take frames).concat⟩ : Payload) =
      payload.take (chunks.take frames).concat.length := by
  rw [length_concat_take cut, take_min_length, concat_take_of_cut cut]

end Payload

end MeterUplink
