import MeterUplink.Proofs.Uplink.Decryption

namespace MeterUplink.Uplink

/-! When the frames of an uplink consist of digits alone. An encrypted uplink always does. One in
plain text does as far as the time field of the log does: that field is neither checked nor put in
lower case, while the numbers behind it are digits in any case. -/

variable {holder : Holder} {log : String} {uplink : Uplink}

theorem mem_sentPayload_iff (prepared : (prepare holder log).outcome = .ok uplink) {c : Char} :
    c ∈ uplink.sentPayload.text.toList ↔ ∃ chunk ∈ uplink.chunks.texts, c ∈ chunk.toList := by
  rw [← concat_chunks prepared, Chunks.concat, String.toList_join, List.mem_flatMap]

theorem isLowerDigit_of_keyed {key : Cipher.CipherKey} (keyed : holder.cipherKey = some key)
    (prepared : (prepare holder log).outcome = .ok uplink) :
    ∀ c ∈ uplink.sentPayload.text.toList, Hex.isLowerDigit c = true := by
  obtain ⟨ciphertext, turned, done⟩ := exists_ciphertext keyed prepared
  rw [sentPayload, turned]
  exact Payload.isLowerDigit_of_encryptWith done

theorem sentPayload_of_unkeyed (unkeyed : holder.cipherKey = none)
    (prepared : (prepare holder log).outcome = .ok uplink) :
    uplink.sentPayload = uplink.payload := by
  rw [sentPayload, ciphertext_of_unkeyed unkeyed prepared]
  rfl

theorem isLowerDigit_payload_iff (prepared : (prepare holder log).outcome = .ok uplink) :
    (∀ c ∈ uplink.payload.text.toList, Hex.isLowerDigit c = true) ↔
      ∀ c ∈ (normalizeTimestamp uplink.readings.timestamp
        holder.settings.payload.timestampSeparators
        holder.settings.payload.timestampTruncate.toNat).toList, Hex.isLowerDigit c = true := by
  obtain ⟨_, encoded, _, _⟩ := prepare_eq_ok_iff.mp prepared
  exact ReadingSet.forall_mem_encode_iff encoded fun _ digit => digit

/-- All characters of all frames are digits in lower case exactly if the uplink is encrypted or
all that is sent of the time field are such digits. -/
theorem isLowerDigit_chunks_iff (prepared : (prepare holder log).outcome = .ok uplink) :
    (∀ chunk ∈ uplink.chunks.texts, ∀ c ∈ chunk.toList, Hex.isLowerDigit c = true) ↔
      holder.cipherKey.isSome = true ∨
      ∀ c ∈ (normalizeTimestamp uplink.readings.timestamp
        holder.settings.payload.timestampSeparators
        holder.settings.payload.timestampTruncate.toNat).toList, Hex.isLowerDigit c = true := by
  have whole : (∀ chunk ∈ uplink.chunks.texts, ∀ c ∈ chunk.toList, Hex.isLowerDigit c = true) ↔
      ∀ c ∈ uplink.sentPayload.text.toList, Hex.isLowerDigit c = true := by
    constructor
    · intro each c inside
      obtain ⟨chunk, among, inside⟩ := (mem_sentPayload_iff prepared).mp inside
      exact each chunk among c inside
    · intro all chunk among c inside
      exact all c ((mem_sentPayload_iff prepared).mpr ⟨chunk, among, inside⟩)
  rw [whole]
  cases keyed : holder.cipherKey with
  | none =>
      rw [sentPayload_of_unkeyed keyed prepared, isLowerDigit_payload_iff prepared]
      simp
  | some key =>
      have digits := isLowerDigit_of_keyed keyed prepared
      simpa using digits

theorem isLowerDigit_chunks_keyedHolder :
    ∃ uplink, (prepare keyedHolder (standardLog "1D:20")).outcome = .ok uplink ∧
      ∀ chunk ∈ uplink.chunks.texts, ∀ c ∈ chunk.toList, Hex.isLowerDigit c = true := by
  obtain ⟨uplink, prepared, _⟩ := exists_prepare_keyedHolder
  exact ⟨uplink, prepared, (isLowerDigit_chunks_iff prepared).mpr (.inl rfl)⟩

/-- With the default settings a capital letter of the time field is sent as it is. -/
theorem capital_mem_chunk_of_plain_uplink :
    ∃ uplink, (Holder.ofSettings {}).outcome = .ok ⟨{}, "", .standard, none⟩ ∧
      (prepare ⟨{}, "", .standard, none⟩ (standardLog "1D:20")).outcome = .ok uplink ∧
      ∃ chunk ∈ uplink.chunks.texts, ∃ c ∈ chunk.toList, ¬ Hex.isLowerDigit c = true := by
  obtain ⟨readings, extracted, encoded⟩ := exists_encode_standardLog
  have accepted : (Holder.ofSettings {}).outcome = .ok ⟨{}, "", .standard, none⟩ :=
    Holder.ofSettings_eq_ok_iff.mpr
      ⟨by decide, .standard, none, RegisterTable.ofDefinitions?_standard, rfl, rfl⟩
  obtain ⟨uplink, prepared, payload⟩ :
      ∃ uplink, (prepare ⟨{}, "", .standard, none⟩ (standardLog "1D:20")).outcome = .ok uplink ∧
        uplink.payload = ⟨"1D20113113113113113113113113113113113113"⟩ :=
    exists_prepare extracted encoded rfl (by decide)
  have capital : 'D' ∈ uplink.sentPayload.text.toList := by
    rw [sentPayload_of_unkeyed rfl prepared, payload]
    decide
  obtain ⟨chunk, among, inside⟩ := (mem_sentPayload_iff prepared).mp capital
  exact ⟨uplink, accepted, prepared, chunk, among, 'D', inside, by decide⟩

end MeterUplink.Uplink
