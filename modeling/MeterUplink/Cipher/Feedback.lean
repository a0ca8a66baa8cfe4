import MeterUplink.Cipher.Block

namespace MeterUplink.Cipher

/-! Cipher feedback by single bytes. A register of one block is enciphered to get the next byte
of the key stream; the byte of ciphertext then enters the register. Both directions run the
cipher forwards and keep the same registers, so they undo each other whatever the cipher is. -/

/-- The key stream's byte for a register. -/
def keyByte (encipher : Block → Block) (register : Block) : UInt8 := (encipher register)[0]

def feedbackEncrypt (encipher : Block → Block) (register : Block) : List UInt8 → List UInt8
  | [] => []
  | plain :: rest =>
    let sent := plain ^^^ keyByte encipher register
    sent :: feedbackEncrypt encipher (register.shiftIn sent) rest

def feedbackDecrypt (encipher : Block → Block) (register : Block) : List UInt8 → List UInt8
  | [] => []
  | sent :: rest =>
    (sent ^^^ keyByte encipher register) ::
      feedbackDecrypt encipher (register.shiftIn sent) rest

theorem feedbackDecrypt_feedbackEncrypt (encipher : Block → Block) (register : Block)
    (plain : List UInt8) :
    feedbackDecrypt encipher register (feedbackEncrypt encipher register plain) = plain := by
  induction plain generalizing register with
  | nil => rfl
  | cons byte rest ih =>
    simp only [feedbackEncrypt, feedbackDecrypt, ih, UInt8.xor_assoc, UInt8.xor_self,
      UInt8.xor_zero]

theorem feedbackEncrypt_feedbackDecrypt (encipher : Block → Block) (register : Block)
    (sent : List UInt8) :
    feedbackEncrypt encipher register (feedbackDecrypt encipher register sent) = sent := by
  induction sent generalizing register with
  | nil => rfl
  | cons byte rest ih =>
    simp only [feedbackEncrypt, feedbackDecrypt, ih, UInt8.xor_assoc, UInt8.xor_self,
      UInt8.xor_zero]

@[simp] theorem length_feedbackEncrypt (encipher : Block → Block) (register : Block)
    (plain : List UInt8) :
    (feedbackEncrypt encipher register plain).length = plain.length := by
  induction plain generalizing register with
  | nil => rfl
  | cons byte rest ih => simp [feedbackEncrypt, ih]

end MeterUplink.Cipher
