namespace MeterUplink.Text

/-! UTF-8 read byte by byte. The reader keeps what it has of an unfinished character; a byte
that cannot continue it ends it as one broken piece and is then looked at afresh. So every
longest beginning of a character that is cut short counts as one broken piece, and so does every
other byte that begins no character. -/

/-- A character of which the first bytes are known: their bits, how many bytes are missing, and
the range in which the next one has to lie. -/
structure Unfinished where
  bits : Nat
  missing : Nat
  low : UInt8
  high : UInt8
deriving Repr, DecidableEq

/-- What a byte that continues nothing stands for. -/
inductive Opening where
  | whole (c : Char)
  | begins (first : Unfinished)
  | broken
deriving Repr, DecidableEq

/-- The narrowed second bytes exclude overlong forms, surrogates and values beyond U+10FFFF. -/
def opening (byte : UInt8) : Opening :=
  if byte < 0x80 then .whole (Char.ofNat byte.toNat)
  else if byte < 0xC2 then .broken
  else if byte < 0xE0 then .begins ⟨byte.toNat - 0xC0, 1, 0x80, 0xBF⟩
  else if byte = 0xE0 then .begins ⟨0, 2, 0xA0, 0xBF⟩
  else if byte = 0xED then .begins ⟨0xD, 2, 0x80, 0x9F⟩
  else if byte < 0xF0 then .begins ⟨byte.toNat - 0xE0, 2, 0x80, 0xBF⟩
  else if byte = 0xF0 then .begins ⟨0, 3, 0x90, 0xBF⟩
  else if byte < 0xF4 then .begins ⟨byte.toNat - 0xF0, 3, 0x80, 0xBF⟩
  else if byte = 0xF4 then .begins ⟨4, 3, 0x80, 0x8F⟩
  else .broken

/-- The pieces of a byte sequence, with `none` for a broken one. -/
def utf8PiecesFrom : Option Unfinished → List UInt8 → List (Option Char)
  | none, [] => []
  | some _, [] => [none]
  | state, byte :: rest =>
    let afresh : List (Option Char) :=
      match opening byte with
      | .whole c => some c :: utf8PiecesFrom none rest
      | .begins first => utf8PiecesFrom (some first) rest
      | .broken => none :: utf8PiecesFrom none rest
    match state with
    | none => afresh
    | some unfinished =>
      if unfinished.low ≤ byte ∧ byte ≤ unfinished.high then
        let bits := unfinished.bits * 64 + (byte.toNat - 0x80)
        if unfinished.missing ≤ 1 then some (Char.ofNat bits) :: utf8PiecesFrom none rest
        else utf8PiecesFrom (some ⟨bits, unfinished.missing - 1, 0x80, 0xBF⟩) rest
      else none :: afresh

def utf8Pieces (bytes : List UInt8) : List (Option Char) := utf8PiecesFrom none bytes

/-- The text of a byte sequence without broken pieces. -/
def decodeUtf8? (bytes : List UInt8) : Option (List Char) := (utf8Pieces bytes).mapM id

/-- The text of a byte sequence, with U+FFFD for each broken piece. -/
def decodeUtf8 (bytes : List UInt8) : List Char :=
  (utf8Pieces bytes).map fun piece => piece.getD '\uFFFD'

def encodeUtf8 (text : List Char) : List UInt8 := text.flatMap String.utf8EncodeChar

/-- The bytes of a text. -/
def utf8Bytes (text : String) : List UInt8 := encodeUtf8 text.toList

end MeterUplink.Text
