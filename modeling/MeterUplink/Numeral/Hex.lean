import MeterUplink.Text.Quoted
import MeterUplink.Text.Utf8

namespace MeterUplink.Hex

/-! Hexadecimal texts: numbers without padding, and bytes as pairs of digits. What is written
uses lower-case letters; reading bytes accepts either case. -/

def digit (value : Nat) : Char :=
  if value < 10 then Char.ofNat (48 + value) else Char.ofNat (87 + value)

/-- The digits of a number, the highest first and none of them a leading zero. -/
def ofNat (n : Nat) : List Char :=
  if n < 16 then [digit n] else ofNat (n / 16) ++ [digit (n % 16)]

def render (n : Nat) : String := String.ofList (ofNat n)

/-- Two digits for each byte. -/
def encode (bytes : List UInt8) : List Char :=
  bytes.flatMap fun byte => [digit (byte.toNat / 16), digit (byte.toNat % 16)]

/-- The value of a digit given as an ASCII byte. -/
def digitValue? (byte : UInt8) : Option Nat :=
  let code := byte.toNat
  if 48 ≤ code ∧ code ≤ 57 then some (code - 48)
  else if 65 ≤ code ∧ code ≤ 70 then some (code - 55)
  else if 97 ≤ code ∧ code ≤ 102 then some (code - 87)
  else none

/-- The value of a digit among all characters. -/
def digitOf? (c : Char) : Option Nat :=
  if c.toNat < 128 then digitValue? (UInt8.ofNat c.toNat) else none

theorem digitValue?_digit {value : Nat} (small : value < 16) :
    digitValue? (UInt8.ofNat (digit value).toNat) = some value := by
  revert value
  decide

/-- Why a text stands for no bytes. -/
inductive Fault where
  | oddLength
  | badDigit (byte : UInt8) (position : Nat)
deriving Repr, DecidableEq

/-- A wrong digit is shown as the character that has the byte as its code point. -/
def Fault.message : Fault → String
  | .oddLength => "Odd number of digits"
  | .badDigit byte position =>
    "Invalid character " ++ Text.quotedChar (Char.ofNat byte.toNat) ++ " at position " ++
      toString position

/-- Reads pairs of digits; `position` counts the bytes before them. -/
def decodePairs (position : Nat) : List UInt8 → Except Fault (List UInt8)
  | [] => .ok []
  | [_] => .error .oddLength
  | high :: low :: rest =>
    match digitValue? high, digitValue? low with
    | none, _ => .error (.badDigit high position)
    | some _, none => .error (.badDigit low (position + 1))
    | some h, some l =>
      (decodePairs (position + 2) rest).map (UInt8.ofNat (h * 16 + l) :: ·)

/-- The bytes that a text of hexadecimal digits stands for. The text is looked at as UTF-8, and
an odd number of bytes is noticed before any wrong digit. -/
def decode (text : String) : Except Fault (List UInt8) :=
  let bytes := Text.utf8Bytes text
  if bytes.length % 2 = 1 then .error .oddLength else decodePairs 0 bytes

end MeterUplink.Hex
