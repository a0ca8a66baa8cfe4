import MeterUplink.Cipher.Block

namespace MeterUplink.Cipher.Aes128

/-! The block cipher AES with a key of 128 bits. A block is read by columns of four bytes. -/

/-- The substitution of bytes: inversion in the field of 256 elements, then an affine map. The
high half of a byte selects the row, the low half the column. -/
def substitutions : Vector (Vector UInt8 16) 16 :=
  #v[
    #v[0x63, 0x7C, 0x77, 0x7B, 0xF2, 0x6B, 0x6F, 0xC5, 0x30, 0x01, 0x67, 0x2B, 0xFE, 0xD7, 0xAB, 0x76],
    #v[0xCA, 0x82, 0xC9, 0x7D, 0xFA, 0x59, 0x47, 0xF0, 0xAD, 0xD4, 0xA2, 0xAF, 0x9C, 0xA4, 0x72, 0xC0],
    #v[0xB7, 0xFD, 0x93, 0x26, 0x36, 0x3F, 0xF7, 0xCC, 0x34, 0xA5, 0xE5, 0xF1, 0x71, 0xD8, 0x31, 0x15],
    #v[0x04, 0xC7, 0x23, 0xC3, 0x18, 0x96, 0x05, 0x9A, 0x07, 0x12, 0x80, 0xE2, 0xEB, 0x27, 0xB2, 0x75],
    #v[0x09, 0x83, 0x2C, 0x1A, 0x1B, 0x6E, 0x5A, 0xA0, 0x52, 0x3B, 0xD6, 0xB3, 0x29, 0xE3, 0x2F, 0x84],
    #v[0x53, 0xD1, 0x00, 0xED, 0x20, 0xFC, 0xB1, 0x5B, 0x6A, 0xCB, 0xBE, 0x39, 0x4A, 0x4C, 0x58, 0xCF],
    #v[0xD0, 0xEF, 0xAA, 0xFB, 0x43, 0x4D, 0x33, 0x85, 0x45, 0xF9, 0x02, 0x7F, 0x50, 0x3C, 0x9F, 0xA8],
    #v[0x51, 0xA3, 0x40, 0x8F, 0x92, 0x9D, 0x38, 0xF5, 0xBC, 0xB6, 0xDA, 0x21, 0x10, 0xFF, 0xF3, 0xD2],
    #v[0xCD, 0x0C, 0x13, 0xEC, 0x5F, 0x97, 0x44, 0x17, 0xC4, 0xA7, 0x7E, 0x3D, 0x64, 0x5D, 0x19, 0x73],
    #v[0x60, 0x81, 0x4F, 0xDC, 0x22, 0x2A, 0x90, 0x88, 0x46, 0xEE, 0xB8, 0x14, 0xDE, 0x5E, 0x0B, 0xDB],
    #v[0xE0, 0x32, 0x3A, 0x0A, 0x49, 0x06, 0x24, 0x5C, 0xC2, 0xD3, 0xAC, 0x62, 0x91, 0x95, 0xE4, 0x79],
    #v[0xE7, 0xC8, 0x37, 0x6D, 0x8D, 0xD5, 0x4E, 0xA9, 0x6C, 0x56, 0xF4, 0xEA, 0x65, 0x7A, 0xAE, 0x08],
    #v[0xBA, 0x78, 0x25, 0x2E, 0x1C, 0xA6, 0xB4, 0xC6, 0xE8, 0xDD, 0x74, 0x1F, 0x4B, 0xBD, 0x8B, 0x8A],
    #v[0x70, 0x3E, 0xB5, 0x66, 0x48, 0x03, 0xF6, 0x0E, 0x61, 0x35, 0x57, 0xB9, 0x86, 0xC1, 0x1D, 0x9E],
    #v[0xE1, 0xF8, 0x98, 0x11, 0x69, 0xD9, 0x8E, 0x94, 0x9B, 0x1E, 0x87, 0xE9, 0xCE, 0x55, 0x28, 0xDF],
    #v[0x8C, 0xA1, 0x89, 0x0D, 0xBF, 0xE6, 0x42, 0x68, 0x41, 0x99, 0x2D, 0x0F, 0xB0, 0x54, 0xBB, 0x16]]

def substitute (byte : UInt8) : UInt8 :=
  have row : byte.toNat / 16 < 16 := by have := byte.toNat_lt; omega
  substitutions[byte.toNat / 16][byte.toNat % 16]

/-- Multiplication by two in the field of 256 elements. -/
def double (byte : UInt8) : UInt8 :=
  if byte < 0x80 then byte <<< 1 else (byte <<< 1) ^^^ 0x1B

def addKey (key block : Block) : Block := Vector.ofFn fun i => block[i] ^^^ key[i]

def substituteBytes (block : Block) : Block := block.map substitute

/-- Row `r` of the block moves left by `r` columns. -/
def shiftRows (block : Block) : Block :=
  Vector.ofFn fun i => block[(i.val + 4 * (i.val % 4)) % 16]

/-- Each column is multiplied by a fixed polynomial. -/
def mixColumns (block : Block) : Block :=
  Vector.ofFn fun i =>
    let column := 4 * (i.val / 4)
    let a := block[column + i.val % 4]
    let b := block[column + (i.val + 1) % 4]
    let c := block[column + (i.val + 2) % 4]
    let d := block[column + (i.val + 3) % 4]
    double a ^^^ (double b ^^^ b) ^^^ c ^^^ d

/-- The next key of the schedule: each column is added to the one before it, the first to the
substituted and rotated last column. -/
def nextKey (constant : UInt8) (key : Block) : Block :=
  Vector.ofFn fun i =>
    let row := i.val % 4
    let turned := substitute key[12 + (row + 1) % 4] ^^^ (if row = 0 then constant else 0)
    (List.range (i.val / 4 + 1)).foldl (fun sum j => sum ^^^ key[(4 * j + row) % 16]) turned

def roundConstants : List UInt8 := [0x01, 0x02, 0x04, 0x08, 0x10, 0x20, 0x40, 0x80, 0x1B, 0x36]

/-- The rounds with the constants that are left; the last one does not mix columns. -/
def rounds (key block : Block) : List UInt8 → Block
  | [] => block
  | constant :: rest =>
    let key := nextKey constant key
    let block := shiftRows (substituteBytes block)
    if rest.isEmpty then addKey key block
    else rounds key (addKey key (mixColumns block)) rest

def encipher : BlockCipher := fun key block => rounds key (addKey key block) roundConstants

end MeterUplink.Cipher.Aes128
