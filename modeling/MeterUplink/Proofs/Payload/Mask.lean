import Mathlib.Data.Int.ModEq
import MeterUplink.Numeral.Hex
import MeterUplink.Payload.Mask

namespace MeterUplink

/-! Masks as arithmetic: the lowest bits of a two's complement word are what is left of the integer
by a power of two, and a word has no more than 128 of them. -/

theorem Hex.ofNat_eq_toDigits (n : Nat) : Hex.ofNat n = Nat.toDigits 16 n := by
  have digits : ∀ value < 16, Hex.digit value = Nat.digitChar value := by decide
  fun_induction Hex.ofNat n with
  | case1 n small => rw [Nat.toDigits_of_lt_base small, digits n small]
  | case2 n large ih =>
      rw [Nat.toDigits_of_base_le (by decide) (by omega), ih, digits _ (by omega)]

theorem Hex.render_eq_toDigits (n : Nat) : Hex.render n = String.ofList (Nat.toDigits 16 n) := by
  rw [Hex.render, Hex.ofNat_eq_toDigits]

namespace Signed128

theorem value_emod_of_le (n : Signed128) {width : Nat} (within : width ≤ 128) :
    n.value % 2 ^ width = ((n.bits.toNat % 2 ^ width : Nat) : Int) := by
  have divides : (2 : Int) ^ width ∣ ((2 ^ 128 : Nat) : Int) := by
    rw [Nat.cast_pow]
    exact pow_dvd_pow 2 within
  rw [value, BitVec.toInt_eq_toNat_bmod, ← Int.emod_emod_of_dvd _ divides, Int.bmod_emod,
    Int.emod_emod_of_dvd _ divides, Int.natCast_mod, Nat.cast_pow]
  rfl

theorem toNat_shiftLeft {width : Nat} (within : width < 128) :
    (1#128 <<< width).toNat = 2 ^ width := by
  rw [BitVec.toNat_shiftLeft, BitVec.toNat_ofNat, Nat.shiftLeft_eq, Nat.one_mul,
    Nat.mod_eq_of_lt (Nat.pow_lt_pow_right (by decide) within)]

theorem one_le_shiftLeft {width : Nat} (within : width < 128) : 1#128 ≤ 1#128 <<< width := by
  rw [BitVec.le_def, toNat_shiftLeft within]
  exact Nat.two_pow_pos width

theorem toNat_lowBits {width : Nat} (within : width < 128) :
    ((1#128 <<< width) - 1#128).toNat = 2 ^ width - 1 := by
  rw [BitVec.toNat_sub_of_le (one_le_shiftLeft within), toNat_shiftLeft within]
  rfl

theorem natCast_mask (n : Signed128) (width : Nat) :
    ((n.mask width).toNat : Int) = n.value % 2 ^ min width 128 := by
  rw [value_emod_of_le n (Nat.min_le_right _ _), Nat.cast_inj, mask]
  split
  case isTrue wide => rw [Nat.min_eq_right wide, Nat.mod_eq_of_lt n.bits.isLt]
  case isFalse narrow =>
    rw [BitVec.toNat_and, toNat_lowBits (by omega), Nat.and_two_pow_sub_one_eq_mod,
      Nat.min_eq_left (by omega)]

theorem toNat_mask (n : Signed128) (width : Nat) :
    (n.mask width).toNat = (n.value % 2 ^ min width 128).toNat := by
  rw [← natCast_mask, Int.toNat_natCast]

theorem toNat_mask_lt_min (n : Signed128) (width : Nat) :
    (n.mask width).toNat < 2 ^ min width 128 := by
  have below : n.value % 2 ^ min width 128 < 2 ^ min width 128 :=
    Int.emod_lt_of_pos _ (Int.pow_pos (by decide))
  rw [← natCast_mask] at below
  exact_mod_cast below

theorem toNat_mask_lt (n : Signed128) (width : Nat) : (n.mask width).toNat < 2 ^ width :=
  (n.toNat_mask_lt_min width).trans_le
    (Nat.pow_le_pow_right (by decide) (Nat.min_le_left _ _))

/-- A mask cannot tell apart what is congruent at its width. -/
theorem toNat_mask_of_modEq {first second : Signed128} {width : Nat}
    (alike : first.value ≡ second.value [ZMOD 2 ^ width]) :
    (first.mask width).toNat = (second.mask width).toNat := by
  have narrower : (2 : Int) ^ min width 128 ∣ 2 ^ width := pow_dvd_pow 2 (Nat.min_le_left _ _)
  rw [toNat_mask, toNat_mask, alike.of_dvd narrower]

end Signed128

end MeterUplink
