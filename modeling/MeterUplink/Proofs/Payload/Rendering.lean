import Mathlib.Data.Nat.Digits.Defs
import MeterUplink.Proofs.Payload.Length

namespace MeterUplink

/-! The numbers of a payload as they are sent: what is left of a quantity under a mask, written to
base sixteen. No step of a mask overflows, whatever the width; and a number is written in one way
only, so it can be read back. -/

namespace Hex

/-- The number that digits of either case stand for. -/
def number? (digits : List Char) : Option Nat :=
  (digits.mapM digitOf?).map fun values => Nat.ofDigits 16 values.reverse

theorem digitOf?_digit {value : Nat} (small : value < 16) : digitOf? (digit value) = some value := by
  rw [digitOf?, if_pos (digit_ascii small), digitValue?_digit small]

theorem number?_ofNat (n : Nat) : number? (ofNat n) = some n := by
  fun_induction ofNat n with
  | case1 n small => simp [number?, digitOf?_digit small]
  | case2 n large ih =>
      obtain ⟨values, read, value⟩ := Option.map_eq_some_iff.mp ih
      have low := digitOf?_digit (show n % 16 < 16 by omega)
      have whole : n % 16 + 16 * (n / 16) = n := Nat.mod_add_div n 16
      simp [number?, List.mapM_append, read, low, value, Nat.ofDigits_cons, whole]

theorem number?_render (n : Nat) : number? (render n).toList = some n := by
  rw [render, String.toList_ofList, number?_ofNat]

theorem render_injective : Function.Injective render := by
  intro first second same
  have read := number?_render first
  rw [same, number?_render] at read
  exact (Option.some.inj read).symm

theorem ofNat_ne_nil (n : Nat) : ofNat n ≠ [] := by
  rw [ofNat_eq_toDigits]
  exact Nat.toDigits_ne_nil

theorem head?_ofNat_zero_iff {n : Nat} : (ofNat n).head? = some '0' ↔ n = 0 := by
  fun_induction ofNat n with
  | case1 n small =>
      revert n
      decide
  | case2 n large ih =>
      rw [List.head?_append_of_ne_nil _ (ofNat_ne_nil _), ih]
      omega

/-- No zero stands in front, unless it is all there is. -/
theorem render_of_head?_zero {n : Nat} (zero : (render n).toList.head? = some '0') :
    render n = "0" := by
  rw [render, String.toList_ofList, head?_ofNat_zero_iff] at zero
  rw [zero, render, ofNat, if_pos (by decide)]
  rfl

end Hex

namespace Signed128

/-- A word moved up by less than its size, if no bit of it is lost. -/
def shiftLeft? (word : BitVec 128) (distance : Nat) : Option (BitVec 128) :=
  if distance < 128 ∧ word.toNat * 2 ^ distance < 2 ^ 128 then some (word <<< distance) else none

/-- The difference of two words, if it is not negative. -/
def difference? (first second : BitVec 128) : Option (BitVec 128) :=
  if second ≤ first then some (first - second) else none

/-- The mask, if no step on the way to it overflows. -/
def checkedMask? (n : Signed128) (width : Nat) : Option (BitVec 128) :=
  if 128 ≤ width then some n.bits
  else do
    let power ← shiftLeft? 1#128 width
    let lowest ← difference? power 1#128
    pure (n.bits &&& lowest)

theorem checkedMask?_eq_some (n : Signed128) (width : Nat) :
    n.checkedMask? width = some (n.mask width) := by
  rw [checkedMask?, mask]
  split
  case isTrue => rfl
  case isFalse narrow =>
    have within : width < 128 := Nat.lt_of_not_le narrow
    have fits : 2 ^ width < 2 ^ 128 := Nat.pow_lt_pow_right (by decide) within
    have shift : shiftLeft? 1#128 width = some (1#128 <<< width) := by
      rw [shiftLeft?, if_pos ⟨within, by simpa using fits⟩]
    have difference : difference? (1#128 <<< width) 1#128 = some (1#128 <<< width - 1#128) := by
      rw [difference?, if_pos (one_le_shiftLeft within)]
    rw [shift, Option.bind_eq_bind, Option.bind_some, difference]
    rfl

/-- A mask keeps what is left by the power of two of its width, of at most 128 bits, and no step on
the way overflows. What is written of a number is digits in lower case, without zeros in front, from
which the number is read back; of a number under a mask there are no more than its bits take. -/
theorem mask_render_exact :
    (∀ (n : Signed128) (width : Nat),
      n.checkedMask? width = some (n.mask width) ∧
      ((n.mask width).toNat : Int) = n.value % 2 ^ min width 128) ∧
    (∀ n : Nat, Hex.render n ≠ "" ∧
      (∀ c ∈ (Hex.render n).toList, Hex.isLowerDigit c = true) ∧
      ((Hex.render n).toList.head? = some '0' → Hex.render n = "0") ∧
      Hex.number? (Hex.render n).toList = some n) ∧
    (∀ first second : Nat, first ≠ second → Hex.render first ≠ Hex.render second) ∧
    ∀ (n : Signed128) (width : Nat), 1 ≤ width →
      (Hex.render (n.mask width).toNat).length ≤ min width 128 ⌈/⌉ 4 := by
  refine ⟨fun n width => ⟨n.checkedMask?_eq_some width, n.natCast_mask width⟩, fun n => ⟨?_, ?_⟩,
    fun _ _ => Hex.render_injective.ne, fun n width positive => ?_⟩
  · intro empty
    have long := Hex.one_le_length_render n
    rw [empty] at long
    exact absurd long (by decide)
  · exact ⟨fun _ => Hex.isLowerDigit_of_mem_render, Hex.render_of_head?_zero,
      Hex.number?_render n⟩
  · exact Hex.length_render_le_ceilDiv (by omega) (n.toNat_mask_lt_min width)

/-- The least quantity, whose only bit is the highest one, is masked to zero by 127 bits and kept by
any larger width; -1 has every bit set. -/
theorem mask_render_exact_edges :
    let least : Signed128 := ⟨BitVec.intMin 128⟩
    let minusOne : Signed128 := ⟨-1⟩
    ((least.mask 127).toNat : Int) = 0 ∧ ((least.mask 4000000000).toNat : Int) = 2 ^ 127 ∧
    minusOne.checkedMask? 0 = some (minusOne.mask 0) ∧ ((minusOne.mask 0).toNat : Int) = 0 ∧
    (Hex.render (minusOne.mask 6).toNat).length ≤ 2 ∧
    (Hex.render (minusOne.mask 4000000000).toNat).length ≤ 32 ∧
    Hex.render 0 = "0" ∧ Hex.render 255 ≠ Hex.render 256 := by
  intro least minusOne
  obtain ⟨masked, written, apart, short⟩ := mask_render_exact
  have zero : (Hex.render 0).toList.head? = some '0' := by decide +kernel
  refine ⟨(masked least 127).2.trans (by decide +kernel),
    (masked least 4000000000).2.trans (by decide +kernel), (masked minusOne 0).1,
    (masked minusOne 0).2.trans (by decide +kernel), short minusOne 6 (by decide),
    short minusOne 4000000000 (by decide), (written 0).2.2.1 zero, apart 255 256 (by decide)⟩

end Signed128

end MeterUplink
