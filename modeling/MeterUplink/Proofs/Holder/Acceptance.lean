import MeterUplink.Proofs.Cipher.Key
import MeterUplink.Proofs.FirstFault
import MeterUplink.Proofs.Holder

namespace MeterUplink

/-! What is asked of settings, in the order in which it is looked at, and how the first requirement
that is not met is reported. -/

inductive WidthPart where
  | energy
  | instantaneous
  | scale
deriving DecidableEq

def WidthPart.name : WidthPart → String
  | energy => "energy"
  | instantaneous => "instantaneous"
  | scale => "scale"

def WidthSettings.width (widths : WidthSettings) : WidthPart → UInt32
  | .energy => widths.energy
  | .instantaneous => widths.instantaneous
  | .scale => widths.scale

theorem WidthSettings.named_eq (widths : WidthSettings) : widths.named =
    [WidthPart.energy, .instantaneous, .scale].map fun part => (part.name, widths.width part) := rfl

inductive Requirement where
  | chunkLength
  | width (part : WidthPart)
  | dataBits
  | stopBits
  | registers
  | key
  | iv
deriving DecidableEq

namespace Requirement

def order : List Requirement :=
  [chunkLength, width .energy, width .instantaneous, width .scale, dataBits, stopBits, registers,
    key, iv]

theorem mem_order (requirement : Requirement) : requirement ∈ order := by
  cases requirement with
  | width part => cases part <;> decide
  | _ => decide

def Met (settings : Settings) : Requirement → Prop
  | chunkLength => 1 ≤ settings.payload.chunkLength.toNat
  | width part => 1 ≤ (settings.payload.maskWidths.width part).toNat ∧
      (settings.payload.maskWidths.width part).toNat ≤ 64
  | dataBits => 5 ≤ settings.serial.dataBits.toNat ∧ settings.serial.dataBits.toNat ≤ 8
  | stopBits => settings.serial.stopBits.toNat = 1 ∨ settings.serial.stopBits.toNat = 2
  | registers => ∃ table, RegisterTable.ofDefinitions? settings.registers = .ok table
  | key => settings.payload.encryption.enabled = true →
      Cipher.IsBlockText settings.payload.encryption.key
  | iv => settings.payload.encryption.enabled = true →
      Cipher.IsBlockText settings.payload.encryption.iv

inductive Reports (settings : Settings) : Requirement → SettingsError → Prop where
  | chunkLength : Reports settings .chunkLength (.invalid .chunkLength)
  | width (part : WidthPart) : Reports settings (.width part)
      (.invalid (.maskWidth part.name (settings.payload.maskWidths.width part)))
  | dataBits : Reports settings .dataBits (.invalid (.dataBits settings.serial.dataBits))
  | stopBits : Reports settings .stopBits (.invalid (.stopBits settings.serial.stopBits))
  | registers {error : TableError}
      (refused : RegisterTable.ofDefinitions? settings.registers = .error error) :
      Reports settings .registers (.registers error)
  | key {fault : Cipher.KeyFault}
      (wrong : Cipher.BlockFault settings.payload.encryption.key fault) :
      Reports settings .key (.invalid (.key ⟨.key, fault⟩))
  | iv {fault : Cipher.KeyFault} (wrong : Cipher.BlockFault settings.payload.encryption.iv fault) :
      Reports settings .iv (.invalid (.key ⟨.iv, fault⟩))

def IsFirstUnmet (settings : Settings) (requirement : Requirement) : Prop :=
  ∃ before after, order = before ++ requirement :: after ∧
    (∀ earlier ∈ before, earlier.Met settings) ∧ ¬ requirement.Met settings

variable {settings : Settings} {requirement : Requirement}

theorem IsFirstUnmet.unmet (first : IsFirstUnmet settings requirement) :
    ¬ requirement.Met settings := by
  obtain ⟨_, _, _, _, unmet⟩ := first
  exact unmet

theorem IsFirstUnmet.met (first : IsFirstUnmet settings requirement) {earlier : Requirement}
    (before : order.idxOf earlier < order.idxOf requirement) : earlier.Met settings := by
  obtain ⟨front, back, split, met, _⟩ := first
  refine met earlier (Classical.byContradiction fun absent => ?_)
  rw [split, List.idxOf_append_of_notMem absent] at before
  by_cases repeated : requirement ∈ front
  · have inside := List.idxOf_lt_length_of_mem repeated
    rw [List.idxOf_append_of_mem repeated] at before
    omega
  · rw [List.idxOf_append_of_notMem repeated, List.idxOf_cons_self] at before
    omega

theorem Reports.unique {error other : SettingsError} (first : Reports settings requirement error)
    (second : Reports settings requirement other) : error = other := by
  cases first <;> cases second
  case registers.registers refused _ again =>
    rw [refused] at again
    cases again
    rfl
  case key.key wrong _ again => rw [wrong.unique again]
  case iv.iv wrong _ again => rw [wrong.unique again]
  all_goals rfl

theorem met_or_exists_isFirstUnmet (settings : Settings) :
    (∀ requirement : Requirement, requirement.Met settings) ∨
      ∃ requirement, IsFirstUnmet settings requirement := by
  rcases forall_or_exists_first_not (Met settings) order with
    all | ⟨before, requirement, after, split, earlier, unmet⟩
  · exact .inl fun requirement => all requirement (mem_order requirement)
  · exact .inr ⟨requirement, before, after, split, earlier, unmet⟩

end Requirement

/-! The ranges of the numbers, each condition of the check as the requirement that it stands for. -/

namespace Settings

open Requirement

variable {settings : Settings}

theorem chunkLength_eq_zero_iff :
    settings.payload.chunkLength = 0 ↔ ¬ Met settings .chunkLength := by
  rw [← UInt64.toNat_inj, Met, Nat.not_le, Nat.lt_one_iff]
  rfl

theorem width_outOfRange_iff {part : WidthPart} :
    (decide (settings.payload.maskWidths.width part < 1) ||
      decide (64 < settings.payload.maskWidths.width part)) = true ↔
        ¬ Met settings (.width part) := by
  rw [Bool.or_eq_true, decide_eq_true_eq, decide_eq_true_eq, UInt32.lt_iff_toNat_lt,
    UInt32.lt_iff_toNat_lt, Met, not_and_or, Nat.not_le, Nat.not_le]
  rfl

theorem dataBits_outOfRange_iff :
    (settings.serial.dataBits < 5 ∨ 8 < settings.serial.dataBits) ↔ ¬ Met settings .dataBits := by
  rw [UInt8.lt_iff_toNat_lt, UInt8.lt_iff_toNat_lt, Met, not_and_or, Nat.not_le, Nat.not_le]
  rfl

theorem stopBits_outOfRange_iff :
    (settings.serial.stopBits ≠ 1 ∧ settings.serial.stopBits ≠ 2) ↔
      ¬ Met settings .stopBits := by
  rw [Met, not_or, ne_eq, ne_eq, ← UInt8.toNat_inj, ← UInt8.toNat_inj]
  rfl

theorem outOfRange?_eq_some {part : WidthPart} (first : IsFirstUnmet settings (.width part)) :
    settings.payload.maskWidths.outOfRange? =
      some (part.name, settings.payload.maskWidths.width part) := by
  have here := width_outOfRange_iff.mpr first.unmet
  have earlier (other : WidthPart)
      (before : order.idxOf (.width other) < order.idxOf (.width part)) :=
    Bool.eq_false_iff.mpr ((not_congr width_outOfRange_iff).mpr (not_not_intro (first.met before)))
  rw [WidthSettings.outOfRange?, WidthSettings.named_eq]
  cases part with
  | energy => simp only [List.map_cons, List.find?_cons, here]
  | instantaneous =>
      simp only [List.map_cons, List.find?_cons, earlier .energy (by decide), here]
  | scale =>
      simp only [List.map_cons, List.find?_cons, earlier .energy (by decide),
        earlier .instantaneous (by decide), here]

theorem outOfRange?_eq_none (met : ∀ part, Met settings (.width part)) :
    settings.payload.maskWidths.outOfRange? = none := by
  rw [WidthSettings.outOfRange?, WidthSettings.named_eq, List.find?_eq_none]
  intro entry member
  obtain ⟨part, _, rfl⟩ := List.mem_map.mp member
  exact (not_congr width_outOfRange_iff).mpr (not_not_intro (met part))

theorem checkRanges_of_met (met : ∀ requirement : Requirement,
    order.idxOf requirement < order.idxOf .registers → requirement.Met settings) :
    settings.checkRanges = .ok () := by
  have widths := outOfRange?_eq_none fun part => met (.width part) (by cases part <;> decide)
  simp only [checkRanges, chunkLength_eq_zero_iff, dataBits_outOfRange_iff,
    stopBits_outOfRange_iff, widths, met .chunkLength (by decide), met .dataBits (by decide),
    met .stopBits (by decide), not_true, if_false]

end Settings

namespace Holder

open Requirement

variable {settings : Settings} {requirement : Requirement} {holder : Holder} {error : SettingsError}

theorem ofSettings_of_checkRanges {invalid : InvalidSetting}
    (outside : settings.checkRanges = .error invalid) :
    (ofSettings settings).outcome = .error (.invalid invalid) :=
  Journaled.outcome_bind_of_error (mapError_eq_error_iff.mpr ⟨invalid, outside, rfl⟩)

theorem ofSettings_of_registers {tableError : TableError} (ranges : settings.checkRanges = .ok ())
    (refused : RegisterTable.ofDefinitions? settings.registers = .error tableError) :
    (ofSettings settings).outcome = .error (.registers tableError) := by
  rw [← RegisterTable.outcome_build] at refused
  refine (Journaled.outcome_bind_of_ok (mapError_eq_ok_iff.mpr ranges)).trans ?_
  apply Journaled.outcome_bind_of_error
  exact Journaled.outcome_mapError_eq_error_iff.mpr ⟨tableError, refused, rfl⟩

theorem ofSettings_of_ofHex {keyError : Cipher.KeyError}
    (met : ∀ earlier : Requirement, order.idxOf earlier ≤ order.idxOf .registers →
      earlier.Met settings)
    (enabled : settings.payload.encryption.enabled = true)
    (unread : Cipher.CipherKey.ofHex settings.payload.encryption.key
      settings.payload.encryption.iv = .error keyError) :
    (ofSettings settings).outcome = .error (.invalid (.key keyError)) := by
  have ranges := Settings.checkRanges_of_met fun requirement before => met requirement before.le
  obtain ⟨table, made⟩ := met .registers (Nat.le_refl _)
  have wrong : settings.payload.encryption.cipherKey = .error keyError := by
    rw [EncryptionSettings.cipherKey, if_pos enabled]
    exact map_eq_error_iff.mpr unread
  rw [← RegisterTable.outcome_build] at made
  refine (Journaled.outcome_bind_of_ok (mapError_eq_ok_iff.mpr ranges)).trans ?_
  refine (Journaled.outcome_bind_of_ok (Journaled.outcome_mapError_eq_ok_iff.mpr made)).trans ?_
  apply Journaled.outcome_bind_of_error
  exact mapError_eq_error_iff.mpr ⟨keyError, wrong, rfl⟩

theorem exists_cipherKey (key : Met settings .key) (iv : Met settings .iv) :
    ∃ cipherKey, settings.payload.encryption.cipherKey = .ok cipherKey := by
  rw [EncryptionSettings.cipherKey]
  cases enabled : settings.payload.encryption.enabled with
  | false => exact ⟨none, rfl⟩
  | true =>
      obtain ⟨keyBlock, keyRead⟩ := Cipher.exists_readBlock_iff.mpr (key enabled)
      obtain ⟨ivBlock, ivRead⟩ := Cipher.exists_readBlock_iff.mpr (iv enabled)
      have made : Cipher.CipherKey.ofHex settings.payload.encryption.key
          settings.payload.encryption.iv = .ok ⟨keyBlock, ivBlock⟩ :=
        Cipher.ofHex_eq_ok_iff.mpr ⟨keyRead, ivRead⟩
      exact ⟨some ⟨keyBlock, ivBlock⟩, by rw [if_pos rfl, made]; rfl⟩

theorem exists_ofSettings_of_met (met : ∀ requirement : Requirement, requirement.Met settings) :
    ∃ holder, (ofSettings settings).outcome = .ok holder := by
  obtain ⟨table, made⟩ := met .registers
  obtain ⟨cipherKey, keyed⟩ := exists_cipherKey (met .key) (met .iv)
  have ranges := Settings.checkRanges_of_met fun requirement _ => met requirement
  exact ⟨_, ofSettings_eq_ok_iff.mpr ⟨ranges, table, cipherKey, made, keyed, rfl⟩⟩

theorem exists_ofSettings_eq_error (first : IsFirstUnmet settings requirement) :
    ∃ error, Reports settings requirement error ∧
      (ofSettings settings).outcome = .error error := by
  have unmet := first.unmet
  -- what the check finds before it comes to the requirement is met
  cases requirement with
  | chunkLength =>
      refine ⟨_, .chunkLength, ofSettings_of_checkRanges ?_⟩
      rw [Settings.checkRanges, if_pos (Settings.chunkLength_eq_zero_iff.mpr unmet)]
  | width part =>
      refine ⟨_, .width part, ofSettings_of_checkRanges ?_⟩
      have positive : Met settings .chunkLength := first.met (by cases part <;> decide)
      simp only [Settings.checkRanges, Settings.chunkLength_eq_zero_iff, positive, not_true,
        if_false, Settings.outOfRange?_eq_some first]
  | dataBits =>
      refine ⟨_, .dataBits, ofSettings_of_checkRanges ?_⟩
      have positive : Met settings .chunkLength := first.met (by decide)
      have widths : settings.payload.maskWidths.outOfRange? = none :=
        Settings.outOfRange?_eq_none fun part => first.met (by cases part <;> decide)
      simp only [Settings.checkRanges, Settings.chunkLength_eq_zero_iff, positive, not_true,
        if_false, widths, Settings.dataBits_outOfRange_iff, unmet, not_false_eq_true, if_true]
  | stopBits =>
      refine ⟨_, .stopBits, ofSettings_of_checkRanges ?_⟩
      have positive : Met settings .chunkLength := first.met (by decide)
      have bits : Met settings .dataBits := first.met (by decide)
      have widths : settings.payload.maskWidths.outOfRange? = none :=
        Settings.outOfRange?_eq_none fun part => first.met (by cases part <;> decide)
      simp only [Settings.checkRanges, Settings.chunkLength_eq_zero_iff, positive, not_true,
        if_false, widths, Settings.dataBits_outOfRange_iff, bits, Settings.stopBits_outOfRange_iff,
        unmet, not_false_eq_true, if_true]
  | registers =>
      have ranges := Settings.checkRanges_of_met fun requirement => first.met
      cases outcome : RegisterTable.ofDefinitions? settings.registers with
      | ok table => exact absurd ⟨table, outcome⟩ unmet
      | error tableError =>
          exact ⟨_, .registers outcome, ofSettings_of_registers ranges outcome⟩
  | key =>
      obtain ⟨enabled, refused⟩ := Classical.not_imp.mp unmet
      obtain ⟨fault, wrong, unread⟩ := Cipher.exists_readBlock_eq_error refused .key
      refine ⟨_, .key wrong, ofSettings_of_ofHex ?_ enabled (Cipher.ofHex_of_key unread _)⟩
      exact fun earlier before => first.met (before.trans_lt (by decide))
  | iv =>
      obtain ⟨enabled, refused⟩ := Classical.not_imp.mp unmet
      have key : Met settings .key := first.met (by decide)
      obtain ⟨fault, wrong, unread⟩ := Cipher.exists_readBlock_eq_error refused .iv
      have failed := Cipher.ofHex_of_iv (key enabled) unread
      refine ⟨_, .iv wrong, ofSettings_of_ofHex ?_ enabled failed⟩
      exact fun earlier before => first.met (before.trans_lt (by decide))

theorem ofSettings_eq_error_iff : (ofSettings settings).outcome = .error error ↔
    ∃ requirement, IsFirstUnmet settings requirement ∧ Reports settings requirement error := by
  constructor
  · intro failed
    cases met_or_exists_isFirstUnmet settings with
    | inl met =>
        obtain ⟨holder, accepted⟩ := exists_ofSettings_of_met met
        rw [failed] at accepted
        cases accepted
    | inr unmet =>
        obtain ⟨requirement, first⟩ := unmet
        obtain ⟨reported, reports, refused⟩ := exists_ofSettings_eq_error first
        rw [failed] at refused
        cases refused
        exact ⟨requirement, first, reports⟩
  · intro unmet
    obtain ⟨requirement, first, reports⟩ := unmet
    obtain ⟨reported, others, refused⟩ := exists_ofSettings_eq_error first
    rw [refused, reports.unique others]

theorem exists_ofSettings_iff : (∃ holder, (ofSettings settings).outcome = .ok holder) ↔
    ∀ requirement : Requirement, requirement.Met settings := by
  refine ⟨fun accepted => ?_, exists_ofSettings_of_met⟩
  obtain ⟨holder, accepted⟩ := accepted
  cases met_or_exists_isFirstUnmet settings with
  | inl met => exact met
  | inr unmet =>
      obtain ⟨requirement, first⟩ := unmet
      obtain ⟨reported, _, refused⟩ := exists_ofSettings_eq_error first
      rw [accepted] at refused
      cases refused

theorem met_default : ∀ requirement : Requirement, requirement.Met {} :=
  exists_ofSettings_iff.mp ⟨_, ofSettings_default⟩

/-- The spelling of the key material decides nothing. -/
theorem cipherKey_of_sameDigits {encryption other : EncryptionSettings}
    {cipherKey : Option Cipher.CipherKey} (enabled : other.enabled = encryption.enabled)
    (key : Cipher.SameDigits encryption.key other.key)
    (iv : Cipher.SameDigits encryption.iv other.iv) (keyed : encryption.cipherKey = .ok cipherKey) :
    other.cipherKey = .ok cipherKey := by
  rw [EncryptionSettings.cipherKey] at keyed
  rw [EncryptionSettings.cipherKey, enabled]
  by_cases on : encryption.enabled = true
  · rw [if_pos on] at keyed ⊢
    obtain ⟨read, made, same⟩ := map_eq_ok_iff.mp keyed
    obtain ⟨keyRead, ivRead⟩ := Cipher.ofHex_eq_ok_iff.mp made
    have again : Cipher.CipherKey.ofHex other.key other.iv = .ok read :=
      Cipher.ofHex_eq_ok_iff.mpr ⟨key.readBlock keyRead, iv.readBlock ivRead⟩
    exact map_eq_ok_iff.mpr ⟨read, again, same⟩
  · rw [if_neg on] at keyed ⊢
    exact keyed

/-- Settings are accepted exactly if they meet every requirement, and kept as they are. Other
settings that spell the same digits in another way have the same cipher key, if they are fit
otherwise. Of the requirements that are not met, the first one is reported. -/
theorem ofSettings_accepts (settings : Settings) :
    ((∃ holder, (ofSettings settings).outcome = .ok holder) ↔
      ∀ requirement : Requirement, requirement.Met settings) ∧
    (∀ holder, (ofSettings settings).outcome = .ok holder →
      holder.settings = settings ∧ holder.basePath = "" ∧
      ∀ other : Settings,
        other.payload.encryption.enabled = settings.payload.encryption.enabled →
        Cipher.SameDigits settings.payload.encryption.key other.payload.encryption.key →
        Cipher.SameDigits settings.payload.encryption.iv other.payload.encryption.iv →
        (∀ requirement : Requirement, requirement ≠ .key → requirement ≠ .iv →
          requirement.Met other) →
        ∃ otherHolder, (ofSettings other).outcome = .ok otherHolder ∧
          otherHolder.cipherKey = holder.cipherKey) ∧
    ∀ error, (ofSettings settings).outcome = .error error ↔
      ∃ requirement, IsFirstUnmet settings requirement ∧ Reports settings requirement error := by
  refine ⟨exists_ofSettings_iff, fun holder accepted => ?_, fun error => ofSettings_eq_error_iff⟩
  obtain ⟨_, _, cipherKey, _, keyed, rfl⟩ := ofSettings_eq_ok_iff.mp accepted
  refine ⟨rfl, rfl, fun other enabled key iv met => ?_⟩
  have ranges := Settings.checkRanges_of_met fun requirement before =>
    met requirement (by rintro rfl; exact absurd before (by decide))
      (by rintro rfl; exact absurd before (by decide))
  obtain ⟨table, made⟩ := met .registers (by decide) (by decide)
  exact ⟨_, ofSettings_eq_ok_iff.mpr
    ⟨ranges, table, cipherKey, made, cipherKey_of_sameDigits enabled key iv keyed, rfl⟩, rfl⟩

/-- A key in two spellings; and settings at fault in a width, in their registers and in the key. -/
theorem ofSettings_accepts_spellings :
    let keyed (key : String) : Settings :=
      { payload := { encryption := ⟨true, key, "0123456789abcdef0123456789ABCDEF"⟩ } }
    let faulty : Settings :=
      { payload := { maskWidths := { scale := 65 }, encryption := ⟨true, "2B", ""⟩ },
        registers := [] }
    (∃ holder other,
      (ofSettings (keyed "2b2b2B2B2b2b2b2b2b2b2b2b2b2b2b2B")).outcome = .ok holder ∧
      (ofSettings (keyed "\u3000 2B2B2B2B2B2B2B2B2B2B2B2B2B2B2B2B\n")).outcome = .ok other ∧
      other.cipherKey = holder.cipherKey) ∧
    (ofSettings faulty).outcome = .error (.invalid (.maskWidth "scale" 65)) := by
  intro keyed faulty
  have vector : Cipher.IsBlockText "0123456789abcdef0123456789ABCDEF" := by decide +kernel
  have met (key : String) (written : Cipher.IsBlockText key) (requirement : Requirement) :
      requirement.Met (keyed key) := by
    cases requirement with
    | key => exact fun _ => written
    | iv => exact fun _ => vector
    | chunkLength => exact met_default .chunkLength
    | width part => exact met_default (.width part)
    | dataBits => exact met_default .dataBits
    | stopBits => exact met_default .stopBits
    | registers => exact met_default .registers
  obtain ⟨accepts, keeps, _⟩ :=
    ofSettings_accepts (keyed "2b2b2B2B2b2b2b2b2b2b2b2b2b2b2b2B")
  obtain ⟨holder, accepted⟩ := accepts.mpr (met _ (by decide +kernel))
  obtain ⟨_, _, respelled⟩ := keeps holder accepted
  obtain ⟨other, also, same⟩ := respelled (keyed "\u3000 2B2B2B2B2B2B2B2B2B2B2B2B2B2B2B2B\n")
    rfl (by decide +kernel) rfl fun requirement _ _ => met _ (by decide +kernel) requirement
  obtain ⟨_, _, reports⟩ := ofSettings_accepts faulty
  refine ⟨⟨holder, other, accepted, also, same⟩, (reports _).mpr ⟨.width .scale, ?_, .width .scale⟩⟩
  refine ⟨[.chunkLength, .width .energy, .width .instantaneous], _, rfl, ?_, ?_⟩
  · simp only [List.forall_mem_cons]
    exact ⟨met_default .chunkLength, met_default (.width .energy),
      met_default (.width .instantaneous), List.forall_mem_nil _⟩
  · exact fun range => absurd range.2 (by decide)

end Holder

end MeterUplink
