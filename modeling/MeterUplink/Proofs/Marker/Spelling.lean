import Mathlib.Data.Set.List
import MeterUplink.Proofs.Marker
import MeterUplink.Proofs.Numeral.HexDigits

namespace MeterUplink.Marker

/-! Markers as a code for six bytes. The bytes have one canonical text and many spellings, and every
spelling is normalized to the canonical text; so bytes and canonical texts are the same thing, and
the notation of a display tells them apart as well. -/

def upperDigit (value : Nat) : Char := (Nat.digitChar value).toUpper

/-- The two digits of a byte, in upper case. -/
def pairOf (byte : UInt8) : List Char :=
  [upperDigit (byte.toNat / 16), upperDigit (byte.toNat % 16)]

/-- The bytes with single spaces between them. -/
def canonical (bytes : List UInt8) : String :=
  String.ofList ([' '].intercalate (bytes.map pairOf))

/-- Pairs of digits in either case, with one blank or more between any two of them. -/
inductive Spells : List UInt8 → List Char → Prop where
  | last {byte : UInt8} {pair : List Char} (same : pair.map Char.toUpper = pairOf byte) :
      Spells [byte] pair
  | more {byte : UInt8} {pair gap rest : List Char} {bytes : List UInt8}
      (same : pair.map Char.toUpper = pairOf byte) (nonempty : gap ≠ [])
      (blank : ∀ c ∈ gap, Text.isBlank c = true) (later : Spells bytes rest) :
      Spells (byte :: bytes) (pair ++ (gap ++ rest))

theorem isUpperDigit_iff {c : Char} :
    isUpperDigit c = true ↔ ∃ value < 16, c = upperDigit value := by
  constructor
  · intro digit
    have below : c.toNat < 0x47 := Nat.lt_succ_of_le (visible_of_isUpperDigit digit).2
    exact Text.holds_of_codes (fun c => isUpperDigit c = true → ∃ value < 16, c = upperDigit value)
      (by decide +kernel) below digit
  · rintro ⟨value, small, rfl⟩
    revert value
    decide

theorem halves_lt (byte : UInt8) : byte.toNat / 16 < 16 ∧ byte.toNat % 16 < 16 := by
  have small : byte.toNat < 256 := byte.toNat_lt
  omega

theorem isPair_pairOf (byte : UInt8) : isPair (pairOf byte) = true := by
  obtain ⟨high, low⟩ := halves_lt byte
  exact isPair_iff.mpr
    ⟨_, _, rfl, isUpperDigit_iff.mpr ⟨_, high, rfl⟩, isUpperDigit_iff.mpr ⟨_, low, rfl⟩⟩

theorem exists_pairOf {pair : List Char} (valid : isPair pair = true) :
    ∃ byte, pairOf byte = pair := by
  obtain ⟨_, _, rfl, highDigit, lowDigit⟩ := isPair_iff.mp valid
  obtain ⟨high, highSmall, rfl⟩ := isUpperDigit_iff.mp highDigit
  obtain ⟨low, lowSmall, rfl⟩ := isUpperDigit_iff.mp lowDigit
  refine ⟨UInt8.ofNat (high * 16 + low), ?_⟩
  have whole : (UInt8.ofNat (high * 16 + low)).toNat = high * 16 + low := by
    rw [UInt8.toNat_ofNat', Nat.mod_eq_of_lt (by omega)]
  rw [pairOf, whole, show (high * 16 + low) / 16 = high by omega,
    show (high * 16 + low) % 16 = low by omega]

theorem space_not_mem_pair {pair : List Char} (valid : isPair pair = true) : ' ' ∉ pair := by
  obtain ⟨high, low, rfl, highDigit, lowDigit⟩ := isPair_iff.mp valid
  intro member
  rcases List.mem_pair.mp member with rfl | rfl
  · exact absurd highDigit (by decide)
  · exact absurd lowDigit (by decide)

theorem isValid_iff_isCanonical {marker : String} :
    isValid marker = true ↔ IsCanonical marker := by
  refine ⟨isCanonical_of_isValid, ?_⟩
  rintro ⟨pairs, joined, six, each⟩
  have valid : ∀ pair ∈ pairs, isPair pair = true := fun pair among =>
    isPair_iff.mpr (each pair among)
  have split : marker.toList.splitOn ' ' = pairs := by
    rw [joined, List.splitOn_intercalate]
    · exact fun pair among => space_not_mem_pair (valid pair among)
    · exact List.ne_nil_of_length_pos (by omega)
  simp only [isValid, split, six, beq_self_eq_true, Bool.true_and]
  exact List.all_eq_true.mpr valid

theorem isValid_iff_canonical {marker : String} :
    isValid marker = true ↔ ∃ bytes, bytes.length = 6 ∧ marker = canonical bytes := by
  constructor
  · intro valid
    obtain ⟨pairs, joined, six, each⟩ := exists_pairs_of_isValid valid
    obtain ⟨bytes, rfl⟩ : pairs ∈ Set.range (List.map pairOf) := by
      rw [Set.range_list_map]
      exact fun pair among => exists_pairOf (each pair among)
    rw [List.length_map] at six
    exact ⟨bytes, six, by rw [canonical, ← joined, String.ofList_toList]⟩
  · rintro ⟨bytes, six, rfl⟩
    refine isValid_iff_isCanonical.mpr
      ⟨bytes.map pairOf, String.toList_ofList, by rw [List.length_map, six], ?_⟩
    exact List.forall_mem_map.mpr fun byte _ => isPair_iff.mp (isPair_pairOf byte)

theorem filter_canonical (bytes : List UInt8) :
    (canonical bytes).toList.filter (· ≠ ' ') = bytes.flatMap pairOf := by
  have keep (byte : UInt8) : (pairOf byte).filter (· ≠ ' ') = pairOf byte := by
    refine List.filter_eq_self.mpr fun c member => decide_eq_true ?_
    rintro rfl
    exact space_not_mem_pair (isPair_pairOf byte) member
  rw [canonical, String.toList_ofList]
  induction bytes with
  | nil => rfl
  | cons byte rest ih =>
      cases rest with
      | nil => rw [List.map_singleton, List.intercalate_singleton, keep, List.flatMap_singleton]
      | cons next rest =>
          rw [List.map_cons, List.map_cons, List.intercalate_cons_cons, List.filter_append,
            List.filter_append, keep, ← List.map_cons, ih]
          rfl

theorem decode_canonical (bytes : List UInt8) :
    Hex.decode (String.ofList ((canonical bytes).toList.filter (· ≠ ' '))) = .ok bytes := by
  have lower : ∀ value < 16, (upperDigit value).toLower = Hex.digit value := by decide
  rw [filter_canonical, Hex.decode_eq_ok_iff, String.toList_ofList, List.map_flatMap, Hex.encode]
  congr 1
  funext byte
  obtain ⟨high, low⟩ := halves_lt byte
  simp only [pairOf, List.map_cons, List.map_nil, lower _ high, lower _ low]

theorem canonical_injective : Function.Injective canonical := by
  intro first second same
  have read := decode_canonical first
  rw [same, decode_canonical] at read
  exact (Except.ok.inj read).symm

variable {marker : String} {bytes : List UInt8} {front core back : List Char}

/-- Reading gives six bytes or nothing; a canonical text is never refused by the decoder. -/
theorem bytes?_eq_some_iff :
    bytes? marker = some bytes ↔ bytes.length = 6 ∧ normalize marker = canonical bytes := by
  rw [bytes?]
  split
  case isTrue valid =>
    obtain ⟨read, six, same⟩ := isValid_iff_canonical.mp valid
    rw [same, decode_canonical, canonical_injective.eq_iff]
    simp only [Except.toOption, Option.some.injEq]
    exact ⟨fun same => ⟨same ▸ six, same⟩, And.right⟩
  case isFalse invalid =>
    refine iff_of_false nofun ?_
    rintro ⟨six, same⟩
    exact invalid (isValid_iff_canonical.mpr ⟨bytes, six, same⟩)

theorem bytes?_eq_none_iff : bytes? marker = none ↔ isValid (normalize marker) = false := by
  constructor
  · intro unread
    rw [← Bool.not_eq_true, isValid_iff_canonical]
    rintro ⟨bytes, six, same⟩
    rw [bytes?_eq_some_iff.mpr ⟨six, same⟩] at unread
    cases unread
  · intro invalid
    rw [bytes?]
    simp only [invalid, Bool.false_eq_true, if_false]

/-! Every spelling is normalized to the canonical text. -/

theorem digits_of_pair {pair : List Char} {byte : UInt8}
    (same : pair.map Char.toUpper = pairOf byte) :
    ∀ c ∈ pair, c.toNat < 0x80 ∧ Text.isBlank c = false := by
  intro c member
  have digit : isUpperDigit c.toUpper = true := by
    obtain ⟨high, low, digits, highDigit, lowDigit⟩ := isPair_iff.mp (isPair_pairOf byte)
    have upper := List.mem_map_of_mem (f := Char.toUpper) member
    rw [same, digits] at upper
    rcases List.mem_pair.mp upper with upper | upper
    · rwa [upper]
    · rwa [upper]
  have upper : c.toUpper.toNat ≤ 0x46 := (visible_of_isUpperDigit digit).2
  have ascii := Text.ascii_of_toUpper (Nat.lt_of_le_of_lt upper (by decide))
  refine ⟨ascii, ?_⟩
  exact Text.holds_of_codes (fun c => isUpperDigit c.toUpper = true → Text.isBlank c = false)
    (by decide +kernel) ascii digit

theorem pair_ne_nil {pair : List Char} {byte : UInt8}
    (same : pair.map Char.toUpper = pairOf byte) : pair ≠ [] := by
  rintro rfl
  cases same

namespace Spells

theorem bytes_ne_nil (spelled : Spells bytes core) : bytes ≠ [] := by
  cases spelled with
  | last => exact List.cons_ne_nil _ _
  | more => exact List.cons_ne_nil _ _

theorem ne_nil (spelled : Spells bytes core) : core ≠ [] := by
  cases spelled with
  | last same => exact pair_ne_nil same
  | more same => exact List.append_ne_nil_of_left_ne_nil (pair_ne_nil same) _

theorem solid_first (spelled : Spells bytes core) : ∀ c ∈ core.head?, Text.isBlank c = false := by
  intro c first
  cases spelled with
  | last same => exact (digits_of_pair same c (List.mem_of_head? first)).2
  | more same =>
      rw [List.head?_append_of_ne_nil _ (pair_ne_nil same)] at first
      exact (digits_of_pair same c (List.mem_of_head? first)).2

theorem solid_last (spelled : Spells bytes core) :
    ∀ c ∈ core.getLast?, Text.isBlank c = false := by
  intro c last
  induction spelled with
  | last same => exact (digits_of_pair same c (List.mem_of_getLast? last)).2
  | more same nonempty blank later ih =>
      rw [List.getLast?_append_of_ne_nil _ (List.append_ne_nil_of_right_ne_nil _ later.ne_nil),
        List.getLast?_append_of_ne_nil _ later.ne_nil] at last
      exact ih last

theorem collapsed (spelled : Spells bytes core) :
    (∀ c ∈ Text.collapseBlanks core, c.toNat < 0x80) ∧
      (Text.collapseBlanks core).map Char.toUpper = (canonical bytes).toList := by
  induction spelled with
  | @last byte pair same =>
      have whole : Text.collapseBlanks pair = pair := by
        have alone : Text.collapseBlanks (pair ++ []) = pair ++ Text.collapseBlanks [] :=
          Text.collapseBlanks_append fun c member => (digits_of_pair same c member).2
        rwa [List.append_nil, Text.collapseBlanks, List.append_nil] at alone
      rw [whole, same, canonical, String.toList_ofList, List.map_singleton,
        List.intercalate_singleton]
      exact ⟨fun c member => (digits_of_pair same c member).1, rfl⟩
  | @more byte pair gap rest bytes same nonempty blank later ih =>
      obtain ⟨ascii, written⟩ := ih
      rw [Text.collapseBlanks_append fun c member => (digits_of_pair same c member).2,
        Text.collapseBlanks_gap nonempty blank later.solid_first]
      constructor
      · refine List.forall_mem_append.mpr ⟨fun c member => (digits_of_pair same c member).1, ?_⟩
        exact List.forall_mem_cons.mpr ⟨by decide, ascii⟩
      · have others : bytes.map pairOf ≠ [] := by simpa using later.bytes_ne_nil
        rw [List.map_append, same, List.map_cons, written, canonical, canonical,
          String.toList_ofList, String.toList_ofList, List.map_cons,
          List.intercalate_cons_of_ne_nil others, List.append_assoc]
        rfl

end Spells

theorem normalize_of_spells (spelled : Spells bytes core)
    (frontBlank : ∀ c ∈ front, Text.isBlank c = true)
    (backBlank : ∀ c ∈ back, Text.isBlank c = true) :
    normalize (String.ofList (front ++ core ++ back)) = canonical bytes := by
  obtain ⟨ascii, written⟩ := spelled.collapsed
  rw [normalize, String.toList_ofList,
    Text.trim_append_of_ends frontBlank spelled.solid_first spelled.solid_last backBlank,
    Text.upper_of_ascii ascii, written, String.ofList_toList]

theorem spells_canonical (nonempty : bytes ≠ []) : Spells bytes (canonical bytes).toList := by
  have upper (byte : UInt8) : (pairOf byte).map Char.toUpper = pairOf byte := by
    have digits : ∀ value < 16, (upperDigit value).toUpper = upperDigit value := by decide
    obtain ⟨high, low⟩ := halves_lt byte
    simp only [pairOf, List.map_cons, List.map_nil, digits _ high, digits _ low]
  rw [canonical, String.toList_ofList]
  induction bytes with
  | nil => exact absurd rfl nonempty
  | cons byte rest ih =>
      cases rest with
      | nil =>
          rw [List.map_singleton, List.intercalate_singleton]
          exact .last (upper byte)
      | cons next rest =>
          have later := ih (List.cons_ne_nil next rest)
          rw [List.map_cons, List.map_cons, List.intercalate_cons_cons, List.append_assoc]
          exact .more (upper byte) (List.cons_ne_nil _ _) (List.all_eq_true.mp (by decide)) later

/-- What is canonical already stays as it is. -/
theorem normalize_of_isValid (valid : isValid marker = true) : normalize marker = marker := by
  obtain ⟨bytes, six, rfl⟩ := isValid_iff_canonical.mp valid
  have spelled := spells_canonical (List.ne_nil_of_length_pos (l := bytes) (by omega))
  have same : normalize (String.ofList ([] ++ (canonical bytes).toList ++ [])) = canonical bytes :=
    normalize_of_spells spelled (by simp) (by simp)
  rwa [List.nil_append, List.append_nil, String.ofList_toList] at same

theorem reduced?_eq_some {text : String} (told : reduced? marker = some text) :
    ∃ a b c d e f, bytes? marker = some [a, b, c, d, e, f] ∧
      text.toList = Nat.toDigits 10 a.toNat ++ '-' :: (Nat.toDigits 10 b.toNat ++ ':' ::
        (Nat.toDigits 10 c.toNat ++ '.' :: (Nat.toDigits 10 d.toNat ++ '.' ::
          (Nat.toDigits 10 e.toNat ++ '*' :: Nat.toDigits 10 f.toNat)))) := by
  rw [reduced?] at told
  split at told
  · rename_i a b c d e f read
    rw [Option.some.injEq] at told
    refine ⟨a, b, c, d, e, f, read, ?_⟩
    simp only [← told, String.toList_append, Nat.toString_eq_repr, Nat.toList_repr,
      List.append_assoc]
    rfl
  · cases told

theorem reduced?_inj {first second text other : String} (told : reduced? first = some text)
    (otherTold : reduced? second = some other) :
    text = other ↔ normalize first = normalize second := by
  obtain ⟨a, b, c, d, e, f, read, written⟩ := reduced?_eq_some told
  obtain ⟨a', b', c', d', e', f', otherRead, otherWritten⟩ := reduced?_eq_some otherTold
  rw [(bytes?_eq_some_iff.mp read).2, (bytes?_eq_some_iff.mp otherRead).2,
    canonical_injective.eq_iff]
  constructor
  · rintro rfl
    rw [written] at otherWritten
    obtain ⟨sameA, rest⟩ := toDigits_append_cons_inj (by decide) otherWritten
    obtain ⟨sameB, rest⟩ := toDigits_append_cons_inj (by decide) rest
    obtain ⟨sameC, rest⟩ := toDigits_append_cons_inj (by decide) rest
    obtain ⟨sameD, rest⟩ := toDigits_append_cons_inj (by decide) rest
    obtain ⟨sameE, rest⟩ := toDigits_append_cons_inj (by decide) rest
    have sameF := toDigits_injective rest
    simp only [UInt8.toNat_inj] at sameA sameB sameC sameD sameE sameF
    rw [sameA, sameB, sameC, sameD, sameE, sameF]
  · intro same
    cases same
    exact String.toList_injective (written.trans otherWritten.symm)

theorem exists_reduced?_iff :
    (∃ text, reduced? marker = some text) ↔ ∃ bytes, bytes? marker = some bytes := by
  constructor
  · rintro ⟨text, told⟩
    obtain ⟨_, _, _, _, _, _, read, _⟩ := reduced?_eq_some told
    exact ⟨_, read⟩
  · rintro ⟨bytes, read⟩
    obtain ⟨six, _⟩ := bytes?_eq_some_iff.mp read
    match bytes, six with
    | [a, b, c, d, e, f], _ => exact ⟨_, by rw [reduced?, read]⟩

/-- A marker is read as six bytes exactly if it is normalized to their canonical text, which every
spelling of them is; it is refused exactly if what it is normalized to is not valid. Valid markers
are in normal form, and two markers are shown alike exactly if they are normalized alike. -/
theorem bytes?_iff_canonical :
    (∀ marker bytes, bytes? marker = some bytes ↔
      bytes.length = 6 ∧ normalize marker = canonical bytes) ∧
    (∀ marker, bytes? marker = none ↔ isValid (normalize marker) = false) ∧
    (∀ bytes front core back, bytes.length = 6 → (∀ c ∈ front, Text.isBlank c = true) →
      Spells bytes core → (∀ c ∈ back, Text.isBlank c = true) →
      bytes? (String.ofList (front ++ core ++ back)) = some bytes) ∧
    (∀ marker, isValid marker = true → normalize marker = marker) ∧
    (∀ marker, (∃ text, reduced? marker = some text) ↔ ∃ bytes, bytes? marker = some bytes) ∧
    ∀ first second text other, reduced? first = some text → reduced? second = some other →
      (text = other ↔ normalize first = normalize second) := by
  refine ⟨fun _ _ => bytes?_eq_some_iff, fun _ => bytes?_eq_none_iff, ?_,
    fun _ => normalize_of_isValid, fun _ => exists_reduced?_iff, fun _ _ _ _ => reduced?_inj⟩
  intro bytes front core back six frontBlank spelled backBlank
  exact bytes?_eq_some_iff.mpr ⟨six, normalize_of_spells spelled frontBlank backBlank⟩

/-- A marker in small letters between blanks of several kinds, and one that lacks a byte. -/
theorem bytes?_iff_canonical_loose :
    let loose := "\u3000 0d\t01 1f \u00a0 07 00 fF\n"
    bytes? loose = some [0x0D, 0x01, 0x1F, 0x07, 0x00, 0xFF] ∧
    normalize loose = "0D 01 1F 07 00 FF" ∧
    bytes? "0d 01 1f 07 00" = none ∧
    normalize "0D 01 1F 07 00 FF" = "0D 01 1F 07 00 FF" ∧
    ∃ text, reduced? loose = some text ∧ reduced? "0D 01 1F 07 00 FF" = some text := by
  intro loose
  have ⟨reads, refuses, spellings, keeps, shown, tells⟩ := bytes?_iff_canonical
  have last : Spells [0xFF] ['f', 'F'] := .last (by decide)
  have fifth := Spells.more (show ['0', '0'].map Char.toUpper = pairOf 0x00 by decide)
    (show [' '] ≠ [] by decide) (List.all_eq_true.mp (by decide)) last
  have fourth := Spells.more (show ['0', '7'].map Char.toUpper = pairOf 0x07 by decide)
    (show [' '] ≠ [] by decide) (List.all_eq_true.mp (by decide)) fifth
  have third := Spells.more (show ['1', 'f'].map Char.toUpper = pairOf 0x1F by decide)
    (show [' ', '\u00a0', ' '] ≠ [] by decide) (List.all_eq_true.mp (by decide)) fourth
  have second := Spells.more (show ['0', '1'].map Char.toUpper = pairOf 0x01 by decide)
    (show [' '] ≠ [] by decide) (List.all_eq_true.mp (by decide)) third
  have first := Spells.more (show ['0', 'd'].map Char.toUpper = pairOf 0x0D by decide)
    (show ['\t'] ≠ [] by decide) (List.all_eq_true.mp (by decide)) second
  have spelled : Spells _ "0d\t01 1f \u00a0 07 00 fF".toList := first
  have read := spellings _ "\u3000 ".toList _ "\n".toList rfl
    (List.all_eq_true.mp (by decide)) spelled (List.all_eq_true.mp (by decide))
  have text : String.ofList ("\u3000 ".toList ++ "0d\t01 1f \u00a0 07 00 fF".toList ++
      "\n".toList) = loose := by decide +kernel
  rw [text] at read
  have canonicalText : canonical [0x0D, 0x01, 0x1F, 0x07, 0x00, 0xFF] = "0D 01 1F 07 00 FF" := by
    decide +kernel
  have normal := ((reads loose _).mp read).2.trans canonicalText
  have kept := keeps "0D 01 1F 07 00 FF" (by decide +kernel)
  obtain ⟨display, told⟩ := (shown loose).mpr ⟨_, read⟩
  obtain ⟨other, otherTold⟩ := (shown "0D 01 1F 07 00 FF").mpr
    ⟨_, (reads _ _).mpr ⟨rfl, kept.trans canonicalText.symm⟩⟩
  obtain rfl := (tells _ _ _ _ told otherTold).mpr (normal.trans kept.symm)
  exact ⟨read, normal, (refuses _).mpr (by decide +kernel), kept, display, told, otherTold⟩

end MeterUplink.Marker
