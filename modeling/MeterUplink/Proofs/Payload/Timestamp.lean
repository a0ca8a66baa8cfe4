import Mathlib.Logic.Relation
import MeterUplink.Payload.Encoding

namespace MeterUplink

/-! What is sent of a timestamp. Blanks and separators say nothing, wherever they stand, and what is
cut off the end is counted among the characters that are left without them; so cutting twice is
cutting once. -/

/-- A character of a timestamp that is neither a blank nor a separator. -/
def Kept (separators : String) (c : Char) : Prop :=
  Text.isBlank c = false ∧ c ∉ separators.toList

instance (separators : String) : DecidablePred (Kept separators) := fun c =>
  inferInstanceAs (Decidable (Text.isBlank c = false ∧ c ∉ separators.toList))

/-- The second text is the first with one character more, a blank or a separator. -/
inductive Inserts (separators : String) : List Char → List Char → Prop where
  | silent {before after : List Char} {c : Char}
      (dropped : Text.isBlank c = true ∨ c ∈ separators.toList) :
      Inserts separators (before ++ after) (before ++ c :: after)

/-- Texts that differ by inserted and removed blanks and separators alone. -/
def KeptAlike (separators first second : String) : Prop :=
  Relation.EqvGen (Inserts separators) first.toList second.toList

section

variable {separators timestamp : String} {text other : List Char} {truncate : Nat}

theorem not_kept_iff {c : Char} :
    ¬ Kept separators c ↔ Text.isBlank c = true ∨ c ∈ separators.toList := by
  rw [Kept, Classical.not_and_iff_not_or_not, Bool.not_eq_false, Classical.not_not]

theorem filter_eq_of_eqvGen (alike : Relation.EqvGen (Inserts separators) text other) :
    text.filter (Kept separators ·) = other.filter (Kept separators ·) := by
  induction alike with
  | rel _ _ step =>
      cases step with
      | silent dropped => simp [List.filter_append, not_kept_iff.mpr dropped]
  | refl _ => rfl
  | symm _ _ _ ih => exact ih.symm
  | trans _ _ _ _ _ first second => exact first.trans second

theorem eqvGen_cons (c : Char) (alike : Relation.EqvGen (Inserts separators) text other) :
    Relation.EqvGen (Inserts separators) (c :: text) (c :: other) := by
  induction alike with
  | rel _ _ step =>
      cases step with
      | @silent before after _ dropped =>
          exact .rel _ _ (@Inserts.silent _ (c :: before) after _ dropped)
  | refl _ => exact .refl _
  | symm _ _ _ ih => exact .symm _ _ ih
  | trans _ _ _ _ _ first second => exact .trans _ _ _ first second

theorem eqvGen_filter (separators : String) (text : List Char) :
    Relation.EqvGen (Inserts separators) (text.filter (Kept separators ·)) text := by
  induction text with
  | nil => exact .refl _
  | cons c rest ih =>
      by_cases kept : Kept separators c
      · rw [List.filter_cons_of_pos (by simpa using kept)]
        exact eqvGen_cons c ih
      · rw [List.filter_cons_of_neg (by simpa using kept)]
        exact .trans _ _ _ ih (.rel _ _ (@Inserts.silent _ [] rest c (not_kept_iff.mp kept)))

theorem timestampCharacters_eq_filter (timestamp separators : String) :
    timestampCharacters timestamp separators = timestamp.toList.filter (Kept separators ·) := by
  refine List.filter_congr fun c _ => Bool.eq_iff_iff.mpr ?_
  rw [decide_eq_true_eq, Kept]
  simp

theorem keptAlike_iff {first second : String} :
    KeptAlike separators first second ↔
      timestampCharacters first separators = timestampCharacters second separators := by
  rw [timestampCharacters_eq_filter, timestampCharacters_eq_filter]
  refine ⟨filter_eq_of_eqvGen, fun same => ?_⟩
  have back := eqvGen_filter separators first.toList
  rw [same] at back
  exact .trans _ _ _ (.symm _ _ back) (eqvGen_filter separators second.toList)

theorem toList_normalizeTimestamp :
    (normalizeTimestamp timestamp separators truncate).toList =
      (timestampCharacters timestamp separators).take
        ((timestampCharacters timestamp separators).length - truncate) := by
  rw [normalizeTimestamp, String.toList_ofList]

theorem toList_normalizeTimestamp_zero :
    (normalizeTimestamp timestamp separators 0).toList =
      timestampCharacters timestamp separators := by
  rw [toList_normalizeTimestamp, Nat.sub_zero, List.take_length]

theorem kept_of_mem_normalizeTimestamp :
    ∀ c ∈ (normalizeTimestamp timestamp separators truncate).toList, Kept separators c := by
  intro c member
  rw [toList_normalizeTimestamp, timestampCharacters_eq_filter] at member
  simpa using (List.mem_filter.mp (List.mem_of_mem_take member)).2

theorem length_normalizeTimestamp :
    (normalizeTimestamp timestamp separators truncate).length =
      (timestampCharacters timestamp separators).length - truncate := by
  rw [← String.length_toList, toList_normalizeTimestamp, List.length_take]
  omega

/-- What was kept once is kept again. -/
theorem timestampCharacters_normalizeTimestamp :
    timestampCharacters (normalizeTimestamp timestamp separators truncate) separators =
      (normalizeTimestamp timestamp separators truncate).toList := by
  rw [timestampCharacters_eq_filter, List.filter_eq_self]
  intro c member
  simpa using kept_of_mem_normalizeTimestamp c member

theorem normalizeTimestamp_normalizeTimestamp (first second : Nat) :
    normalizeTimestamp (normalizeTimestamp timestamp separators first) separators second =
      normalizeTimestamp timestamp separators (first + second) := by
  rw [← String.toList_inj, toList_normalizeTimestamp, timestampCharacters_normalizeTimestamp,
    String.length_toList, length_normalizeTimestamp, toList_normalizeTimestamp,
    toList_normalizeTimestamp, List.take_take, Nat.sub_sub, Nat.min_eq_left (by omega)]

theorem normalizeTimestamp_eq_of_keptAlike {first second : String}
    (alike : KeptAlike separators first second) (truncate : Nat) :
    normalizeTimestamp first separators truncate =
      normalizeTimestamp second separators truncate := by
  rw [← String.toList_inj, toList_normalizeTimestamp, toList_normalizeTimestamp,
    keptAlike_iff.mp alike]

end

/-- What is sent of a timestamp is the beginning of what it has besides blanks and separators, as
long as the cut leaves it; two cuts are one cut, and one that is too long leaves nothing. Texts that
differ by blanks and separators alone, and no others, are normalized alike, and they lead to the same
payload. -/
theorem normalizeTimestamp_laws (separators : String) :
    (∀ (timestamp : String) (truncate : Nat),
      (∀ c ∈ (normalizeTimestamp timestamp separators truncate).toList,
        Text.isBlank c = false ∧ c ∉ separators.toList) ∧
      (normalizeTimestamp timestamp separators truncate).toList <+:
        (normalizeTimestamp timestamp separators 0).toList ∧
      (normalizeTimestamp timestamp separators 0).toList =
        timestamp.toList.filter (Kept separators ·) ∧
      (normalizeTimestamp timestamp separators truncate).length =
        (timestamp.toList.filter (Kept separators ·)).length - truncate) ∧
    (∀ (timestamp : String) (first second : Nat),
      normalizeTimestamp (normalizeTimestamp timestamp separators first) separators second =
        normalizeTimestamp timestamp separators (first + second)) ∧
    (∀ (timestamp : String) (truncate : Nat),
      normalizeTimestamp (normalizeTimestamp timestamp separators truncate) separators 0 =
        normalizeTimestamp timestamp separators truncate) ∧
    (∀ (timestamp : String) (truncate : Nat),
      (normalizeTimestamp timestamp separators 0).length ≤ truncate →
        normalizeTimestamp timestamp separators truncate = "") ∧
    (∀ first second : String, KeptAlike separators first second ↔
      ∀ truncate, normalizeTimestamp first separators truncate =
        normalizeTimestamp second separators truncate) ∧
    ∀ (readings : ReadingSet) (settings : PayloadSettings) (time : String),
      settings.timestampSeparators = separators →
      KeptAlike separators readings.timestamp time →
        ({ readings with timestamp := time } : ReadingSet).encode settings =
          readings.encode settings := by
  refine ⟨fun timestamp truncate => ⟨kept_of_mem_normalizeTimestamp, ?_, ?_, ?_⟩,
    fun timestamp => normalizeTimestamp_normalizeTimestamp,
    fun timestamp truncate => normalizeTimestamp_normalizeTimestamp truncate 0,
    fun timestamp truncate long => ?_,
    fun first second => ⟨normalizeTimestamp_eq_of_keptAlike, fun same => ?_⟩,
    fun readings settings time chosen alike => ?_⟩
  · rw [toList_normalizeTimestamp_zero, toList_normalizeTimestamp]
    exact List.take_prefix _ _
  · rw [toList_normalizeTimestamp_zero, timestampCharacters_eq_filter]
  · rw [length_normalizeTimestamp, timestampCharacters_eq_filter]
  · rw [length_normalizeTimestamp, Nat.sub_zero] at long
    rw [← String.toList_inj, toList_normalizeTimestamp, Nat.sub_eq_zero_of_le long, List.take_zero,
      String.toList_empty]
  · have kept := congrArg String.toList (same 0)
    rw [toList_normalizeTimestamp_zero, toList_normalizeTimestamp_zero] at kept
    exact keptAlike_iff.mpr kept
  · subst chosen
    rw [ReadingSet.encode, ReadingSet.encode, normalizeTimestamp_eq_of_keptAlike alike]

/-- A clock between colons, and the same digits between blanks; six of them are left, so a cut of
eight leaves none. -/
theorem normalizeTimestamp_laws_clock :
    let readings : ReadingSet := ⟨"17:10:05", ⟨fun _ => some ⟨⟨1⟩, ⟨0⟩⟩⟩, ∅⟩
    ({ readings with timestamp := "\u30001710 :05" } : ReadingSet).encode {} = readings.encode {} ∧
    (normalizeTimestamp "17:10:05" ":" 2).length = 4 ∧
    normalizeTimestamp (normalizeTimestamp "17:10:05" ":" 2) ":" 3 =
      normalizeTimestamp "17:10:05" ":" 5 ∧
    normalizeTimestamp "17:10:05" ":" 8 = "" := by
  intro readings
  obtain ⟨each, twice, _, long, _, encoded⟩ := normalizeTimestamp_laws ":"
  have alike : KeptAlike ":" "17:10:05" "\u30001710 :05" := keptAlike_iff.mpr (by decide +kernel)
  exact ⟨encoded readings {} _ rfl alike, (each _ 2).2.2.2.trans (by decide +kernel),
    twice _ 2 3, long _ 8 (by decide +kernel)⟩

end MeterUplink
