import MeterUplink.Proofs.RegisterTable.Acceptance

namespace MeterUplink.RegisterTable

/-! What is known of an accepted table, and which of its definitions a line announces. -/

theorem outcome_build (definitions : List Definition) :
    (build definitions).outcome = ofDefinitions? definitions := by
  rw [build, Journaled.outcome_bind, Journaled.outcome_ofExcept]
  cases ofDefinitions? definitions with
  | error e => rfl
  | ok table => rfl

/-- A table that maps every register, and none of them twice. -/
structure Complete (table : RegisterTable) : Prop where
  distinct : (table.definitions.map (·.register)).Nodup
  every : ∀ register, ∃ definition ∈ table.definitions, definition.register = register

/-- Markers in canonical form, with no marker and no register twice. -/
structure Canonical (definitions : List Definition) : Prop where
  valid : ∀ definition ∈ definitions, Marker.isValid definition.marker = true
  markers : (definitions.map (·.marker)).Nodup
  registers : (definitions.map (·.register)).Nodup

theorem canonical_of_unambiguous {definitions : List Definition}
    (unambiguous : Unambiguous definitions) :
    Canonical (definitions.map Definition.normalized) where
  valid := List.forall_mem_map.mpr fun definition member =>
    Marker.isValid_iff_isCanonical.mpr (unambiguous.valid definition member)
  markers := by
    rw [List.map_map]
    exact List.pairwise_map.mpr unambiguous.markers
  registers := by
    rw [map_register_normalized]
    exact unambiguous.distinct

theorem ofDefinitions?_eq_ok {definitions : List Definition} {table : RegisterTable}
    (made : ofDefinitions? definitions = .ok table) :
    Canonical table.definitions ∧ missing? table.definitions = none := by
  obtain ⟨unambiguous, rfl⟩ := ofDefinitions?_eq_ok_iff.mp made
  exact ⟨canonical_of_unambiguous unambiguous, missing?_eq_none (unambiguous_iff.mp unambiguous).2⟩

theorem complete_of_ofDefinitions? {definitions : List Definition} {table : RegisterTable}
    (made : ofDefinitions? definitions = .ok table) : table.Complete := by
  obtain ⟨unambiguous, rfl⟩ := ofDefinitions?_eq_ok_iff.mp made
  refine ⟨(canonical_of_unambiguous unambiguous).registers, fun register => ?_⟩
  obtain ⟨definition, member, rfl⟩ := (unambiguous_iff.mp unambiguous).2 register
  exact ⟨definition.normalized, List.mem_map_of_mem member, rfl⟩

/-- A table with one definition for each of the thirteen registers, under different markers that are
all written canonically. -/
structure Proper (table : RegisterTable) : Prop where
  count : table.definitions.length = 13
  registers : (table.definitions.map (·.register)).Perm Register.all
  markers : (table.definitions.map (·.marker)).Nodup
  canonical : ∀ definition ∈ table.definitions, Marker.IsCanonical definition.marker

theorem proper_of_ofDefinitions? {definitions : List Definition} {table : RegisterTable}
    (made : ofDefinitions? definitions = .ok table) : table.Proper := by
  have complete := complete_of_ofDefinitions? made
  have canonical := (ofDefinitions?_eq_ok made).1
  have registers : (table.definitions.map (·.register)).Perm Register.all := by
    refine (List.perm_ext_iff_of_nodup complete.distinct (by decide)).mpr fun register => ?_
    exact iff_of_true (List.mem_map.mpr (complete.every register)) (Register.mem_all register)
  have count := registers.length_eq
  rw [List.length_map] at count
  exact ⟨count, registers, canonical.markers, fun definition member =>
    Marker.isCanonical_of_isValid (canonical.valid definition member)⟩

/-- Definitions with a canonical marker for every register are a table as they stand. -/
theorem ofDefinitions?_of_canonical {definitions : List Definition}
    (canonical : Canonical definitions)
    (every : ∀ register, ∃ definition ∈ definitions, definition.register = register) :
    ofDefinitions? definitions = .ok ⟨definitions⟩ := by
  have normal (definition : Definition) (member : definition ∈ definitions) :
      Marker.normalize definition.marker = definition.marker :=
    Marker.normalize_of_isValid (canonical.valid definition member)
  have same : definitions.map Definition.normalized = definitions := by
    refine (List.map_congr_left fun definition member => ?_).trans (List.map_id definitions)
    rw [Definition.normalized, normal definition member, id]
  have valid (definition : Definition) (member : definition ∈ definitions) :
      Marker.IsCanonical (Marker.normalize definition.marker) := by
    rw [normal definition member]
    exact Marker.isCanonical_of_isValid (canonical.valid definition member)
  have markers : definitions.Pairwise fun first second =>
      Marker.normalize first.marker ≠ Marker.normalize second.marker := by
    refine (List.pairwise_map.mp canonical.markers).imp_of_mem fun first second apart => ?_
    rwa [normal _ first, normal _ second]
  have fit := eachFits_iff.mpr ⟨valid, markers, canonical.registers⟩
  rw [ofDefinitions?_of_unambiguous (unambiguous_iff.mpr ⟨fit, every⟩), same]

theorem ofDefinitions?_standard : ofDefinitions? standardDefinitions = .ok standard := by
  have every : ∀ register ∈ Register.all,
      ∃ definition ∈ standardDefinitions, definition.register = register := by decide
  exact ofDefinitions?_of_canonical ⟨by decide +kernel, by decide +kernel, by decide⟩
    fun register => every register (Register.mem_all register)

/-- The definition is the first of the table whose marker stands in the line. -/
def Announces (table : RegisterTable) (line : String) (definition : Definition) : Prop :=
  ∃ before after, table.definitions = before ++ definition :: after ∧
    definition.marker.toList <:+: line.toList ∧
    ∀ earlier ∈ before, ¬ earlier.marker.toList <:+: line.toList

variable {table : RegisterTable} {line : String} {definition other : Definition}

theorem match?_eq_some_iff :
    table.match? line = some definition ↔ table.Announces line definition := by
  rw [match?, List.find?_eq_some_iff_append, Text.occursIn_iff]
  constructor
  · rintro ⟨inside, before, after, split, absent⟩
    refine ⟨before, after, split, inside, fun earlier member occurs => ?_⟩
    have outside := absent earlier member
    rw [Text.occursIn_iff.mpr occurs] at outside
    cases outside
  · rintro ⟨before, after, split, inside, absent⟩
    refine ⟨inside, before, after, split, fun earlier member => ?_⟩
    rw [Bool.not_eq_true', ← Bool.not_eq_true, Text.occursIn_iff]
    exact absent earlier member

theorem Announces.unique (first : table.Announces line definition)
    (second : table.Announces line other) : definition = other := by
  rw [← match?_eq_some_iff] at first second
  exact Option.some.inj (first.symm.trans second)

theorem Announces.mem (announced : table.Announces line definition) :
    definition ∈ table.definitions := by
  obtain ⟨before, after, split, _⟩ := announced
  rw [split]
  exact List.mem_append_right before List.mem_cons_self

theorem Complete.eq_of_register (complete : table.Complete)
    (first : definition ∈ table.definitions) (second : other ∈ table.definitions)
    (same : definition.register = other.register) : definition = other :=
  List.inj_on_of_nodup_map complete.distinct first second same

end MeterUplink.RegisterTable
