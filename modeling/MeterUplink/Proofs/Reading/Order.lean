import Mathlib.Data.List.Induction
import MeterUplink.Proofs.Reading.Extraction

namespace MeterUplink.ReadingSet

/-! The order of the lines. What the log as a whole decides does not depend on it; a fault of
one line can become a fault of another one. -/

/-- Outcomes that the log as a whole decides. -/
inductive Decided : Except ExtractError ReadingSet → Prop where
  | readings (readings : ReadingSet) : Decided (.ok readings)
  | missing (marker : String) (register : Register) :
      Decided (.error (.missingRegister marker register))
  | invalid (marker : String) (field : Nat) (value : String) :
      Decided (.error (.invalidNumber marker field value))

/-- Outcomes for which one line is to blame. -/
inductive Blamed : Except ExtractError ReadingSet → Prop where
  | malformed (line marker : String) : Blamed (.error (.malformedLine line marker))
  | duplicate (marker : String) (register : Register) :
      Blamed (.error (.duplicateRegister marker register))

theorem decided_or_blamed (outcome : Except ExtractError ReadingSet) :
    Decided outcome ∨ Blamed outcome := by
  cases outcome with
  | ok readings => exact .inl (.readings readings)
  | error e =>
      cases e with
      | missingRegister marker register => exact .inl (.missing marker register)
      | malformedLine line marker => exact .inr (.malformed line marker)
      | duplicateRegister marker register => exact .inr (.duplicate marker register)
      | invalidNumber marker field value => exact .inl (.invalid marker field value)

theorem Decided.not_blamed {outcome : Except ExtractError ReadingSet} (decided : Decided outcome) :
    ¬ Blamed outcome := by
  intro blamed
  cases decided <;> cases blamed

variable {table : RegisterTable} {lines shuffled : List String}

theorem LineFault.not_decided {before : List String} {line : String} {error : ExtractError}
    (fault : LineFault table before line error) : ¬ Decided (.error error) := by
  intro decided
  cases fault <;> cases decided

/-- Faults of a log without regard to the order: a short line, or two lines for one register. -/
theorem faultless_iff_pairwise :
    Faultless table lines ↔
      (∀ line ∈ lines, ∀ definition, table.Announces line definition →
        ¬ (RegisterLine.cut line).length < 5) ∧
      lines.Pairwise fun first second => ∀ definition other, table.Announces first definition →
        table.Announces second other → definition.register ≠ other.register := by
  -- From the end: a line is compared with all in front of it, and with nothing behind it.
  induction lines using List.reverseRecOn with
  | nil => simp [faultless_nil]
  | append_singleton lines line ih =>
      rw [faultless_snoc_iff, forall_not_lineFault_iff, ih, List.forall_mem_append,
        List.forall_mem_singleton, List.pairwise_append]
      constructor
      · rintro ⟨⟨long, apart⟩, clean⟩
        refine ⟨⟨long, fun definition here => (clean definition here).2⟩, apart,
          List.pairwise_singleton _ _, ?_⟩
        intro first member second last definition other before here same
        obtain rfl := List.mem_singleton.mp last
        exact (clean other here).1 ⟨first, member, definition, before, same⟩
      · rintro ⟨⟨long, longLast⟩, apart, _, apartLast⟩
        refine ⟨⟨long, apart⟩, fun definition here => ⟨?_, longLast definition here⟩⟩
        rintro ⟨first, member, other, before, same⟩
        exact apartLast first member line List.mem_cons_self other definition before here same

theorem Faultless.perm (same : lines.Perm shuffled) (faultless : Faultless table lines) :
    Faultless table shuffled := by
  rw [faultless_iff_pairwise] at faultless ⊢
  refine ⟨fun line member => faultless.1 line (same.mem_iff.mpr member), ?_⟩
  refine same.pairwise faultless.2 ?_
  intro first second apart definition other announced announced'
  exact (apart other definition announced' announced).symm

theorem matched_perm (same : lines.Perm shuffled) {definition : Definition} :
    Matched table lines definition ↔ Matched table shuffled definition := by
  simp only [Matched, same.mem_iff]

theorem hasField_perm (same : lines.Perm shuffled) {definition : Definition} {index : Nat}
    {raw : String} :
    HasField table lines definition index raw ↔ HasField table shuffled definition index raw := by
  simp only [HasField, same.mem_iff]

theorem hasNumber_perm (same : lines.Perm shuffled) {register : Register} {index : Nat}
    {n : Signed128} :
    HasNumber table lines register index n ↔ HasNumber table shuffled register index n := by
  simp only [HasNumber, hasField_perm same]

theorem Holds.perm (same : lines.Perm shuffled) {readings : ReadingSet}
    (holds : Holds table lines readings) : Holds table shuffled readings where
  stored := by simpa only [same.mem_iff] using holds.stored
  time := by simpa only [hasField_perm same] using holds.time
  numbers := by simpa only [hasNumber_perm same] using holds.numbers
  timeless := holds.timeless

theorem Extracts.perm (same : lines.Perm shuffled) {result : Except ExtractError ReadingSet}
    (extracts : Extracts table lines result) (decided : Decided result) :
    Extracts table shuffled result := by
  cases extracts with
  | fault _ _ fault => exact absurd decided fault.not_decided
  | missing faultless place matched absent =>
      refine .missing (faultless.perm same) place ?_ (mt (matched_perm same).mpr absent)
      exact fun earlier member => (matched_perm same).mp (matched earlier member)
  | invalid faultless all place numbers which field refused =>
      simp only [hasNumber_perm same] at numbers which
      refine .invalid (faultless.perm same) ?_ place numbers which ((hasField_perm same).mp field)
        refused
      exact fun definition member => (matched_perm same).mp (all definition member)
  | complete faultless all holds =>
      refine .complete (faultless.perm same) ?_ (holds.perm same)
      exact fun definition member => (matched_perm same).mp (all definition member)

theorem outcome_of_decided (complete : table.Complete) (same : lines.Perm shuffled)
    (decided : Decided (ofLines table lines).outcome) :
    (ofLines table shuffled).outcome = (ofLines table lines).outcome := by
  obtain ⟨result, extracts⟩ := exists_extracts complete lines
  rw [outcome_of_extracts complete extracts] at decided ⊢
  exact outcome_of_extracts complete (extracts.perm same decided)

/-- A log in another order gives the same readings, lacks the same register or has the same field
that is no number; or one line is to blame in either order. -/
theorem outcome_of_perm {definitions : List Definition}
    (made : RegisterTable.ofDefinitions? definitions = .ok table) (same : lines.Perm shuffled) :
    (Decided (ofLines table lines).outcome →
      (ofLines table shuffled).outcome = (ofLines table lines).outcome) ∧
    (Blamed (ofLines table lines).outcome → Blamed (ofLines table shuffled).outcome) := by
  have complete := RegisterTable.complete_of_ofDefinitions? made
  refine ⟨outcome_of_decided complete same, fun blamed => ?_⟩
  rcases decided_or_blamed (ofLines table shuffled).outcome with decided | shuffledBlamed
  · rw [← outcome_of_decided complete same.symm decided] at decided
    exact absurd blamed decided.not_blamed
  · exact shuffledBlamed

theorem blamed_of_swapped_lines :
    Blamed (ofLines .standard ["01 01 01 08 00 FF", "01 01 01 08 00 FF,,17,,3"]).outcome := by
  have swapped := List.Perm.swap "01 01 01 08 00 FF" "01 01 01 08 00 FF,,17,,3" []
  refine (outcome_of_perm RegisterTable.ofDefinitions?_standard swapped).2 ?_
  have repeated : (ofLines .standard
      ["01 01 01 08 00 FF,,17,,3", "01 01 01 08 00 FF"]).outcome =
        .error (.duplicateRegister "01 01 01 08 00 FF" .activeEnergyImported) := by
    refine map_eq_error_iff.mp (?_ : Except.map (fun _ => ()) _ = _)
    decide +kernel
  rw [repeated]
  exact .duplicate _ _

end MeterUplink.ReadingSet
