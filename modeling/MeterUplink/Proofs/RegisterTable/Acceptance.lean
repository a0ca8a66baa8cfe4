import Mathlib.Data.List.Nodup
import MeterUplink.Proofs.FirstFault
import MeterUplink.Proofs.Marker.Spelling
import MeterUplink.RegisterTable

namespace MeterUplink

/-- The definition with its marker in normal form. -/
def Definition.normalized (definition : Definition) : Definition :=
  ⟨Marker.normalize definition.marker, definition.register⟩

@[simp] theorem Definition.normalized_marker (definition : Definition) :
    definition.normalized.marker = Marker.normalize definition.marker := rfl

@[simp] theorem Definition.normalized_register (definition : Definition) :
    definition.normalized.register = definition.register := rfl

namespace RegisterTable

/-! Which lists of definitions are tables, which table they are, and what is said about the others:
the first definition at fault is reported, and a register without a definition only if there is no
such fault. -/

/-- Each register once, under canonical markers that differ in more than blanks and case. -/
structure Unambiguous (definitions : List Definition) : Prop where
  valid : ∀ definition ∈ definitions, Marker.IsCanonical (Marker.normalize definition.marker)
  markers : definitions.Pairwise fun first second =>
    Marker.normalize first.marker ≠ Marker.normalize second.marker
  registers : ∀ register, (definitions.map (·.register)).count register = 1

/-- The marker stands for a register already, be it in another spelling. -/
def MarkerUsed (earlier : List Definition) (definition : Definition) : Prop :=
  ∃ other ∈ earlier, Marker.normalize other.marker = Marker.normalize definition.marker

def RegisterUsed (earlier : List Definition) (definition : Definition) : Prop :=
  ∃ other ∈ earlier, other.register = definition.register

/-- What is wrong with a definition behind others. Its marker counts before its register. -/
inductive Fault (earlier : List Definition) (definition : Definition) : TableError → Prop where
  | invalidMarker (invalid : ¬ Marker.IsCanonical (Marker.normalize definition.marker)) :
      Fault earlier definition (.invalidMarker definition.marker)
  | duplicateMarker (valid : Marker.IsCanonical (Marker.normalize definition.marker))
      (used : MarkerUsed earlier definition) :
      Fault earlier definition (.duplicateMarker (Marker.normalize definition.marker))
  | duplicateRegister (valid : Marker.IsCanonical (Marker.normalize definition.marker))
      (fresh : ¬ MarkerUsed earlier definition) (used : RegisterUsed earlier definition) :
      Fault earlier definition (.duplicateRegister definition.register)

def Fits (earlier : List Definition) (definition : Definition) : Prop :=
  ∀ error, ¬ Fault earlier definition error

/-- Why a list of definitions is refused. -/
inductive Refused (definitions : List Definition) : TableError → Prop where
  | fault {before after : List Definition} {definition : Definition} {error : TableError}
      (place : definitions = before ++ definition :: after) (earlier : EachFits Fits before)
      (fault : Fault before definition error) : Refused definitions error
  | missing {before after : List Register} {register : Register}
      (fit : EachFits Fits definitions) (place : Register.all = before ++ register :: after)
      (mapped : ∀ earlier ∈ before, ∃ definition ∈ definitions, definition.register = earlier)
      (absent : ∀ definition ∈ definitions, definition.register ≠ register) :
      Refused definitions (.missingRegister register)

variable {earlier definitions : List Definition} {definition : Definition} {error : TableError}

theorem fits_iff : Fits earlier definition ↔
    Marker.IsCanonical (Marker.normalize definition.marker) ∧ ¬ MarkerUsed earlier definition ∧
      ¬ RegisterUsed earlier definition := by
  constructor
  · intro clean
    have valid := Classical.byContradiction fun invalid => clean _ (.invalidMarker invalid)
    have fresh : ¬ MarkerUsed earlier definition := fun used =>
      clean _ (.duplicateMarker valid used)
    exact ⟨valid, fresh, fun used => clean _ (.duplicateRegister valid fresh used)⟩
  · rintro ⟨valid, fresh, unused⟩ error fault
    cases fault with
    | invalidMarker invalid => exact invalid valid
    | duplicateMarker _ used => exact fresh used
    | duplicateRegister _ _ used => exact unused used

theorem map_register_normalized (definitions : List Definition) :
    (definitions.map Definition.normalized).map (·.register) = definitions.map (·.register) := by
  simp only [List.map_map, Function.comp_def, Definition.normalized_register]

/-! One definition, then all of them. The definitions accepted before are kept in normal form. -/

theorem any_marker_iff : (earlier.map Definition.normalized).any
    (·.marker == Marker.normalize definition.marker) = true ↔ MarkerUsed earlier definition := by
  simp [MarkerUsed]

theorem any_register_iff : (earlier.map Definition.normalized).any
    (·.register == definition.register) = true ↔ RegisterUsed earlier definition := by
  simp [RegisterUsed]

theorem accept_of_fits (fits : Fits earlier definition) :
    accept (earlier.map Definition.normalized) definition = .ok definition.normalized := by
  obtain ⟨valid, fresh, unused⟩ := fits_iff.mp fits
  rw [← Marker.isValid_iff_isCanonical] at valid
  rw [← any_marker_iff] at fresh
  rw [← any_register_iff] at unused
  simp only [accept, valid, fresh, unused, Bool.not_true, Bool.false_eq_true, if_false]
  rfl

theorem accept_of_fault (fault : Fault earlier definition error) :
    accept (earlier.map Definition.normalized) definition = .error error := by
  cases fault with
  | invalidMarker invalid =>
      rw [← Marker.isValid_iff_isCanonical, Bool.not_eq_true] at invalid
      simp only [accept, invalid, Bool.not_false, if_true]
  | duplicateMarker valid used =>
      rw [← Marker.isValid_iff_isCanonical] at valid
      rw [← any_marker_iff] at used
      simp only [accept, valid, used, Bool.not_true, Bool.false_eq_true, if_false, if_true]
  | duplicateRegister valid fresh used =>
      rw [← Marker.isValid_iff_isCanonical] at valid
      rw [← any_marker_iff] at fresh
      rw [← any_register_iff] at used
      simp only [accept, valid, fresh, used, Bool.not_true, Bool.false_eq_true, if_false, if_true]

theorem acceptAll_append {front : List Definition} (fit : EachFits Fits (earlier ++ front))
    (rest : List Definition) :
    acceptAll (earlier.map Definition.normalized) (front ++ rest) =
      acceptAll ((earlier ++ front).map Definition.normalized) rest := by
  induction front generalizing earlier with
  | nil => rw [List.nil_append, List.append_nil]
  | cons definition front ih =>
      have accepted := accept_of_fits (fit earlier definition front rfl)
      have split : earlier ++ definition :: front = earlier ++ [definition] ++ front := by simp
      rw [split] at fit ⊢
      rw [List.cons_append, acceptAll, accepted, ← ih fit, List.map_append, List.map_singleton]
      rfl

theorem acceptAll_nil_append {front : List Definition} (fit : EachFits Fits front)
    (rest : List Definition) :
    acceptAll [] (front ++ rest) = acceptAll (front.map Definition.normalized) rest :=
  @acceptAll_append [] front fit rest

theorem acceptAll_of_fit (fit : EachFits Fits definitions) :
    acceptAll [] definitions = .ok (definitions.map Definition.normalized) := by
  have all := acceptAll_nil_append fit []
  rwa [List.append_nil] at all

theorem acceptAll_of_fault {before after : List Definition} (earlier : EachFits Fits before)
    (fault : Fault before definition error) :
    acceptAll [] (before ++ definition :: after) = .error error := by
  rw [acceptAll_nil_append earlier, acceptAll, accept_of_fault fault]
  rfl

theorem eachFits_iff : EachFits Fits definitions ↔
    (∀ definition ∈ definitions, Marker.IsCanonical (Marker.normalize definition.marker)) ∧
      (definitions.Pairwise fun first second =>
        Marker.normalize first.marker ≠ Marker.normalize second.marker) ∧
      (definitions.map (·.register)).Nodup := by
  -- from the end of the list, since a definition is judged by those before it
  induction definitions using List.reverseRecOn with
  | nil => exact iff_of_true eachFits_nil (by simp)
  | append_singleton earlier definition ih =>
      rw [eachFits_snoc_iff, ih, fits_iff, List.forall_mem_append, List.pairwise_append,
        List.map_append, List.nodup_append]
      constructor
      · rintro ⟨⟨valid, markers, distinct⟩, here, fresh, unused⟩
        refine ⟨⟨valid, List.forall_mem_singleton.mpr here⟩, ⟨markers, List.pairwise_singleton _ _,
          ?_⟩, distinct, List.nodup_singleton _, ?_⟩
        · exact fun other member last single same =>
            fresh ⟨other, member, List.mem_singleton.mp single ▸ same⟩
        · intro register member last single same
          obtain ⟨other, among, rfl⟩ := List.mem_map.mp member
          exact unused ⟨other, among, same.trans (List.mem_singleton.mp single)⟩
      · rintro ⟨⟨valid, here⟩, ⟨markers, _, apart⟩, distinct, _, new⟩
        refine ⟨⟨valid, markers, distinct⟩, here definition List.mem_cons_self, ?_, ?_⟩
        · rintro ⟨other, member, same⟩
          exact apart other member definition List.mem_cons_self same
        · rintro ⟨other, member, same⟩
          exact new _ (List.mem_map_of_mem member) _ List.mem_cons_self same

theorem unambiguous_iff : Unambiguous definitions ↔
    EachFits Fits definitions ∧
      ∀ register, ∃ definition ∈ definitions, definition.register = register := by
  rw [eachFits_iff]
  constructor
  · rintro ⟨valid, markers, registers⟩
    refine ⟨⟨valid, markers, ?_⟩, fun register => ?_⟩
    · exact List.nodup_iff_count_le_one.mpr fun register => (registers register).le
    · exact List.mem_map.mp (List.count_pos_iff.mp (by rw [registers register]; decide))
  · rintro ⟨⟨valid, markers, distinct⟩, every⟩
    exact ⟨valid, markers, fun register =>
      List.count_eq_one_of_mem distinct (List.mem_map.mpr (every register))⟩

theorem missing?_eq_some {before after : List Register} {register : Register}
    (place : Register.all = before ++ register :: after)
    (mapped : ∀ earlier ∈ before, ∃ definition ∈ definitions, definition.register = earlier)
    (absent : ∀ definition ∈ definitions, definition.register ≠ register) :
    missing? (definitions.map Definition.normalized) = some register := by
  rw [missing?, List.find?_eq_some_iff_append]
  refine ⟨?_, before, after, place, fun earlier member => ?_⟩
  · simpa using absent
  · simpa using mapped earlier member

theorem missing?_eq_none
    (every : ∀ register, ∃ definition ∈ definitions, definition.register = register) :
    missing? (definitions.map Definition.normalized) = none := by
  rw [missing?, List.find?_eq_none]
  intro register _
  simpa using every register

theorem ofDefinitions?_of_unambiguous (unambiguous : Unambiguous definitions) :
    ofDefinitions? definitions = .ok ⟨definitions.map Definition.normalized⟩ := by
  obtain ⟨fit, every⟩ := unambiguous_iff.mp unambiguous
  refine bind_eq_ok_iff.mpr ⟨_, acceptAll_of_fit fit, ?_⟩
  rw [missing?_eq_none every]

theorem ofDefinitions?_of_refused (refused : Refused definitions error) :
    ofDefinitions? definitions = .error error := by
  cases refused with
  | fault place earlier fault =>
      rw [ofDefinitions?, place, acceptAll_of_fault earlier fault]
      rfl
  | missing fit place mapped absent =>
      simp only [ofDefinitions?, acceptAll_of_fit fit, bind, Except.bind,
        missing?_eq_some place mapped absent]

theorem unambiguous_or_refused (definitions : List Definition) :
    Unambiguous definitions ∨ ∃ error, Refused definitions error := by
  rcases eachFits_or_exists_first Fits definitions with
    fit | ⟨before, definition, after, place, earlier, unfit⟩
  · rcases forall_or_exists_first_not
        (fun register => ∃ definition ∈ definitions, definition.register = register) Register.all
        with every | ⟨before, register, after, place, mapped, absent⟩
    · exact .inl (unambiguous_iff.mpr
        ⟨fit, fun register => every register (Register.mem_all register)⟩)
    · refine .inr ⟨_, .missing fit place mapped fun definition member same => ?_⟩
      exact absent ⟨definition, member, same⟩
  · obtain ⟨error, fault⟩ := Classical.not_forall_not.mp unfit
    exact .inr ⟨error, .fault place earlier fault⟩

theorem ofDefinitions?_eq_ok_iff {table : RegisterTable} :
    ofDefinitions? definitions = .ok table ↔
      Unambiguous definitions ∧ table = ⟨definitions.map Definition.normalized⟩ := by
  constructor
  · intro made
    rcases unambiguous_or_refused definitions with unambiguous | ⟨error, refused⟩
    · rw [ofDefinitions?_of_unambiguous unambiguous] at made
      exact ⟨unambiguous, (Except.ok.inj made).symm⟩
    · rw [ofDefinitions?_of_refused refused] at made
      cases made
  · rintro ⟨unambiguous, rfl⟩
    exact ofDefinitions?_of_unambiguous unambiguous

theorem ofDefinitions?_eq_error_iff :
    ofDefinitions? definitions = .error error ↔ Refused definitions error := by
  refine ⟨fun failed => ?_, ofDefinitions?_of_refused⟩
  rcases unambiguous_or_refused definitions with unambiguous | ⟨other, refused⟩
  · rw [ofDefinitions?_of_unambiguous unambiguous] at failed
    cases failed
  · rw [ofDefinitions?_of_refused refused] at failed
    cases failed
    exact refused

theorem Unambiguous.perm {permuted : List Definition} (unambiguous : Unambiguous definitions)
    (order : permuted.Perm definitions) : Unambiguous permuted where
  valid definition member := unambiguous.valid definition (order.mem_iff.mp member)
  markers := (order.pairwise_iff fun apart => apart.symm).mpr unambiguous.markers
  registers register := (order.map _).count_eq register ▸ unambiguous.registers register

theorem Unambiguous.distinct (unambiguous : Unambiguous definitions) :
    (definitions.map (·.register)).Nodup :=
  List.nodup_iff_count_le_one.mpr fun register => (unambiguous.registers register).le

theorem Unambiguous.normalize_normalize (unambiguous : Unambiguous definitions)
    (member : definition ∈ definitions) :
    Marker.normalize definition.normalized.marker = Marker.normalize definition.marker :=
  Marker.normalize_of_isValid (Marker.isValid_iff_isCanonical.mpr (unambiguous.valid _ member))

theorem Unambiguous.normalized (unambiguous : Unambiguous definitions) :
    Unambiguous (definitions.map Definition.normalized) where
  valid := by
    refine List.forall_mem_map.mpr fun definition member => ?_
    rw [unambiguous.normalize_normalize member]
    exact unambiguous.valid definition member
  markers := by
    refine List.pairwise_map.mpr (unambiguous.markers.imp_of_mem ?_)
    intro first second firstMember secondMember apart
    rwa [unambiguous.normalize_normalize firstMember, unambiguous.normalize_normalize secondMember]
  registers := by
    rw [map_register_normalized]
    exact unambiguous.registers

theorem Unambiguous.map_normalized (unambiguous : Unambiguous definitions) :
    (definitions.map Definition.normalized).map Definition.normalized =
      definitions.map Definition.normalized := by
  rw [List.map_map]
  refine List.map_congr_left fun definition member => ?_
  have same := unambiguous.normalize_normalize member
  simp only [Function.comp_apply, Definition.normalized] at same ⊢
  rw [same]

theorem Unambiguous.markerFor?_eq (unambiguous : Unambiguous definitions)
    (member : definition ∈ definitions) :
    markerFor? ⟨definitions.map Definition.normalized⟩ definition.register =
      some (Marker.normalize definition.marker) := by
  have distinct := unambiguous.distinct
  obtain ⟨before, after, rfl⟩ := List.append_of_mem member
  rw [markerFor?, Option.map_eq_some_iff]
  refine ⟨definition.normalized, ?_, rfl⟩
  rw [List.find?_eq_some_iff_append]
  refine ⟨by simp, before.map Definition.normalized, after.map Definition.normalized,
    by simp, List.forall_mem_map.mpr fun other among => ?_⟩
  rw [List.map_append, List.nodup_append] at distinct
  have apart := distinct.2.2 _ (List.mem_map_of_mem among) definition.register (by simp)
  simpa using apart

/-- A list of definitions is a table exactly if it is unambiguous. The table keeps the order and
knows each register by the marker given for it, in normal form; the order does not decide whether
there is a table, and the definitions of the table make the same table again. Otherwise the first
definition at fault is reported, or else the first register that has none. -/
theorem ofDefinitions?_iff_unambiguous (definitions : List Definition) :
    ((∃ table, ofDefinitions? definitions = .ok table) ↔ Unambiguous definitions) ∧
    (∀ table, ofDefinitions? definitions = .ok table →
      table.definitions = definitions.map Definition.normalized ∧
      (∀ register, ∃ definition ∈ definitions, definition.register = register ∧
        table.markerFor? register = some (Marker.normalize definition.marker)) ∧
      (∀ permuted : List Definition, permuted.Perm definitions →
        ∃ other, ofDefinitions? permuted = .ok other) ∧
      ofDefinitions? table.definitions = .ok table) ∧
    ∀ error, ofDefinitions? definitions = .error error ↔ Refused definitions error := by
  refine ⟨?_, fun table made => ?_, fun error => ofDefinitions?_eq_error_iff⟩
  · simp only [ofDefinitions?_eq_ok_iff, exists_and_left, exists_eq, and_true]
  · obtain ⟨unambiguous, rfl⟩ := ofDefinitions?_eq_ok_iff.mp made
    refine ⟨rfl, fun register => ?_, fun permuted order => ?_, ?_⟩
    · obtain ⟨definition, member, rfl⟩ := (unambiguous_iff.mp unambiguous).2 register
      exact ⟨definition, member, rfl, unambiguous.markerFor?_eq member⟩
    · exact ⟨_, ofDefinitions?_of_unambiguous (unambiguous.perm order)⟩
    · rw [ofDefinitions?_of_unambiguous unambiguous.normalized, unambiguous.map_normalized]

/-- The standard markers in small letters between blanks, in another order; and a definition that
repeats both a marker and a register, behind which a marker is invalid. -/
theorem ofDefinitions?_iff_unambiguous_loose :
    let loose := standardDefinitions.reverse.map fun definition =>
      ⟨String.ofList ('\u3000' :: definition.marker.toList.map Char.toLower ++ ['\n']),
        definition.register⟩
    let faulty := [⟨"01 01 01 08 00 FF", .timestamp⟩, ⟨" 01 01 01\t08 00 ff", .timestamp⟩,
      ⟨"01 01 01 08 00", .frequency⟩]
    Unambiguous loose ∧
    (∃ table, ofDefinitions? loose = .ok table ∧
      table.definitions = loose.map Definition.normalized ∧
      ofDefinitions? table.definitions = .ok table) ∧
    (∃ other, ofDefinitions? loose.reverse = .ok other) ∧
    Refused faulty (.duplicateMarker "01 01 01 08 00 FF") ∧
    Refused (loose.drop 2) (.missingRegister .currentL2) := by
  intro loose faulty
  have made : ofDefinitions? loose = .ok ⟨standardDefinitions.reverse⟩ := by decide +kernel
  obtain ⟨accepted, kept, _⟩ := ofDefinitions?_iff_unambiguous loose
  obtain ⟨normal, _, permuted, again⟩ := kept _ made
  obtain ⟨_, _, refused⟩ := ofDefinitions?_iff_unambiguous faulty
  obtain ⟨_, _, short⟩ := ofDefinitions?_iff_unambiguous (loose.drop 2)
  exact ⟨accepted.mp ⟨_, made⟩, ⟨_, made, normal, again⟩, permuted _ (List.reverse_perm loose),
    (refused _).mp (by decide +kernel), (short _).mp (by decide +kernel)⟩

end RegisterTable

end MeterUplink
