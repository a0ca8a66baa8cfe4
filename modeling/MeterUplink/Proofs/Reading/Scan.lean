import MeterUplink.Proofs.FirstFault
import MeterUplink.Proofs.RegisterTable
import MeterUplink.Reading.Extraction

namespace MeterUplink.ReadingSet

/-! The scan of a log: which of its lines is the first at fault, and what has been found if none
is. A line that announces no register is never at fault. -/

/-- One of the lines announces the register of the definition. -/
def Repeats (table : RegisterTable) (lines : List String) (definition : Definition) : Prop :=
  ∃ line ∈ lines, ∃ other, table.Announces line other ∧ other.register = definition.register

/-- What is wrong with a line that stands behind others. That its register was announced before
counts first. -/
inductive LineFault (table : RegisterTable) (before : List String) (line : String) :
    ExtractError → Prop where
  | repeated {definition : Definition} (announced : table.Announces line definition)
      (again : Repeats table before definition) :
      LineFault table before line (.duplicateRegister definition.marker definition.register)
  | short {definition : Definition} (announced : table.Announces line definition)
      (fresh : ¬ Repeats table before definition) (few : (RegisterLine.cut line).length < 5) :
      LineFault table before line (.malformedLine line definition.marker)

theorem forall_not_lineFault_iff {table : RegisterTable} {before : List String} {line : String} :
    (∀ error, ¬ LineFault table before line error) ↔
      ∀ definition, table.Announces line definition →
        ¬ Repeats table before definition ∧ ¬ (RegisterLine.cut line).length < 5 := by
  constructor
  · intro clean definition announced
    have fresh : ¬ Repeats table before definition :=
      fun again => clean _ (.repeated announced again)
    exact ⟨fresh, fun few => clean _ (.short announced fresh few)⟩
  · intro clean error fault
    cases fault with
    | repeated announced again => exact (clean _ announced).1 again
    | short announced _ few => exact (clean _ announced).2 few

/-- No line of the log is at fault. -/
def Faultless (table : RegisterTable) (lines : List String) : Prop :=
  ∀ before line after, lines = before ++ line :: after → ∀ error,
    ¬ LineFault table before line error

/-- What stands under each register after the lines were scanned. -/
def Found (table : RegisterTable) (lines : List String) (found : ByRegister RegisterLine) :
    Prop :=
  ∀ register parsed, found.get? register = some parsed ↔
    ∃ line ∈ lines, ∃ definition, table.Announces line definition ∧
      definition.register = register ∧
      parsed = ⟨definition.marker, register, RegisterLine.cut line⟩

variable {table : RegisterTable}

theorem faultless_nil : Faultless table [] := eachFits_nil

theorem faultless_snoc_iff {lines : List String} {line : String} :
    Faultless table (lines ++ [line]) ↔
      Faultless table lines ∧ ∀ error, ¬ LineFault table lines line error :=
  eachFits_snoc_iff

theorem faultless_or_exists_fault (lines : List String) :
    Faultless table lines ∨
      ∃ before line after error, lines = before ++ line :: after ∧
        Faultless table before ∧ LineFault table before line error := by
  rcases eachFits_or_exists_first (fun before line => ∀ error, ¬ LineFault table before line error)
    lines with faultless | ⟨before, line, after, split, earlier, fault⟩
  · exact .inl faultless
  · obtain ⟨error, fault⟩ := Classical.not_forall_not.mp fault
    exact .inr ⟨before, line, after, error, split, earlier, fault⟩

theorem found_empty : Found table [] ∅ := by
  intro register parsed
  simp

theorem Found.contains_iff {lines : List String} {found : ByRegister RegisterLine}
    (scanned : Found table lines found) {definition : Definition} :
    found.contains definition.register = true ↔ Repeats table lines definition := by
  rw [ByRegister.contains, Option.isSome_iff_exists]
  constructor
  · rintro ⟨parsed, stored⟩
    obtain ⟨line, member, other, announced, same, _⟩ := (scanned _ _).mp stored
    exact ⟨line, member, other, announced, same⟩
  · rintro ⟨line, member, other, announced, same⟩
    exact ⟨_, (scanned _ _).mpr ⟨line, member, other, announced, same, rfl⟩⟩

theorem Found.skip {lines : List String} {found : ByRegister RegisterLine} {line : String}
    (scanned : Found table lines found) (silent : table.match? line = none) :
    Found table (lines ++ [line]) found := by
  intro register parsed
  rw [scanned register parsed]
  constructor
  · rintro ⟨other, member, rest⟩
    exact ⟨other, List.mem_append_left [line] member, rest⟩
  · rintro ⟨other, member, definition, announced, rest⟩
    rcases List.mem_append.mp member with among | last
    · exact ⟨other, among, definition, announced, rest⟩
    · obtain rfl := List.mem_singleton.mp last
      rw [RegisterTable.match?_eq_some_iff.mpr announced] at silent
      cases silent

theorem Found.insert {lines : List String} {found : ByRegister RegisterLine} {line : String}
    {definition : Definition} (scanned : Found table lines found)
    (announced : table.Announces line definition) (fresh : ¬ Repeats table lines definition) :
    Found table (lines ++ [line]) (found.insert definition.register
      ⟨definition.marker, definition.register, RegisterLine.cut line⟩) := by
  intro register parsed
  rw [ByRegister.get?_insert]
  by_cases here : register = definition.register
  · subst here
    rw [if_pos rfl, Option.some.injEq]
    constructor
    · rintro rfl
      exact ⟨line, by simp, definition, announced, rfl, rfl⟩
    · rintro ⟨other, member, definition', announced', same, rfl⟩
      rcases List.mem_append.mp member with among | last
      · exact absurd ⟨other, among, definition', announced', same⟩ fresh
      · obtain rfl := List.mem_singleton.mp last
        rw [announced.unique announced']
  · rw [if_neg here, scanned register parsed]
    constructor
    · rintro ⟨other, member, rest⟩
      exact ⟨other, List.mem_append_left [line] member, rest⟩
    · rintro ⟨other, member, definition', announced', same, rest⟩
      rcases List.mem_append.mp member with among | last
      · exact ⟨other, among, definition', announced', same, rest⟩
      · obtain rfl := List.mem_singleton.mp last
        rw [announced.unique announced'] at here
        exact absurd same.symm here

theorem gather_silent {found : ByRegister RegisterLine} {line : String} {rest : List String}
    (silent : table.match? line = none) :
    gather table found (line :: rest) = gather table found rest := by
  rw [gather, silent]

theorem gather_repeated {found : ByRegister RegisterLine} {line : String} {rest : List String}
    {definition : Definition} (matched : table.match? line = some definition)
    (again : found.contains definition.register = true) :
    gather table found (line :: rest) =
      .fail (.duplicateRegister definition.marker definition.register) := by
  rw [gather, matched]
  exact if_pos again

theorem gather_fresh {found : ByRegister RegisterLine} {line : String} {rest : List String}
    {definition : Definition} (matched : table.match? line = some definition)
    (fresh : ¬ found.contains definition.register = true) :
    gather table found (line :: rest) = (do
      let parsed ← RegisterLine.parse line definition
      gather table (found.insert definition.register parsed) rest) := by
  rw [gather, matched]
  exact if_neg fresh

theorem outcome_parse (line : String) (definition : Definition) :
    (RegisterLine.parse line definition).outcome = RegisterLine.ofLine? line definition := by
  rw [RegisterLine.parse, Journaled.outcome_bind, Journaled.outcome_ofExcept]
  cases RegisterLine.ofLine? line definition with
  | error e => rfl
  | ok parsed => rfl

/-- The scan goes through lines without fault and finds what they announce. -/
theorem gather_of_faultless {earlier rest : List String} {found : ByRegister RegisterLine}
    (scanned : Found table earlier found) (faultless : Faultless table (earlier ++ rest)) :
    ∃ all, (gather table found rest).outcome = .ok all ∧ Found table (earlier ++ rest) all := by
  -- Each line moves from the rest to the lines behind, which is what `Found` speaks of.
  induction rest generalizing earlier found with
  | nil =>
      rw [List.append_nil]
      exact ⟨found, rfl, scanned⟩
  | cons line rest ih =>
      have clean := faultless earlier line rest rfl
      rw [List.append_cons] at faultless ⊢
      cases matched : table.match? line with
      | none =>
          rw [gather_silent matched]
          exact ih (scanned.skip matched) faultless
      | some definition =>
          have announced := RegisterTable.match?_eq_some_iff.mp matched
          obtain ⟨fresh, enough⟩ := forall_not_lineFault_iff.mp clean definition announced
          have parsed : (RegisterLine.parse line definition).outcome =
              .ok ⟨definition.marker, definition.register, RegisterLine.cut line⟩ := by
            rw [outcome_parse]
            exact if_neg enough
          rw [gather_fresh matched (mt scanned.contains_iff.mp fresh),
            Journaled.outcome_bind_of_ok parsed]
          exact ih (scanned.insert announced fresh) faultless

/-- The scan ends at a line that is at fault. -/
theorem gather_of_fault {before : List String} {found : ByRegister RegisterLine} {line : String}
    {error : ExtractError} (scanned : Found table before found)
    (fault : LineFault table before line error) (after : List String) :
    (gather table found (line :: after)).outcome = .error error := by
  cases fault with
  | repeated announced again =>
      have matched := RegisterTable.match?_eq_some_iff.mpr announced
      rw [gather_repeated matched (scanned.contains_iff.mpr again)]
      rfl
  | short announced fresh few =>
      have matched := RegisterTable.match?_eq_some_iff.mpr announced
      rw [gather_fresh matched (mt scanned.contains_iff.mp fresh)]
      apply Journaled.outcome_bind_of_error
      rw [outcome_parse]
      exact if_pos few

theorem gather_append (found : ByRegister RegisterLine) (before after : List String) :
    (gather table found (before ++ after)).outcome =
      (gather table found before).outcome >>= fun scanned =>
        (gather table scanned after).outcome := by
  induction before generalizing found with
  | nil => rfl
  | cons line rest ih =>
      rw [List.cons_append]
      cases matched : table.match? line with
      | none => rw [gather_silent matched, gather_silent matched, ih]
      | some definition =>
          by_cases again : found.contains definition.register = true
          · rw [gather_repeated matched again, gather_repeated matched again]
            rfl
          · rw [gather_fresh matched again, gather_fresh matched again, Journaled.outcome_bind,
              Journaled.outcome_bind]
            cases (RegisterLine.parse line definition).outcome with
            | error e => rfl
            | ok parsed => exact ih _

theorem gather_of_first_fault {before after : List String} {line : String} {error : ExtractError}
    (faultless : Faultless table before) (fault : LineFault table before line error) :
    (gather table ∅ (before ++ line :: after)).outcome = .error error := by
  obtain ⟨found, scan, scanned⟩ := gather_of_faultless found_empty faultless
  rw [gather_append, scan]
  exact gather_of_fault scanned fault after

end MeterUplink.ReadingSet
