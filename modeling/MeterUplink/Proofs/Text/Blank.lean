import MeterUplink.Text.Blank

namespace MeterUplink.Text

/-! Blanks, and what becomes of them: trimming takes them off the two ends of a text, and nothing
else; within a text a run of them becomes one space. -/

theorem not_isBlank_of_visible {c : Char} (low : 0x21 ≤ c.toNat) (high : c.toNat ≤ 0x7E) :
    isBlank c = false := by
  simp only [isBlank, inRanges, blankRanges, CodeRange.contains, List.any_cons, List.any_nil,
    Bool.or_eq_false_iff, Bool.and_eq_false_iff, decide_eq_false_iff_not, and_true]
  omega

theorem not_isBlank_of_all {text : List Char} (visible : text.all (!isBlank ·) = true) :
    ∀ c ∈ text, isBlank c = false := by
  simpa only [List.all_eq_true, Bool.not_eq_true'] using visible

theorem exists_trimStart (text : List Char) :
    ∃ front, text = front ++ trimStart text ∧ ∀ c ∈ front, isBlank c = true := by
  refine ⟨text.takeWhile isBlank, List.takeWhile_append_dropWhile.symm, ?_⟩
  exact List.all_eq_true.mp List.all_takeWhile

theorem exists_trimEnd (text : List Char) :
    ∃ back, text = trimEnd text ++ back ∧ ∀ c ∈ back, isBlank c = true := by
  obtain ⟨back, split, blank⟩ := exists_trimStart text.reverse
  refine ⟨back.reverse, ?_, fun c member => blank c (List.mem_reverse.mp member)⟩
  rw [trimEnd, ← List.reverse_append, ← List.reverse_eq_iff]
  exact split

theorem exists_trim (text : List Char) :
    ∃ front back, text = front ++ trim text ++ back ∧
      (∀ c ∈ front, isBlank c = true) ∧ ∀ c ∈ back, isBlank c = true := by
  obtain ⟨front, start, frontBlank⟩ := exists_trimStart text
  obtain ⟨back, rest, backBlank⟩ := exists_trimEnd (trimStart text)
  refine ⟨front, back, ?_, frontBlank, backBlank⟩
  rw [List.append_assoc, trim, ← rest]
  exact start

variable {front core back : List Char}

theorem trimStart_append (blank : ∀ c ∈ front, isBlank c = true)
    (solid : ∀ c ∈ core.head?, isBlank c = false) : trimStart (front ++ core) = core := by
  rw [trimStart, List.dropWhile_append_of_pos blank]
  cases core with
  | nil => rfl
  | cons c rest =>
      have visible := solid c rfl
      rw [List.dropWhile_cons_of_neg (by simp [visible])]

theorem trimEnd_append (blank : ∀ c ∈ back, isBlank c = true)
    (solid : ∀ c ∈ core.getLast?, isBlank c = false) : trimEnd (core ++ back) = core := by
  have reversed : trimStart (back.reverse ++ core.reverse) = core.reverse := by
    apply trimStart_append
    · exact fun c member => blank c (List.mem_reverse.mp member)
    · rw [List.head?_reverse]
      exact solid
  rw [trimEnd, List.reverse_append, ← trimStart, reversed, List.reverse_reverse]

/-- Trimming takes off the blanks up to the first and the last character that is none. -/
theorem trim_append_of_ends (frontBlank : ∀ c ∈ front, isBlank c = true)
    (solidFirst : ∀ c ∈ core.head?, isBlank c = false)
    (solidLast : ∀ c ∈ core.getLast?, isBlank c = false)
    (backBlank : ∀ c ∈ back, isBlank c = true) : trim (front ++ core ++ back) = core := by
  cases core with
  | nil =>
      have blank : ∀ c ∈ front ++ back, isBlank c = true :=
        List.forall_mem_append.mpr ⟨frontBlank, backBlank⟩
      have nothing : trimStart (front ++ back ++ []) = [] := trimStart_append blank (by simp)
      rw [List.append_nil] at nothing
      rw [List.append_nil, trim, nothing]
      rfl
  | cons c rest =>
      rw [trim, List.append_assoc, trimStart_append frontBlank]
      · exact trimEnd_append backBlank solidLast
      · exact solidFirst

/-- Blanks around a text without blanks are what trimming takes off. -/
theorem trim_append (frontBlank : ∀ c ∈ front, isBlank c = true)
    (solid : ∀ c ∈ core, isBlank c = false) (backBlank : ∀ c ∈ back, isBlank c = true) :
    trim (front ++ core ++ back) = core :=
  trim_append_of_ends frontBlank (fun c first => solid c (List.mem_of_head? first))
    (fun c last => solid c (List.mem_of_getLast? last)) backBlank

theorem collapseBlanks_append {rest : List Char} (solid : ∀ c ∈ core, isBlank c = false) :
    collapseBlanks (core ++ rest) = core ++ collapseBlanks rest := by
  induction core with
  | nil => rfl
  | cons c core ih =>
      obtain ⟨here, others⟩ := List.forall_mem_cons.mp solid
      rw [List.cons_append, collapseBlanks, here, if_neg Bool.false_ne_true, ih others,
        List.cons_append]

theorem collapseBlanks_gap {gap rest : List Char} (nonempty : gap ≠ [])
    (blank : ∀ c ∈ gap, isBlank c = true) (solid : ∀ c ∈ rest.head?, isBlank c = false) :
    collapseBlanks (gap ++ rest) = ' ' :: collapseBlanks rest := by
  induction gap with
  | nil => exact absurd rfl nonempty
  | cons c gap ih =>
      obtain ⟨here, others⟩ := List.forall_mem_cons.mp blank
      rw [List.cons_append, collapseBlanks, if_pos here]
      cases gap with
      | cons d gap =>
          rw [ih (List.cons_ne_nil d gap) others]
          rfl
      | nil =>
          -- the last blank of the gap; what follows does not begin with a space
          cases rest with
          | nil => rfl
          | cons d rest =>
              have visible := solid d rfl
              rw [List.nil_append, collapseBlanks, visible, if_neg Bool.false_ne_true]
              split
              · rename_i same
                cases same
                exact absurd visible (by decide)
              · rfl

/-- A blank between two characters that are none stands nowhere in a text that has blanks only at
its ends. -/
theorem not_infix_of_padded {x gap y : Char} (frontBlank : ∀ c ∈ front, isBlank c = true)
    (solid : ∀ c ∈ core, isBlank c = false) (backBlank : ∀ c ∈ back, isBlank c = true)
    (before : isBlank x = false) (blank : isBlank gap = true) (after : isBlank y = false) :
    ¬ [x, gap, y] <:+: front ++ core ++ back := by
  intro inside
  rw [List.append_assoc] at inside
  obtain ⟨first, rest, split, inFront, inRest⟩ := List.sublist_append_iff.mp inside.sublist
  obtain ⟨middle, last, split', inCore, inBack⟩ := List.sublist_append_iff.mp inRest
  have outside {c : Char} (visible : isBlank c = false) : c ∉ first ∧ c ∉ last := by
    constructor
    · intro member
      rw [frontBlank c (inFront.subset member)] at visible
      cases visible
    · intro member
      rw [backBlank c (inBack.subset member)] at visible
      cases visible
  have within : gap ∉ middle := by
    intro member
    rw [solid gap (inCore.subset member)] at blank
    cases blank
  subst split'
  cases first with
  | cons a first =>
      rw [List.cons_append, List.cons.injEq] at split
      exact (outside before).1 (split.1 ▸ List.mem_cons_self)
  | nil =>
      rw [List.nil_append] at split
      rcases middle with _ | ⟨a, _ | ⟨b, middle⟩⟩
      · rw [List.nil_append] at split
        exact (outside after).2 (by simp [← split])
      · rw [List.singleton_append, List.cons.injEq] at split
        exact (outside after).2 (by simp [← split.2])
      · rw [List.cons_append, List.cons.injEq, List.cons_append, List.cons.injEq] at split
        exact within (by simp [split.2.1])

end MeterUplink.Text
