namespace MeterUplink.Text

/-! How the far end of a line cuts a text into commands: it holds what has arrived until the
terminator stands at the end of it. Commands that share no character with the terminator are cut
where they were joined. -/

variable {α : Type}

theorem not_suffix_of_shorter {terminator command tail : List α}
    (apart : ∀ c ∈ command, c ∉ terminator) (shorter : tail.length < terminator.length) :
    ¬ terminator <:+ command ++ tail := by
  rintro ⟨front, split⟩
  rcases List.append_eq_append_iff.mp split with
    ⟨middle, inCommand, inTerminator⟩ | ⟨middle, _, inTail⟩
  · cases middle with
    | nil => simp [inTerminator] at shorter
    | cons c middle =>
        exact apart c (by simp [inCommand]) (by simp [inTerminator])
  · rw [inTail, List.length_append] at shorter
    omega

variable [DecidableEq α]

/-- Cuts a text behind each occurrence of the terminator, found from left to right; `held` has
arrived before. What stands behind the last terminator is given beside the pieces. -/
def cutAt (terminator held : List α) : List α → List (List α) × List α
  | [] => ([], held)
  | c :: rest =>
    let arrived := held ++ [c]
    if terminator.isSuffixOf arrived then
      let later := cutAt terminator [] rest
      (arrived.take (arrived.length - terminator.length) :: later.1, later.2)
    else cutAt terminator arrived rest

theorem cutAt_hold {terminator command : List α} (nonempty : terminator ≠ [])
    (apart : ∀ c ∈ command, c ∉ terminator) (held rest : List α) :
    cutAt terminator held (command ++ rest) = cutAt terminator (held ++ command) rest := by
  induction command generalizing held with
  | nil => rw [List.nil_append, List.append_nil]
  | cons c command ih =>
      obtain ⟨outside, apart⟩ := List.forall_mem_cons.mp apart
      have going : ¬ terminator.isSuffixOf (held ++ [c]) = true := by
        intro ended
        rcases List.suffix_concat_iff.mp (List.isSuffixOf_iff_suffix.mp ended) with empty | last
        · exact nonempty empty
        · obtain ⟨front, split, _⟩ := last
          exact outside (by simp [split])
      rw [List.cons_append, cutAt, if_neg going, ih apart, List.append_assoc,
        List.singleton_append]

theorem cutAt_finish {terminator command : List α} (apart : ∀ c ∈ command, c ∉ terminator)
    (rest begun missing : List α) (whole : begun ++ missing = terminator)
    (unfinished : missing ≠ []) :
    cutAt terminator (command ++ begun) (missing ++ rest) =
      (command :: (cutAt terminator [] rest).1, (cutAt terminator [] rest).2) := by
  -- On what is missing of the terminator: as long as there is more than one character, what has
  -- arrived ends in no terminator, since that would have to begin within the command.
  induction missing generalizing begun with
  | nil => exact absurd rfl unfinished
  | cons c missing ih =>
      cases missing with
      | nil =>
          have ended : terminator.isSuffixOf (command ++ begun ++ [c]) = true := by
            rw [List.isSuffixOf_iff_suffix, List.append_assoc, whole]
            exact List.suffix_append command terminator
          rw [List.singleton_append, cutAt, if_pos ended, List.append_assoc, whole]
          simp
      | cons d missing =>
          have going : ¬ terminator.isSuffixOf (command ++ begun ++ [c]) = true := by
            rw [List.isSuffixOf_iff_suffix, List.append_assoc]
            apply not_suffix_of_shorter apart
            rw [← whole]
            simp only [List.length_append, List.length_cons, List.length_nil]
            omega
          rw [List.cons_append, cutAt, if_neg going, List.append_assoc]
          exact ih (begun ++ [c]) (by rw [← whole]; simp) (by simp)

/-- Commands joined by a terminator with which they share no character are cut apart again, and
nothing is left over. -/
theorem cutAt_flatMap {terminator : List α} {commands : List (List α)}
    (nonempty : terminator ≠ []) (apart : ∀ command ∈ commands, ∀ c ∈ command, c ∉ terminator) :
    cutAt terminator [] (commands.flatMap (· ++ terminator)) = (commands, []) := by
  induction commands with
  | nil => rfl
  | cons command rest ih =>
      obtain ⟨first, others⟩ := List.forall_mem_cons.mp apart
      have finish := cutAt_finish first (rest.flatMap (· ++ terminator)) [] terminator rfl nonempty
      rw [List.append_nil] at finish
      rw [List.flatMap_cons, List.append_assoc, cutAt_hold nonempty first, List.nil_append,
        finish, ih others]

end MeterUplink.Text
