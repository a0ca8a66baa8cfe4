import MeterUplink.Modem.Command
import MeterUplink.Proofs.Text.Ascii
import MeterUplink.Proofs.Text.AsciiBytes
import MeterUplink.Proofs.Text.Joining

namespace MeterUplink.Modem

/-! Which replies reject a command. Upper-casing lengthens some texts and makes ASCII letters out of
some others, but never one of the letters of the word that is looked for; so the word has to stand
in the reply itself, in ASCII letters of either case. -/

def errorWord : List Char := "ERROR".toList

/-- The word in any case of letters stands among the bytes. -/
def SpellsError (bytes : List UInt8) : Prop :=
  ∃ word, word.map Char.toUpper = errorWord ∧ Text.encodeUtf8 word <:+: bytes

theorem codes_errorWord : ∀ c ∈ errorWord, c.toNat ∈ [0x45, 0x52, 0x4F] := by
  simp [errorWord]

theorem ascii_of_mem_errorWord {c : Char} (letter : c ∈ errorWord) : c.toNat < 0x80 := by
  have code := codes_errorWord c letter
  simp only [List.mem_cons, List.not_mem_nil, or_false] at code
  omega

/-! The mapping beyond ASCII, table by table. -/

theorem upperExpansions_apart : ∀ entry ∈ Text.upperExpansions,
    entry.2 ≠ [] ∧ ∀ code ∈ entry.2, Char.ofNat code ∉ errorWord := by
  decide +kernel

theorem upperRuns_apart : ∀ run ∈ Text.upperRuns, ∀ code ∈ [0x45, 0x52, 0x4F],
    run.covers ((code : Nat) - run.shift : Int).toNat = false := by
  decide +kernel

theorem upper_not_mem_errorWord {run : Text.CaseRun} (among : run ∈ Text.upperRuns) {code : Nat}
    (covered : run.covers code = true) : run.upper code ∉ errorWord := by
  intro letter
  have listed : (Char.ofNat (code + run.shift).toNat).toNat ∈ [0x45, 0x52, 0x4F] :=
    codes_errorWord _ letter
  by_cases valid : (code + run.shift).toNat.isValidChar
  · have same : (Char.ofNat (code + run.shift).toNat).toNat = (code + run.shift).toNat := by
      rw [Char.ofNat, dif_pos valid]
      rfl
    rw [same] at listed
    have positive : (code + run.shift).toNat ≠ 0 := by
      intro zero
      rw [zero] at listed
      exact absurd listed (by decide)
    have back : (((code + run.shift).toNat : Nat) - run.shift : Int).toNat = code := by omega
    have outside := upperRuns_apart run among _ listed
    rw [back, covered] at outside
    cases outside
  · rw [Char.ofNat, dif_neg valid] at listed
    exact absurd listed (by decide)

theorem upperBeyondAscii_apart {c : Char} (beyond : 0x80 ≤ c.toNat) :
    Text.upperBeyondAscii c ≠ [] ∧ ∀ d ∈ Text.upperBeyondAscii c, d ∉ errorWord := by
  rw [Text.upperBeyondAscii]
  split
  case h_1 codes found =>
    obtain ⟨before, after, split, _⟩ := List.lookup_eq_some_iff.mp found
    obtain ⟨some, apart⟩ := upperExpansions_apart (c.toNat, codes) (by simp [split])
    exact ⟨by simpa using some, List.forall_mem_map.mpr apart⟩
  case h_2 =>
    split
    case h_1 run found =>
      have among := List.mem_of_find?_eq_some found
      have covered := List.find?_some found
      exact ⟨by simp, List.forall_mem_singleton.mpr (upper_not_mem_errorWord among covered)⟩
    case h_2 =>
      refine ⟨by simp, List.forall_mem_singleton.mpr fun letter => ?_⟩
      exact Nat.not_lt.mpr beyond (ascii_of_mem_errorWord letter)

theorem upperChar_ne_nil (c : Char) : Text.upperChar c ≠ [] := by
  rw [Text.upperChar]
  split
  case isTrue => exact List.cons_ne_nil _ _
  case isFalse beyond => exact (upperBeyondAscii_apart (Nat.not_lt.mp beyond)).1

theorem upperChar_of_mem_errorWord {c d : Char} (letter : d ∈ errorWord)
    (member : d ∈ Text.upperChar c) : Text.upperChar c = [d] ∧ c.toUpper = d := by
  rw [Text.upperChar] at member ⊢
  split at member
  case isTrue ascii =>
    rw [if_pos ascii, List.mem_singleton.mp member]
    exact ⟨rfl, rfl⟩
  case isFalse beyond =>
    exact absurd letter ((upperBeyondAscii_apart (Nat.not_lt.mp beyond)).2 d member)

theorem upperChar_of_toUpper {c d : Char} (letter : d ∈ errorWord) (given : c.toUpper = d) :
    Text.upperChar c = [d] := by
  subst given
  rw [Text.upperChar, if_pos (Text.ascii_of_toUpper (ascii_of_mem_errorWord letter))]

theorem upper_eq_nil_iff {text : List Char} : Text.upper text = [] ↔ text = [] := by
  cases text with
  | nil => exact iff_of_true rfl rfl
  | cons c rest => simp [Text.upper, upperChar_ne_nil]

theorem upper_append_cons (front : List Char) (c : Char) (back : List Char) :
    Text.upper (front ++ c :: back) =
      Text.upper front ++ (Text.upperChar c ++ Text.upper back) := by
  simp [Text.upper]

theorem exists_of_upper_eq {text before after : List Char} {d : Char} (letter : d ∈ errorWord)
    (read : Text.upper text = before ++ d :: after) :
    ∃ front c back, text = front ++ c :: back ∧ c.toUpper = d ∧ Text.upper front = before ∧
      Text.upper back = after := by
  induction text generalizing before with
  | nil => cases before <;> cases read
  | cons c rest ih =>
      rw [Text.upper, List.flatMap_cons] at read
      rcases Text.append_eq_append_cons read with ⟨between, rfl, later⟩ | ⟨between, split, tail⟩
      · obtain ⟨front, c', back, rfl, given, rfl, rfl⟩ := ih later
        exact ⟨c :: front, c', back, rfl, given, rfl, rfl⟩
      · obtain ⟨single, given⟩ := upperChar_of_mem_errorWord (c := c) letter (by simp [split])
        rw [single] at split
        cases before with
        | nil =>
            cases split
            exact ⟨[], c, rest, rfl, given, rfl, tail.symm⟩
        | cons other before => simp at split

/-- Upper-casing shows the letters of the word: each is given by a letter in ASCII. -/
theorem shows_upper : Text.Shows Text.upper (fun c d => c.toUpper = d) (· ∈ errorWord) where
  eq_nil_iff := upper_eq_nil_iff
  eq_append_cons_iff := by
    intro text before d after letter
    constructor
    · exact exists_of_upper_eq letter
    · rintro ⟨front, c, back, rfl, given, rfl, rfl⟩
      rw [upper_append_cons, upperChar_of_toUpper letter given, List.singleton_append]

theorem forall₂_toUpper_iff {word letters : List Char} :
    List.Forall₂ (fun c d => c.toUpper = d) word letters ↔ word.map Char.toUpper = letters := by
  rw [← List.forall₂_map_left_iff, List.forall₂_eq_eq_eq]

theorem isErrorReply_iff {reply : String} :
    isErrorReply reply = true ↔
      ∃ word, word.map Char.toUpper = errorWord ∧ word <:+: reply.toList := by
  change Text.occursIn errorWord _ = true ↔ _
  rw [Text.occursIn_iff, shows_upper.infix_iff fun _ member => member]
  simp only [forall₂_toUpper_iff]

theorem ascii_of_spelling {word : List Char} (spelled : word.map Char.toUpper = errorWord) :
    ∀ c ∈ word, c.toNat < 0x80 := by
  intro c member
  apply Text.ascii_of_toUpper
  apply ascii_of_mem_errorWord
  rw [← spelled]
  exact List.mem_map_of_mem member

/-- The reply need not be text: the word is found where its bytes are. -/
theorem isErrorReply_decodeUtf8_iff {bytes : List UInt8} :
    isErrorReply (String.ofList (Text.decodeUtf8 bytes)) = true ↔ SpellsError bytes := by
  rw [isErrorReply_iff, String.toList_ofList]
  refine exists_congr fun word => and_congr_right fun spelled => ?_
  exact Text.infix_decodeUtf8_iff (ascii_of_spelling spelled)

instance (bytes : List UInt8) : Decidable (SpellsError bytes) :=
  decidable_of_iff _ isErrorReply_decodeUtf8_iff

/-! The word letter by letter, and what its place in a reply leaves of the rest of it. -/

/-- Each character is the letter of the word in its place, or the small form of that letter. -/
def IsErrorWord (word : List Char) : Prop :=
  List.Forall₂ (fun c letter => c = letter ∨ c = letter.toLower) word errorWord

theorem toUpper_eq_iff {c letter : Char} (among : letter ∈ errorWord) :
    c.toUpper = letter ↔ c = letter ∨ c = letter.toLower := by
  have kept : letter.toUpper = letter ∧ letter.toLower.toUpper = letter :=
    Text.holds_of_codes (fun d => d ∈ errorWord → d.toUpper = d ∧ d.toLower.toUpper = d)
      (by decide) (ascii_of_mem_errorWord among) among
  constructor
  · rintro rfl
    have ascii := Text.ascii_of_toUpper (ascii_of_mem_errorWord among)
    exact Text.holds_of_codes (fun d => d = d.toUpper ∨ d = d.toUpper.toLower) (by decide) ascii
  · rintro (rfl | rfl)
    · exact kept.1
    · exact kept.2

theorem isErrorWord_iff {word : List Char} :
    IsErrorWord word ↔ word.map Char.toUpper = errorWord := by
  rw [← forall₂_toUpper_iff, IsErrorWord, List.forall₂_iff_zip, List.forall₂_iff_zip]
  refine and_congr_right fun _ => ⟨fun each c letter pair => ?_, fun each c letter pair => ?_⟩
  · exact (toUpper_eq_iff (List.of_mem_zip pair).2).mpr (each pair)
  · exact (toUpper_eq_iff (List.of_mem_zip pair).2).mp (each pair)

instance : DecidablePred IsErrorWord := fun _ => decidable_of_iff _ isErrorWord_iff.symm

theorem isErrorReply_iff_exists_word {reply : String} :
    isErrorReply reply = true ↔ ∃ word, IsErrorWord word ∧ word <:+: reply.toList := by
  simp only [isErrorReply_iff, isErrorWord_iff]

theorem upper_eq_append_errorWord_iff {text before after : List Char} :
    Text.upper text = before ++ errorWord ++ after ↔
      ∃ front word back, text = front ++ word ++ back ∧ IsErrorWord word ∧
        Text.upper front = before ∧ Text.upper back = after := by
  rw [shows_upper.eq_append_append_iff (fun _ member => member) (by decide)]
  simp only [forall₂_toUpper_iff, isErrorWord_iff]

theorem isErrorReply_of_infix {part reply : String} (inside : part.toList <:+: reply.toList)
    (rejected : isErrorReply part = true) : isErrorReply reply = true := by
  obtain ⟨word, spelled, within⟩ := isErrorReply_iff_exists_word.mp rejected
  exact isErrorReply_iff_exists_word.mpr ⟨word, spelled, within.trans inside⟩

theorem isErrorReply_append {first second : String}
    (rejected : isErrorReply first = true ∨ isErrorReply second = true) :
    isErrorReply (first ++ second) = true := by
  rcases rejected with early | late
  · exact isErrorReply_of_infix ⟨[], second.toList, by simp⟩ early
  · exact isErrorReply_of_infix ⟨first.toList, [], by simp⟩ late

theorem isErrorReply_push_append {c : Char} (beyond : 0x80 ≤ c.toNat) (first second : String) :
    isErrorReply (first.push c ++ second) = (isErrorReply first || isErrorReply second) := by
  have joined : (first.push c ++ second).toList = first.toList ++ c :: second.toList := by simp
  rw [Bool.eq_iff_iff, Bool.or_eq_true]
  constructor
  · intro rejected
    obtain ⟨word, spelled, inside⟩ := isErrorReply_iff_exists_word.mp rejected
    have apart : c ∉ word := fun member =>
      absurd (ascii_of_spelling (isErrorWord_iff.mp spelled) c member) (Nat.not_lt.mpr beyond)
    rw [joined] at inside
    rcases Text.infix_append_cons apart inside with early | late
    · exact .inl (isErrorReply_iff_exists_word.mpr ⟨word, spelled, early⟩)
    · exact .inr (isErrorReply_iff_exists_word.mpr ⟨word, spelled, late⟩)
  · intro rejected
    rcases rejected with early | late
    · exact isErrorReply_of_infix ⟨[], c :: second.toList, by simp⟩ early
    · exact isErrorReply_of_infix ⟨first.toList ++ [c], [], by simp⟩ late

/-- A reply rejects a command exactly if it has the word in it, in ASCII letters of either case.
Upper-casing shows the word where it stands, however much longer it makes the text before it, and
nowhere else; so a character beyond ASCII only keeps apart what it stands between, and a longer
reply rejects what a part of it rejects. -/
theorem isErrorReply_by_spelling :
    (∀ reply : String,
      (isErrorReply reply = true ↔ ∃ word, IsErrorWord word ∧ word <:+: reply.toList) ∧
      ∀ before after, Text.upper reply.toList = before ++ errorWord ++ after ↔
        ∃ front word back, reply.toList = front ++ word ++ back ∧ IsErrorWord word ∧
          Text.upper front = before ∧ Text.upper back = after) ∧
    (∀ (first second : String) (c : Char), 0x80 ≤ c.toNat →
      isErrorReply (first.push c ++ second) = (isErrorReply first || isErrorReply second)) ∧
    ∀ first second : String, isErrorReply first = true ∨ isErrorReply second = true →
      isErrorReply (first ++ second) = true := by
  refine ⟨fun reply => ⟨isErrorReply_iff_exists_word, fun before after => ?_⟩, ?_, ?_⟩
  · exact upper_eq_append_errorWord_iff
  · intro first second c beyond
    exact isErrorReply_push_append beyond first second
  · intro first second rejected
    exact isErrorReply_append rejected

/-- A sharp s moves the word by one place, a long s behind it changes nothing, and a ligature in the
middle of it leaves no word. -/
theorem isErrorReply_by_spelling_ligatures :
    Text.upper "\u00DF eRrOr".toList = "SS ".toList ++ errorWord ++ [] ∧
    isErrorReply ("\u00DF eRrOr" ++ "\u017F") = true ∧
    isErrorReply ("ER".push '\uFB03' ++ "ROR") = false := by
  obtain ⟨spelled, apart, longer⟩ := isErrorReply_by_spelling
  have word : IsErrorWord "eRrOr".toList := by decide +kernel
  have split : "\u00DF eRrOr".toList = "\u00DF ".toList ++ "eRrOr".toList ++ [] := by
    decide +kernel
  have rejected : isErrorReply "\u00DF eRrOr" = true :=
    (spelled _).1.mpr ⟨_, word, _, _, split.symm⟩
  refine ⟨?_, longer _ _ (.inl rejected), ?_⟩
  · exact ((spelled _).2 _ _).mpr ⟨_, _, _, split, word, by decide +kernel, rfl⟩
  · exact (apart "ER" "ROR" '\uFB03' (by decide)).trans (by decide +kernel)

end MeterUplink.Modem
