import MeterUplink.Text.UpperCase

namespace MeterUplink.Text

/-! Characters that differ only in case. They are those with the same upper-case form, but for a
few letters that stand apart: the dotless i has no other case, and some signs are variants of
letters although they are capitals themselves. -/

/-- The letters whose case is not told by their upper-case form. -/
def caseExceptions : List (Char × List Char) :=
  [('\u0131', ['\u0131']), ('\u03F4', ['\u0398']), ('\u1E9E', ['S', 'S']),
    ('\u2126', ['\u03A9']), ('\u212A', ['K']), ('\u212B', ['\u00C5'])]

/-- The same for all variants of a character. -/
def caseKey (c : Char) : List Char := (caseExceptions.lookup c).getD (upperChar c)

/-- The character of a run that has the given upper-case letter. -/
def CaseRun.lower? (run : CaseRun) (upper : Char) : Option Char :=
  let code := upper.toNat - run.shift
  if 0 ≤ code ∧ run.covers code.toNat then some (Char.ofNat code.toNat) else none

/-- Characters among which are all variants with a key. -/
def caseCandidates (key : List Char) : List Char :=
  let expanded := upperExpansions.filterMap fun entry =>
    if entry.2.map Char.ofNat = key then some (Char.ofNat entry.1) else none
  let exceptional := caseExceptions.filterMap fun entry =>
    if entry.2 = key then some entry.1 else none
  let single :=
    match key with
    | [upper] => upper :: upper.toLower :: upperRuns.filterMap (·.lower? upper)
    | _ => []
  single ++ expanded ++ exceptional

/-- The character and those that differ from it only in case. -/
def caseVariants (c : Char) : List Char :=
  let key := caseKey c
  c :: (caseCandidates key).filter fun other => caseKey other = key ∧ other ≠ c

/-- The same within ASCII. -/
def asciiCaseVariants (c : Char) : List Char :=
  if c.isLower then [c, c.toUpper] else if c.isUpper then [c, c.toLower] else [c]

end MeterUplink.Text
