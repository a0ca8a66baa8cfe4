import MeterUplink.Text.UpperCaseData

namespace MeterUplink.Text

/-! Upper-casing by the full mapping of the Unicode standard, which may lengthen a text: the
ligature of two letters f becomes two capitals. -/

def CaseRun.covers (run : CaseRun) (code : Nat) : Bool :=
  decide (run.first ≤ code) && decide (code ≤ run.last) && (code - run.first) % run.step == 0

/-- The upper-case letter of a code point that the run covers. -/
def CaseRun.upper (run : CaseRun) (code : Nat) : Char :=
  Char.ofNat (code + run.shift).toNat

/-- The upper-case form of a character beyond ASCII. -/
def upperBeyondAscii (c : Char) : List Char :=
  match upperExpansions.lookup c.toNat with
  | some codes => codes.map Char.ofNat
  | none =>
    match upperRuns.find? fun run => run.covers c.toNat with
    | some run => [run.upper c.toNat]
    | none => [c]

def upperChar (c : Char) : List Char :=
  if c.toNat < 128 then [c.toUpper] else upperBeyondAscii c

/-- The upper-case form of a text. -/
def upper (text : List Char) : List Char := text.flatMap upperChar

end MeterUplink.Text
