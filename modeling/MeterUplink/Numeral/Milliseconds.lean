namespace MeterUplink

/-! The written form of a duration that is a whole number of milliseconds. -/

/-- Three digits without the zeros at their end. -/
def thousandths (n : Nat) : String :=
  let digits := [n / 100 % 10, n / 10 % 10, n % 10]
  String.join (((digits.reverse.dropWhile (· == 0)).reverse).map toString)

/-- Seconds from one second on, else milliseconds; nothing at all is `0ns`. -/
def millisecondsText (ms : Nat) : String :=
  if ms = 0 then "0ns"
  else if ms < 1000 then toString ms ++ "ms"
  else if ms % 1000 = 0 then toString (ms / 1000) ++ "s"
  else toString (ms / 1000) ++ "." ++ thousandths (ms % 1000) ++ "s"

end MeterUplink
