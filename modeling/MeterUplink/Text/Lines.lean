namespace MeterUplink.Text

/-! Lines of a text. A line ends at a line feed, and one carriage return in front of the line
feed belongs to the line end; a carriage return elsewhere is an ordinary character. -/

/-- Drops each carriage return that stands directly before a line feed. -/
def joinLineEnds : List Char → List Char
  | [] => []
  | c :: rest =>
    if c = '\r' ∧ rest.head? = some '\n' then joinLineEnds rest else c :: joinLineEnds rest

/-- The text after the last line feed is a line only if it is not empty. -/
def dropEmptyLast (pieces : List (List Char)) : List (List Char) :=
  if pieces.getLast? = some [] then pieces.dropLast else pieces

def lines (text : List Char) : List (List Char) :=
  dropEmptyLast ((joinLineEnds text).splitOn '\n')

end MeterUplink.Text
