namespace MeterUplink.Path

/-! Paths as texts, with a slash between the names. -/

def isAbsolute (path : String) : Bool := path.toList.head? == some '/'

/-- The path `second` seen from the directory `first`. An absolute path stays as it is. -/
def join (first second : String) : String :=
  if isAbsolute second then second
  else if first.toList.getLast?.any (· ≠ '/') then first ++ "/" ++ second
  else first ++ second

/-- The parts between the slashes, without empty ones and those that stay in place. -/
def names (path : String) : List String :=
  ((path.toList.splitOn '/').map String.ofList).filter fun name => name ≠ "" ∧ name ≠ "."

/-- Drops from the end, given in reverse, all slashes and parts that stay in place. A dot at the
very start of the path is kept. -/
def dropIdle : List Char → List Char
  | '/' :: rest => if rest.isEmpty then ['/'] else dropIdle rest
  | '.' :: '/' :: rest => dropIdle ('/' :: rest)
  | other => other

/-- Drops the last name, given in reverse. -/
def dropName (reversed : List Char) : List Char := reversed.dropWhile (· ≠ '/')

/-- The path of the directory that holds the last name; the empty path if there is none. -/
def parent (path : String) : String :=
  let reversed := dropIdle path.toList.reverse
  if reversed = ['/'] then "" else String.ofList (dropIdle (dropName reversed)).reverse

end MeterUplink.Path
