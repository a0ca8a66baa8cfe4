import MeterUplink.Text.CaseVariants
import MeterUplink.Text.Category

namespace MeterUplink

/-! Sets of characters, put together from ranges. -/

inductive CharSet where
  /-- All characters from the first to the last one. -/
  | range (first last : Char)
  | among (ranges : List Text.CodeRange)
  | nothing
  | union (first second : CharSet)
  | both (first second : CharSet)
  /-- What is in one of the two sets alone. -/
  | oneOf (first second : CharSet)
  | complement (set : CharSet)
  /-- What differs from a member only in case. -/
  | anyCase (asciiOnly : Bool) (set : CharSet)
deriving Repr, DecidableEq

namespace CharSet

def contains : CharSet → Char → Bool
  | range first last, c => decide (first ≤ c) && decide (c ≤ last)
  | among ranges, c => Text.inRanges ranges c
  | nothing, _ => false
  | union first second, c => first.contains c || second.contains c
  | both first second, c => first.contains c && second.contains c
  | oneOf first second, c => first.contains c != second.contains c
  | complement set, c => !set.contains c
  | anyCase asciiOnly set, c =>
    (if asciiOnly then Text.asciiCaseVariants c else Text.caseVariants c).any set.contains

/-- Whether the set is put together from nothing beyond ASCII. -/
def isAscii : CharSet → Bool
  | range _ last => last.toNat < 128
  | among ranges => ranges.all (·.last < 128)
  | nothing => true
  | union first second | oneOf first second => first.isAscii && second.isAscii
  | both first second => first.isAscii || second.isAscii
  | complement _ => false
  | anyCase _ set => set.isAscii

/-- The number of ranges from which the set is put together. -/
def rangeCount : CharSet → Nat
  | range _ _ => 1
  | among ranges => ranges.length
  | nothing => 0
  | union first second | oneOf first second | both first second =>
    first.rangeCount + second.rangeCount
  | complement set => set.rangeCount + 1
  | anyCase _ set => 2 * set.rangeCount

def single (c : Char) : CharSet := range c c

/-- Every character. -/
def all : CharSet := complement nothing

/-- The characters of a list. -/
def ofList (characters : List Char) : CharSet :=
  characters.foldr (fun c set => union (single c) set) nothing

end CharSet

end MeterUplink
