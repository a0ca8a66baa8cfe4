import MeterUplink.Text.Category.AlphabeticData
import MeterUplink.Text.Category.LetterData
import MeterUplink.Text.Category.MarkData
import MeterUplink.Text.Category.SymbolData
import MeterUplink.Text.PropertyData

namespace MeterUplink.Text

/-! Classes of characters that are put together from the general categories of the Unicode
standard. -/

def letters : List CodeRange :=
  upperLetters ++ lowerLetters ++ titleLetters ++ modifierLetters ++ otherLetters

def marks : List CodeRange := nonspacingMarks ++ spacingMarks ++ enclosingMarks

def numbers : List CodeRange := decimalNumbers ++ letterNumbers ++ otherNumbers

def punctuation : List CodeRange :=
  connectors ++ dashes ++ openMarks ++ closeMarks ++ initialQuotes ++ finalQuotes ++
    otherPunctuation

def symbols : List CodeRange :=
  mathSymbols ++ currencySymbols ++ modifierSymbols ++ otherSymbols

def lineSeparators : List CodeRange := [⟨0x2028, 0x2028⟩]

def paragraphSeparators : List CodeRange := [⟨0x2029, 0x2029⟩]

def separators : List CodeRange := spaceSeparators ++ lineSeparators ++ paragraphSeparators

def controls : List CodeRange := [⟨0x0, 0x1F⟩, ⟨0x7F, 0x9F⟩]

/-- All characters that have a meaning, and those left to private use. -/
def assigned : List CodeRange :=
  letters ++ marks ++ numbers ++ punctuation ++ symbols ++ separators ++ controls ++ formats ++
    privateUse

def alphabetic : List CodeRange := letters ++ letterNumbers ++ otherAlphabetic

def lowercase : List CodeRange := lowerLetters ++ otherLowercase

def uppercase : List CodeRange := upperLetters ++ otherUppercase

def cased : List CodeRange := lowercase ++ uppercase ++ titleLetters

/-- What may stand between cased letters of one word. -/
def caseIgnorable : List CodeRange :=
  nonspacingMarks ++ enclosingMarks ++ formats ++ modifierLetters ++ modifierSymbols ++
    otherCaseIgnorable

/-- What never stands without a character in front. -/
def graphemeExtenders : List CodeRange :=
  nonspacingMarks ++ enclosingMarks ++ otherGraphemeExtenders

/-- What identifiers begin with, and some signs. -/
def identifierStarts : List CodeRange := letters ++ letterNumbers ++ otherIdentifierStarts

/-- What identifiers are made of, and some signs. -/
def identifierParts : List CodeRange :=
  identifierStarts ++ nonspacingMarks ++ spacingMarks ++ decimalNumbers ++ connectors ++
    otherIdentifierParts

/-- The two characters that join others or keep them apart without being seen. -/
def joiners : List CodeRange := [⟨0x200C, 0x200D⟩]

/-- What words are made of. -/
def wordRanges : List CodeRange := alphabetic ++ marks ++ decimalNumbers ++ connectors ++ joiners

def isAlphabetic (c : Char) : Bool := inRanges alphabetic c

def isNumeric (c : Char) : Bool := inRanges numbers c

/-- Letters, digits and the low line, as far as ASCII goes. -/
def isAsciiWordChar (c : Char) : Bool := c.isAlphanum || c == '_'

def isWordChar (c : Char) : Bool :=
  if c.toNat < 128 then isAsciiWordChar c else inRanges wordRanges c

end MeterUplink.Text
