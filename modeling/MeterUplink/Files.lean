namespace MeterUplink

/-! Files as a run sees them: a path leads to bytes, or to the reason why there are none. -/

inductive FileError where
  | notFound
  | isDirectory
  | notDirectory
  | unusableName
  | nameTooLong
  | other (text : String)
deriving Repr, DecidableEq

namespace FileError

def reason : FileError → String
  | notFound => "No such file or directory"
  | isDirectory => "Is a directory"
  | notDirectory => "Not a directory"
  | unusableName => "file name contained an unexpected NUL byte"
  | nameTooLong => "File name too long"
  | other text => text

/-- The number under which the operating system knows the error. -/
def number? : FileError → Option Nat
  | notFound => some 2
  | isDirectory => some 21
  | notDirectory => some 20
  | nameTooLong => some 36
  | unusableName | other _ => none

def message (error : FileError) : String :=
  match error.number? with
  | some number => s!"{error.reason} (os error {number})"
  | none => error.reason

end FileError

/-- The content of every path. -/
structure Files where
  read : String → Except FileError (List UInt8)

def Files.isFile (files : Files) (path : String) : Bool := (files.read path).isOk

end MeterUplink
