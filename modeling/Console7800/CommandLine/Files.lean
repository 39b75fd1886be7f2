import Console7800.Cells

/-!
# Files

What the command line asks of the place where files are kept.
-/

namespace Console7800.CommandLine

/-- Why a file cannot be read or written. -/
inductive FileError where
  | notFound
  | permissionDenied
  | isDirectory
  | notDirectory
  /-- The path or one of the names in it is too long. -/
  | nameTooLong
  /-- The path has a character of code 0 in it. -/
  | nulInName
  /-- The contents are no text. -/
  | notText
  | other (text : String)
  deriving Repr, DecidableEq

def FileError.message : FileError → String
  | .notFound => "No such file or directory (os error 2)"
  | .permissionDenied => "Permission denied (os error 13)"
  | .notDirectory => "Not a directory (os error 20)"
  | .isDirectory => "Is a directory (os error 21)"
  | .nameTooLong => "File name too long (os error 36)"
  | .nulInName => "file name contained an unexpected NUL byte"
  | .notText => "stream did not contain valid UTF-8"
  | .other text => text

class Files (m : Type → Type) where
  read : String → m (Except FileError Bytes)
  write : String → Bytes → m (Except FileError Unit)

end Console7800.CommandLine
