/-!
What a build needs of a file system, and how it can fail.
-/

namespace TokenTables

inductive FileError
  | notFound
  | alreadyExists
  | notADirectory
  | isADirectory
  | nameTooLong
  | nulInName
  | notUtf8
  /-- Any other failure, with its own description. -/
  | other (kind message : String)
  deriving DecidableEq, Repr

namespace FileError

def kind : FileError → String
  | notFound => "NotFound"
  | alreadyExists => "AlreadyExists"
  | notADirectory => "NotADirectory"
  | isADirectory => "IsADirectory"
  | nameTooLong => "InvalidFilename"
  | nulInName => "InvalidInput"
  | notUtf8 => "InvalidData"
  | other kind _ => kind

def message : FileError → String
  | notFound => "No such file or directory (os error 2)"
  | alreadyExists => "File exists (os error 17)"
  | notADirectory => "Not a directory (os error 20)"
  | isADirectory => "Is a directory (os error 21)"
  | nameTooLong => "File name too long (os error 36)"
  | nulInName => "file name contained an unexpected NUL byte"
  | notUtf8 => "stream did not contain valid UTF-8"
  | other _ message => message

end FileError

class FileAccess (m : Type → Type) where
  readText : (path : String) → m (Except FileError String)
  fileExists : (path : String) → m Bool
  /-- Creates a directory and those above it, as far as they are missing. -/
  makeDirectories : (path : String) → m (Except FileError Unit)
  /-- Sets the contents of a file, which is created if it is missing. -/
  writeText : (path text : String) → m (Except FileError Unit)

end TokenTables
