import TokenTables.Settings.ProjectFile
import TokenTables.Storage.FileAccess

/-!
Loading a project file.
-/

namespace TokenTables

inductive ProjectError
  | read (path : String) (cause : FileError)
  | parse (path : String) (cause : Json.DecodeError)
  deriving DecidableEq, Repr

namespace ProjectError

def message : ProjectError → String
  | read path _ => "failed to read project file '" ++ path ++ "'"
  | parse path _ => "invalid project file '" ++ path ++ "'"

end ProjectError

namespace Settings

variable {m : Type → Type} [Monad m] [FileAccess m]

def load (path : String) : m (Except ProjectError Settings) := do
  match ← FileAccess.readText path with
  | .error cause => return .error (.read path cause)
  | .ok content =>
    match parse content with
    | .error cause => return .error (.parse path cause)
    | .ok settings => return .ok (settings.relativeTo path)

end Settings

end TokenTables
