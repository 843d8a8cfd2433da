import TokenTables.CommandLine.Run

/-!
The program: the command line over the files of the machine.
-/

namespace TokenTables

namespace Machine

def fileError : IO.Error → FileError
  | .noFileOrDirectory .. => .notFound
  | .alreadyExists .. => .alreadyExists
  | .inappropriateType _ 21 _ => .isADirectory
  | .inappropriateType .. => .notADirectory
  | .permissionDenied .. => .other "PermissionDenied" "Permission denied (os error 13)"
  | error => .other "Other" (toString error)

def attempt {α : Type} (action : IO α) : IO (Except FileError α) := do
  try return .ok (← action)
  catch error => return .error (fileError error)

instance : FileAccess IO where
  readText path := do
    match ← attempt (IO.FS.readBinFile path) with
    | .error error => return .error error
    | .ok bytes =>
      match String.fromUTF8? bytes with
      | some text => return .ok text
      | none => return .error .notUtf8
  fileExists path := do
    match ← attempt (IO.FS.readBinFile path) with
    | .error .notFound => return false
    | .error .notADirectory => return false
    | _ => return true
  makeDirectories path := attempt (IO.FS.createDirAll path)
  writeText path text := attempt (IO.FS.writeFile path text)

def secondsText (milliseconds : Nat) : String :=
  let hundredths := (milliseconds + 5) / 10
  let places := hundredths % 100
  (hundredths / 100).repr ++ "." ++ (if places < 10 then "0" else "") ++ places.repr

def console : IO (Console IO) := do
  let start ← IO.monoMsNow
  return {
    isTerminal := ← (← IO.getStderr).isTty
    elapsed := return secondsText ((← IO.monoMsNow) - start) }

end Machine

end TokenTables

def main (arguments : List String) : IO UInt32 := do
  let outcome ← TokenTables.CommandLine.run (← TokenTables.Machine.console) arguments
  (← IO.getStderr).putStr outcome.stderr
  (← IO.getStdout).putStr outcome.stdout
  return outcome.exitCode.toUInt32
