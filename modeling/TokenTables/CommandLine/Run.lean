import TokenTables.CommandLine.Arguments
import TokenTables.CommandLine.Report

/-!
Running a command line. The settings come from the project file, if there is one, and then from
the options. The exit code is 0 for success, 1 for a failure of the run, and 2 for errors in the
specification or in the arguments.
-/

namespace TokenTables

structure Outcome where
  exitCode : UInt8 := 0
  stdout : String := ""
  stderr : String := ""
  deriving DecidableEq, Repr

structure Console (m : Type → Type) where
  /-- Whether standard error is a terminal. -/
  isTerminal : Bool
  /-- The seconds since the start of the run, with two places. -/
  elapsed : m String

def versionText : String := "toktab 0.1.0\n"

namespace Invocation

def override (invocation : Invocation) (settings : Settings) : Settings :=
  { settings with
    input := invocation.input.or settings.input
    target := invocation.target.getD settings.target
    strategy := invocation.strategy.getD settings.strategy
    format := { settings.format with
      separator := invocation.separator.getD settings.format.separator }
    outDir := invocation.outDir.or settings.outDir
    overlap := invocation.overlap.getD settings.overlap
    noMatch := invocation.noMatch.or settings.noMatch }

variable {m : Type → Type} [Monad m] [FileAccess m]

/-- The settings of the project file that is named, or of the one in the current directory. -/
def projectSettings (invocation : Invocation) : m (Except ProjectError Settings) := do
  match invocation.project with
  | some path => Settings.load path
  | none =>
    if ← FileAccess.fileExists projectFileName then Settings.load projectFileName
    else return .ok {}

def settings (invocation : Invocation) : m (Except ProjectError Settings) :=
  return (← invocation.projectSettings).map invocation.override

end Invocation

namespace Outcome

def ofFailure (failure : Failure) : Outcome := { exitCode := 1, stderr := failure.shown }

def ofErrors (inColour : Bool) (report : List Diagnostic) : Outcome where
  exitCode := 2
  stderr := Diagnostic.printedReport inColour report
    ++ printedErrorCount inColour (Diagnostic.errorCount report)

def ofReport (inColour : Bool) (report : List Diagnostic) : Outcome :=
  if Diagnostic.hasErrors report then ofErrors inColour report
  else { stderr := Diagnostic.printedReport inColour report }

end Outcome

namespace CommandLine

variable {m : Type → Type} [Monad m] [FileAccess m]

def initialise (console : Console m) : m Outcome := do
  if ← FileAccess.fileExists projectFileName then
    return {
      exitCode := 1
      stderr := printedError console.isTerminal
        "A toktab.json file already exists in the current directory." }
  match ← FileAccess.writeText projectFileName Settings.initialProjectText with
  | .ok () => return { stdout := "Successfully created a toktab.json file.\n" }
  | .error cause => return {
      exitCode := 1
      stderr := printedError console.isTerminal
        ("Failed to create toktab.json: " ++ cause.message) }

def check (console : Console m) (build : Build) : Outcome :=
  match build.check with
  | .ok report => .ofReport console.isTerminal report
  | .error error => .ofFailure (.build error)

def summary (console : Console m) (artifacts : List Artifact) : m String := do
  if console.isTerminal then return printedSummary artifacts.length (← console.elapsed)
  else return ""

def generate (console : Console m) (invocation : Invocation) (build : Build) : m Outcome := do
  match build.emit with
  | .error (.aborted report) => return .ofErrors console.isTerminal report
  | .error error => return .ofFailure (.build error)
  | .ok result =>
    let printed := Diagnostic.printedReport console.isTerminal result.report
    if invocation.toStdout then
      return {
        stdout := String.join (result.artifacts.map Artifact.text)
        stderr := printed ++ (← summary console result.artifacts) }
    match (← Build.writeArtifacts result.artifacts).failure with
    | none => return { stderr := printed ++ (← summary console result.artifacts) }
    | some error => return {
        exitCode := 1
        stderr := printed ++ (Failure.build error).shown }

def runInvocation (console : Console m) (invocation : Invocation) : m Outcome := do
  if invocation.initialise then return ← initialise console
  match ← invocation.settings with
  | .error error => return .ofFailure (.project error)
  | .ok settings =>
    match ← Build.loadInput ⟨settings, none⟩ with
    | .error error => return .ofFailure (.build error)
    | .ok build =>
      if invocation.noEmit then return check console build
      else generate console invocation build

def run (console : Console m) (arguments : List String) : m Outcome := do
  match Request.ofArguments arguments with
  | .run invocation => runInvocation console invocation
  | .version => return { stdout := versionText }
  | .help => return { stdout := "Usage: toktab [OPTIONS] [INPUT]\n" }
  | .usageError => return {
      exitCode := 2
      stderr := "error: invalid arguments\n\nUsage: toktab [OPTIONS] [INPUT]\n" }

end CommandLine

end TokenTables
