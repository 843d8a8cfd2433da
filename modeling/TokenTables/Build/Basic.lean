import TokenTables.Emit.Artifacts
import TokenTables.Spec.Reading
import TokenTables.Storage.FileAccess

/-!
A build takes one token specification to its generated files. Analysing the specification reads
it, builds the trie and checks what emission needs; all that is found goes into one report,
sorted by line. Files are generated only if the report holds no error.
-/

namespace TokenTables

structure Source where
  fileName : String
  text : String
  deriving DecidableEq, Repr

structure Build where
  settings : Settings
  source : Option Source := none
  deriving DecidableEq, Repr

inductive BuildError
  | noInput
  | read (path : String) (cause : FileError)
  | write (path : String) (cause : FileError)
  | emission (cause : EmitError)
  | aborted (report : List Diagnostic)

namespace BuildError

def message : BuildError → String
  | noInput => "no input specification given"
  | read path _ => "failed to read '" ++ path ++ "'"
  | write path _ => "failed to write '" ++ path ++ "'"
  | emission _ => "failed to emit token data"
  | aborted report =>
    "emission aborted: " ++ (Diagnostic.errorCount report).repr
      ++ " error(s) in the token specification"

end BuildError

structure Analysis where
  reading : Reading
  construction : TrieBuild
  report : List Diagnostic

namespace Analysis

def vocabulary (analysis : Analysis) : Vocabulary := analysis.reading.vocabulary

def trie (analysis : Analysis) : Trie := analysis.construction.trie

def ofSource (settings : Settings) (source : Source) : Analysis :=
  let file := some source.fileName
  let reading := readSpec settings.format file source.text
  let construction := buildTrie reading.vocabulary settings.overlap file
  { reading := reading
    construction := construction
    report := Diagnostic.sort <| reading.report ++ construction.report
      ++ emissionReport settings reading.vocabulary }

end Analysis

/-- What writing the generated files has done: the paths that were written, and what ended it. -/
structure Writing where
  written : List String
  failure : Option BuildError

namespace Build

def withSource (build : Build) (source : Source) : Build := { build with source := some source }

def analyze (build : Build) : Except BuildError Analysis :=
  match build.source with
  | some source => .ok (.ofSource build.settings source)
  | none => .error .noInput

def check (build : Build) : Except BuildError (List Diagnostic) :=
  build.analyze.map Analysis.report

def emit (build : Build) : Except BuildError EmitResult := do
  let analysis ← build.analyze
  if Diagnostic.hasErrors analysis.report then throw (.aborted analysis.report)
  let result ← (emitArtifacts build.settings analysis.vocabulary analysis.trie).mapError .emission
  if Diagnostic.hasErrors result.report then throw (.aborted result.report)
  return { result with report := analysis.report }

section Files

variable {m : Type → Type} [Monad m] [FileAccess m]

def loadInput (build : Build) : m (Except BuildError Build) := do
  match build.settings.input with
  | none => return .error .noInput
  | some path =>
    match ← FileAccess.readText path with
    | .ok text => return .ok (build.withSource ⟨path, text⟩)
    | .error cause => return .error (.read path cause)

def writeArtifact (artifact : Artifact) : m (Except FileError Unit) := do
  match (Path.parent? artifact.path).filter (!·.isEmpty) with
  | none => FileAccess.writeText artifact.path artifact.text
  | some directory =>
    match ← FileAccess.makeDirectories directory with
    | .ok () => FileAccess.writeText artifact.path artifact.text
    | .error cause => return .error cause

def writeArtifacts : List Artifact → m Writing
  | [] => return ⟨[], none⟩
  | artifact :: rest => do
    match ← writeArtifact artifact with
    | .ok () =>
      let others ← writeArtifacts rest
      return { others with written := artifact.path :: others.written }
    | .error cause => return ⟨[], some (.write artifact.path cause)⟩

end Files

end Build

end TokenTables
