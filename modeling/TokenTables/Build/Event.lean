import TokenTables.Build.Basic

/-!
The log of a build: which events its steps record.
-/

namespace TokenTables

inductive Event
  | specificationRead (declared : Nat) (file : Option String) (reported : Nat)
  | trieBuilt (spellings nodes depth : Nat)
  | emissionStarted (tokens : Nat) (target : Target) (strategy : Strategy)
  | namespaceIgnored (name : String)
  | sourceReplaced (previous current : String)
  | inputLoaded (path : String) (bytes : Nat)
  | fileWritten (path : String)
  deriving DecidableEq, Repr

inductive LogLevel
  | info
  | debug
  deriving DecidableEq, Repr

namespace Event

def level : Event → LogLevel
  | fileWritten _ => .info
  | _ => .debug

def origin : Event → String
  | specificationRead .. => "toktab_reader::reader"
  | trieBuilt .. => "toktab_trie::builder"
  | emissionStarted .. => "toktab_emitter"
  | namespaceIgnored _ => "toktab_emitter"
  | sourceReplaced .. => "toktab_compiler"
  | inputLoaded .. => "toktab_compiler"
  | fileWritten _ => "toktab_compiler"

def message : Event → String
  | specificationRead declared file reported =>
    "read " ++ declared.repr ++ " token records from " ++ file.getD "<input>" ++ " ("
      ++ reported.repr ++ " diagnostics)"
  | trieBuilt spellings nodes depth =>
    "built trie: " ++ spellings.repr ++ " spellings, " ++ nodes.repr ++ " nodes, depth "
      ++ depth.repr
  | emissionStarted tokens target strategy =>
    "emitting " ++ tokens.repr ++ " tokens (" ++ target.title ++ ", " ++ strategy.title ++ ")"
  | namespaceIgnored name => "ignoring namespace '" ++ name ++ "' for the C target"
  | sourceReplaced previous current =>
    "replacing source '" ++ previous ++ "' with '" ++ current ++ "'"
  | inputLoaded path bytes => "loaded " ++ path ++ " (" ++ bytes.repr ++ " bytes)"
  | fileWritten path => "wrote " ++ path

def shown (event : Event) : String :=
  (match event.level with
    | .info => "INFO "
    | .debug => "DEBUG ") ++ event.origin ++ ": " ++ event.message

end Event

namespace Analysis

def events (analysis : Analysis) (file : Option String) : List Event :=
  [.specificationRead analysis.vocabulary.size file analysis.reading.report.length,
    .trieBuilt analysis.construction.boundCount analysis.trie.nodeCount analysis.trie.depth]

end Analysis

namespace Build

def sourceEvents (build : Build) (source : Source) : List Event :=
  match build.source with
  | some previous => [.sourceReplaced previous.fileName source.fileName]
  | none => []

def loadEvents (build loaded : Build) : List Event :=
  match loaded.source with
  | some source =>
    .inputLoaded source.fileName source.text.utf8ByteSize :: build.sourceEvents source
  | none => []

def analysisEvents (build : Build) : List Event :=
  match build.source, build.analyze with
  | some source, .ok analysis => analysis.events (some source.fileName)
  | _, _ => []

/-- Emission records nothing of its own where the report holds an error. -/
def emissionEvents (build : Build) : List Event :=
  match build.analyze with
  | .error _ => []
  | .ok analysis =>
    if Diagnostic.hasErrors analysis.report then build.analysisEvents
    else
      build.analysisEvents
        ++ [.emissionStarted analysis.vocabulary.size build.settings.target
          build.settings.strategy]
        ++ match build.settings.target, Artifact.namedScope build.settings with
          | .c, some name => [.namespaceIgnored name]
          | _, _ => []

end Build

def Writing.events (writing : Writing) : List Event := writing.written.map .fileWritten

end TokenTables
