import TokenTables.Emit.Chain
import TokenTables.Emit.Dispatch
import TokenTables.Emit.NameTables

/-!
The two generated files. The list file holds the enumerators. The data file holds the name tables
and then, as the strategy says, the dispatch tables or the comparison chain. A chain needs its
no-match token to be declared; where it is not, nothing is generated.
-/

namespace TokenTables

structure Artifact where
  path : String
  text : String
  deriving DecidableEq, Repr

/-- The generated files with what there is to report. There are none if an error is reported. -/
structure EmitResult where
  artifacts : List Artifact
  report : List Diagnostic

namespace Artifact

def header : LayoutStep := .line "/* Auto Generated File */"

def listText (settings : Settings) (vocabulary : Vocabulary) : String :=
  layOut (header :: enumeratorList (Dialect.ofSettings settings) vocabulary)

def includeLine (name : String) : String :=
  if name.toList.head? = some '<' then "#include " ++ name else "#include \"" ++ name ++ "\""

def includeSteps (settings : Settings) : List LayoutStep :=
  let lines := settings.includes.map includeLine ++
    match settings.strategy with
    | .linear => [(Dialect.ofSettings settings).chainInclude]
    | .trie => []
  if lines.isEmpty then [] else lines.map .line ++ [.blank]

/-- The namespace that is set, also where the target has none. -/
def namedScope (settings : Settings) : Option String :=
  settings.enclosing.filter (!·.isEmpty)

def inScope (settings : Settings) (contents : List LayoutStep) : List LayoutStep :=
  match settings.target, namedScope settings with
  | .cpp, some name =>
    [.line ("namespace " ++ name ++ " \x7b"), .blank] ++ contents
      ++ [.blank, .line ("\x7d // namespace " ++ name)]
  | _, _ => contents

def recogniser (settings : Settings) (vocabulary : Vocabulary) (trie : Trie) :
    Except EmitError (List LayoutStep) :=
  let dialect := Dialect.ofSettings settings
  match settings.strategy with
  | .trie => Dispatch.trieSteps dialect vocabulary trie
  | .linear =>
    match Chain.ofVocabulary? vocabulary settings.noMatchName with
    | some chain => .ok (chain.steps dialect vocabulary)
    | none => .error (.undeclaredNoMatch settings.noMatchName)

def dataText (settings : Settings) (vocabulary : Vocabulary) (trie : Trie) :
    Except EmitError String := do
  let steps ← recogniser settings vocabulary trie
  return layOut <| header :: includeSteps settings
    ++ inScope settings
      (nameTables (Dialect.ofSettings settings) vocabulary ++ [.blank] ++ steps)

end Artifact

def emissionReport (settings : Settings) (vocabulary : Vocabulary) : List Diagnostic :=
  if settings.strategy = .linear ∧ vocabulary.idOf? settings.noMatchName = none then
    [Diagnostic.general .undeclaredNoMatch [settings.noMatchName]]
  else []

def emitArtifacts (settings : Settings) (vocabulary : Vocabulary) (trie : Trie) :
    Except EmitError EmitResult := do
  let report := emissionReport settings vocabulary
  if Diagnostic.hasErrors report then return ⟨[], report⟩
  let dataText ← Artifact.dataText settings vocabulary trie
  return {
    artifacts := [⟨settings.listPath, Artifact.listText settings vocabulary⟩,
      ⟨settings.dataPath, dataText⟩]
    report := report }

end TokenTables
