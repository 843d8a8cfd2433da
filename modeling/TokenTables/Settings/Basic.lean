import TokenTables.Spec.Format
import TokenTables.Storage.Path
import TokenTables.Trie.Construction

/-!
The settings of a build: what is read and in which format, what is written and where.
-/

namespace TokenTables

inductive Target
  | c
  | cpp
  deriving DecidableEq, Repr

namespace Target

def title : Target → String
  | c => "C"
  | cpp => "Cpp"

end Target

inductive Strategy
  | trie
  | linear
  deriving DecidableEq, Repr

namespace Strategy

def title : Strategy → String
  | trie => "Trie"
  | linear => "Linear"

end Strategy

structure Settings where
  /-- Path of the token specification. -/
  input : Option String := none
  format : SpecFormat := {}
  target : Target := .c
  strategy : Strategy := .trie
  outDir : Option String := none
  listFile : String := "token_list.incl"
  dataFile : String := "token_data.incl"
  /-- What the enumerators of a C enumeration start with. -/
  identifierLead : String := "TOK_"
  /-- Path of the C++ enumeration type. -/
  kindPath : String := "Token::Kind"
  /-- The C++ namespace around the tables. -/
  enclosing : Option String := none
  /-- Headers that the data file includes. -/
  includes : List String := []
  /-- The token of a text that no spelling matches. -/
  noMatch : Option String := none
  overlap : OverlapPolicy := .warn
  deriving DecidableEq, Repr

namespace Settings

/-- The name of the no-match token: the one that is set, or the one customary in the target. -/
def noMatchName (settings : Settings) : String :=
  match settings.noMatch, settings.target with
  | some name, _ => name
  | none, .c => "UNDEFINED"
  | none, .cpp => "Undefined"

def directory (settings : Settings) : String := settings.outDir.getD "."

def listPath (settings : Settings) : String :=
  Path.join settings.directory settings.listFile

def dataPath (settings : Settings) : String :=
  Path.join settings.directory settings.dataFile

end Settings

end TokenTables
