import TokenTables.Json.Decode
import TokenTables.Json.Text
import TokenTables.Settings.Basic

/-!
The project file: settings as a JSON object. A project file may leave out any field. Its paths are
meant relative to the directory it lies in.
-/

namespace TokenTables

def projectFileName : String := "toktab.json"

namespace Separator

def variants : List (String × Separator) := [("tab", tab), ("space", space), ("comma", comma)]

end Separator

namespace MalformedPolicy

def variants : List (String × MalformedPolicy) := [("abort", abort), ("skip", skip)]

def label : MalformedPolicy → String
  | abort => "abort"
  | skip => "skip"

end MalformedPolicy

namespace OverlapPolicy

def variants : List (String × OverlapPolicy) :=
  [("allow", allow), ("warn", warn), ("deny", deny)]

def label : OverlapPolicy → String
  | allow => "allow"
  | warn => "warn"
  | deny => "deny"

end OverlapPolicy

namespace Target

def variants : List (String × Target) := [("c", c), ("cpp", cpp)]

def label : Target → String
  | c => "c"
  | cpp => "cpp"

end Target

namespace Strategy

def variants : List (String × Strategy) := [("trie", trie), ("linear", linear)]

def label : Strategy → String
  | trie => "trie"
  | linear => "linear"

end Strategy

namespace SpecFormat

open Json in
def fields : List (FieldDecoder SpecFormat) := [
  fieldDecoder "separator" (decodeChoice Separator.variants)
    fun format value => { format with separator := value },
  fieldDecoder "commentMarker" decodeString
    fun format value => { format with commentMarker := value },
  fieldDecoder "malformed" (decodeChoice MalformedPolicy.variants)
    fun format value => { format with malformed := value }]

def decode : Json.Decoder SpecFormat := Json.decodeRecord "FormatOptions" fields {}

end SpecFormat

namespace Settings

open Json in
def fields : List (FieldDecoder Settings) := [
  fieldDecoder "input" decodeOptional
    fun settings value => { settings with input := value },
  fieldDecoder "format" SpecFormat.decode
    fun settings value => { settings with format := value },
  fieldDecoder "target" (decodeChoice Target.variants)
    fun settings value => { settings with target := value },
  fieldDecoder "strategy" (decodeChoice Strategy.variants)
    fun settings value => { settings with strategy := value },
  fieldDecoder "outDir" decodeOptional
    fun settings value => { settings with outDir := value },
  fieldDecoder "tokenListFile" decodeString
    fun settings value => { settings with listFile := value },
  fieldDecoder "tokenDataFile" decodeString
    fun settings value => { settings with dataFile := value },
  fieldDecoder "identifierPrefix" decodeString
    fun settings value => { settings with identifierLead := value },
  fieldDecoder "kindPath" decodeString
    fun settings value => { settings with kindPath := value },
  fieldDecoder "namespace" decodeOptional
    fun settings value => { settings with enclosing := value },
  fieldDecoder "includes" decodeStrings
    fun settings value => { settings with includes := value },
  fieldDecoder "noMatch" decodeOptional
    fun settings value => { settings with noMatch := value },
  fieldDecoder "prefixOverlap" (decodeChoice OverlapPolicy.variants)
    fun settings value => { settings with overlap := value }]

def decode : Json.Decoder Settings := Json.decodeRecord "GeneratorOptions" fields {}

def parse (content : String) : Except Json.DecodeError Settings :=
  Json.decodeDocument decode (Json.read content)

def relativeTo (settings : Settings) (projectPath : String) : Settings :=
  match (Path.parent? projectPath).filter (!·.isEmpty) with
  | some directory => { settings with
      input := settings.input.map (Path.join directory)
      outDir := settings.outDir.map (Path.join directory) }
  | none => settings

def optionalText : Option String → String
  | some text => Json.quote text
  | none => "null"

def objectText (margin : String) (members : List (String × String)) : String :=
  "\x7b\n" ++ String.intercalate ",\n" (members.map fun (name, value) =>
    margin ++ "  " ++ Json.quote name ++ ": " ++ value) ++ "\n" ++ margin ++ "\x7d"

def arrayText (margin : String) (items : List String) : String :=
  if items.isEmpty then "[]"
  else "[\n" ++ String.intercalate ",\n" (items.map fun item =>
    margin ++ "  " ++ Json.quote item) ++ "\n" ++ margin ++ "]"

def formatText (format : SpecFormat) : String :=
  objectText "  " [
    ("separator", Json.quote format.separator.label),
    ("commentMarker", Json.quote format.commentMarker),
    ("malformed", Json.quote format.malformed.label)]

def projectText (settings : Settings) : String :=
  objectText "" [
    ("input", optionalText settings.input),
    ("format", formatText settings.format),
    ("target", Json.quote settings.target.label),
    ("strategy", Json.quote settings.strategy.label),
    ("outDir", optionalText settings.outDir),
    ("tokenListFile", Json.quote settings.listFile),
    ("tokenDataFile", Json.quote settings.dataFile),
    ("identifierPrefix", Json.quote settings.identifierLead),
    ("kindPath", Json.quote settings.kindPath),
    ("namespace", optionalText settings.enclosing),
    ("includes", arrayText "  " settings.includes),
    ("noMatch", optionalText settings.noMatch),
    ("prefixOverlap", Json.quote settings.overlap.label)] ++ "\n"

def initialProjectText : String :=
  projectText { input := some "tokens", outDir := some "." }

end Settings

end TokenTables
