import TokenTables.Diagnostic.Basic
import TokenTables.Spec.Field
import TokenTables.Spec.Format
import TokenTables.Token.Vocabulary

/-!
Reading a token specification. Every line is first classified on its own; what it contributes to
the vocabulary and to the report follows from its class. A line that is blank or a comment
contributes nothing, a line with a name declares a token, and any other line is reported.
-/

namespace TokenTables

/-- Cuts a text into its lines. A line ends at a line feed, and a carriage return right before the
line feed belongs to the line end. `current` is the line so far, last character first. -/
def linesFrom (current : List Char) : List Char → List (List Char)
  | [] => if current = [] then [] else [current.reverse]
  | '\n' :: rest =>
    (match current with
      | '\r' :: line => line.reverse
      | line => line.reverse) :: linesFrom [] rest
  | c :: rest => linesFrom (c :: current) rest

def textLines (source : String) : List String :=
  (linesFrom [] source.toList).map String.ofList

inductive LineContent
  | nothing
  | unterminated (name : String)
  | nameless
  | token (name : String) (spelling : Option String) (fieldCount : Nat)
  deriving DecidableEq, Repr

namespace Field

/-- The spelling a field denotes. Quotes around a field that does not start with one are stray. -/
def spelling (field : Field) : String :=
  if field.quoted then field.text
  else String.ofList (trimBoth (· == '"') field.text.toList)

def isName (field : Field) : Bool :=
  !(trimBoth (fun c => c == '"' || isBlank c) field.text.toList).isEmpty

end Field

namespace LineContent

def ofLine (format : SpecFormat) (line : String) : LineContent :=
  let content := line.toList.dropWhile isBlank
  if content.isEmpty then nothing
  else if !format.commentMarker.isEmpty && format.commentMarker.toList.isPrefixOf content then
    nothing
  else
    match Field.split format.separator.character line.toList with
    | .error ⟨fields⟩ => unterminated ((fields.head?.map Field.text).getD "")
    | .ok [] => nameless
    | .ok (name :: others) =>
      if name.isName then
        token name.text (others.head?.map Field.spelling) (others.length + 1)
      else nameless

end LineContent

structure Reading where
  vocabulary : Vocabulary
  report : List Diagnostic

namespace Reading

def start : Reading := ⟨.empty, []⟩

def addDiagnostic (reading : Reading) (diagnostic : Diagnostic) : Reading :=
  { reading with report := reading.report ++ [diagnostic] }

def lineOf (vocabulary : Vocabulary) (id : TokenId) : Nat :=
  ((vocabulary.get? id).map Declaration.line).getD 0

def duplicateName (file : Option String) (line firstLine : Nat) (name : String) : Diagnostic :=
  (Diagnostic.onLine file line .duplicateName [name]).withRelated
    (Diagnostic.onLine file firstLine .firstDefinition [name])

def declare (reading : Reading) (file : Option String) (declaration : Declaration) : Reading :=
  match reading.vocabulary.declare declaration with
  | .ok vocabulary => { reading with vocabulary := vocabulary }
  | .error first => reading.addDiagnostic
      (duplicateName file declaration.line (lineOf reading.vocabulary first) declaration.name)

def malformedMessage : MalformedPolicy → Message
  | .abort => .lineWithoutFields
  | .skip => .lineSkipped

def noteExtraFields (reading : Reading) (file : Option String) (line fieldCount : Nat)
    (name : String) : Reading :=
  if 2 < fieldCount then
    reading.addDiagnostic
      (Diagnostic.onLine file line .extraFields [name, fieldCount.repr])
  else reading

def addContent (format : SpecFormat) (file : Option String) (reading : Reading) (line : Nat) :
    LineContent → Reading
  | .nothing => reading
  | .unterminated name => reading.addDiagnostic
      (Diagnostic.onLine file line .unterminatedSpelling [name])
  | .nameless => reading.addDiagnostic
      (Diagnostic.onLine file line (malformedMessage format.malformed) [format.separator.label])
  | .token name spelling fieldCount =>
    (reading.noteExtraFields file line fieldCount name).declare file
      (Declaration.make name spelling line)

def readLine (format : SpecFormat) (file : Option String) (reading : Reading) (line : Nat)
    (text : String) : Reading :=
  reading.addContent format file line (LineContent.ofLine format text)

def readSource (format : SpecFormat) (file : Option String) (reading : Reading)
    (source : String) : Reading :=
  (textLines source).zipIdx.foldl
    (fun reading (text, position) => reading.readLine format file (position + 1) text)
    reading

end Reading

def readSpec (format : SpecFormat) (file : Option String) (source : String) : Reading :=
  Reading.start.readSource format file source

end TokenTables
