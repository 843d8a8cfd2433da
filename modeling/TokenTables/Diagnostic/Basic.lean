import TokenTables.Diagnostic.Message

/-!
A diagnostic is a filled message with the place it speaks of. Reports are lists of diagnostics in
the order in which they were found. Sorting goes by file and line and keeps the order of
diagnostics that speak of the same line; a diagnostic without a file comes before all others, and
one without a line counts as line 0.
-/

namespace TokenTables

structure Diagnostic where
  file : Option String
  line : Option Nat
  code : Nat
  category : Category
  text : String
  related : List Diagnostic

namespace Diagnostic

instance : Inhabited Diagnostic := ⟨⟨none, none, 0, .note, "", []⟩⟩

def general (message : Message) (arguments : List String) : Diagnostic where
  file := none
  line := none
  code := message.code
  category := message.category
  text := fill message.template arguments
  related := []

def onLine (file : Option String) (line : Nat) (message : Message) (arguments : List String) :
    Diagnostic :=
  { general message arguments with file := file, line := some line }

def withRelated (diagnostic related : Diagnostic) : Diagnostic :=
  { diagnostic with related := diagnostic.related ++ [related] }

def isError (diagnostic : Diagnostic) : Bool := diagnostic.category = .error

def place (diagnostic : Diagnostic) : String :=
  match diagnostic.file, diagnostic.line with
  | some file, some line => file ++ ":" ++ line.repr ++ ": "
  | some file, none => file ++ ": "
  | none, some line => "line " ++ line.repr ++ ": "
  | none, none => ""

def shown (diagnostic : Diagnostic) : String :=
  diagnostic.place ++ diagnostic.category.label ++ " TT" ++ diagnostic.code.repr ++ ": "
    ++ diagnostic.text

def hasErrors (report : List Diagnostic) : Bool := report.any isError

def errorCount (report : List Diagnostic) : Nat := report.countP isError

def warningCount (report : List Diagnostic) : Nat :=
  report.countP fun diagnostic => diagnostic.category = .warning

def mentions (report : List Diagnostic) (code : Nat) : Bool :=
  report.any fun diagnostic => diagnostic.code = code

/-- Order by file, then by line. Texts compare by code point, which is also the order of their
UTF-8 bytes. -/
def comparePlaces (first second : Diagnostic) : Ordering :=
  (compare first.file second.file).then
    (compare (first.line.getD 0) (second.line.getD 0))

def sort (report : List Diagnostic) : List Diagnostic :=
  report.mergeSort fun first second => (comparePlaces first second).isLE

end Diagnostic

end TokenTables
