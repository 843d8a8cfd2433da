/-!
Messages are templates with numbered placeholders. The arguments are put in one after another:
first every placeholder of argument 0 is replaced, then every placeholder of argument 1 in the
text so obtained, and so on. So an argument that itself holds a placeholder of a later argument
has it replaced too.
-/

namespace TokenTables

inductive Category
  | warning
  | error
  | note
  deriving DecidableEq, Repr

namespace Category

def label : Category → String
  | warning => "warning"
  | error => "error"
  | note => "note"

end Category

/-- Replaces the occurrences of a pattern from left to right. The first `skip` characters belong
to an occurrence that is already replaced. -/
def replaceFrom (pattern replacement : List Char) : Nat → List Char → List Char
  | _, [] => []
  | skip + 1, _ :: rest => replaceFrom pattern replacement skip rest
  | 0, c :: rest =>
    if pattern.isPrefixOf (c :: rest) then
      replacement ++ replaceFrom pattern replacement (pattern.length - 1) rest
    else c :: replaceFrom pattern replacement 0 rest

def replaceAll (pattern replacement text : List Char) : List Char :=
  replaceFrom pattern replacement 0 text

def placeholder (position : Nat) : List Char :=
  '\x7b' :: position.repr.toList ++ ['\x7d']

def fill (template : String) (arguments : List String) : String :=
  String.ofList <| arguments.zipIdx.foldl
    (fun text (argument, position) => replaceAll (placeholder position) argument.toList text)
    template.toList

structure Message where
  code : Nat
  category : Category
  template : String
  deriving DecidableEq, Repr

namespace Message

/-! Lines of the specification. -/

def lineWithoutFields : Message :=
  ⟨1001, .error, "Line has no fields after splitting on the \x7b0\x7d separator."⟩

def lineSkipped : Message :=
  ⟨1001, .warning,
    "Skipping line with no fields after splitting on the \x7b0\x7d separator."⟩

def extraFields : Message :=
  ⟨1003, .warning,
    "Token '\x7b0\x7d' has \x7b1\x7d fields; fields after the spelling are ignored."⟩

def unterminatedSpelling : Message :=
  ⟨1004, .error, "Unterminated quoted spelling for token '\x7b0\x7d'."⟩

/-! Names. -/

def duplicateName : Message :=
  ⟨2001, .error, "Duplicate token name '\x7b0\x7d'."⟩

def firstDefinition : Message :=
  ⟨2002, .note, "'\x7b0\x7d' was first defined here."⟩

/-! Spellings. -/

def nonAsciiSpelling : Message :=
  ⟨3001, .error, "Spelling of '\x7b0\x7d' contains non-ASCII character '\x7b1\x7d'."⟩

def spellingTaken : Message :=
  ⟨3002, .error, "Spelling \x7b0\x7d of '\x7b1\x7d' is already bound to '\x7b2\x7d'."⟩

def overlapWarning : Message :=
  ⟨3003, .warning,
    "Spelling \x7b0\x7d of '\x7b1\x7d' is a prefix of \x7b2\x7d of '\x7b3\x7d'"
      ++ "; the lexer must resolve it by longest match."⟩

def overlapDenied : Message :=
  ⟨3003, .error,
    "Spelling \x7b0\x7d of '\x7b1\x7d' is a prefix of \x7b2\x7d of '\x7b3\x7d'."⟩

/-! Emission. -/

def undeclaredNoMatch : Message :=
  ⟨4001, .error, "No-match token '\x7b0\x7d' is not declared in the token file."⟩

end Message

end TokenTables
