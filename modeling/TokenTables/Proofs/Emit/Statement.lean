import TokenTables.Proofs.Emit.Lines
import TokenTables.Proofs.Text.StringLiteral

/-!
The statements of a comparison chain read back from their lines. What stands before a literal and
after it is fixed in each target, and the literal ends at its own quote, so a spelling may look like
any part of a statement. The value that is returned is read as far as the characters of a path go.
-/

namespace TokenTables

open OutlineReading (stripLead stripLead_append)

def isWordChar (c : Char) : Bool := c.isAlphanum || c == '_'

def isPathChar (c : Char) : Bool := isWordChar c || c == ':'

def IsWord (text : String) : Prop := ∀ c ∈ text.toList, isWordChar c = true

def IsPath (text : String) : Prop := ∀ c ∈ text.toList, isPathChar c = true

instance : DecidablePred IsWord := fun text => List.decidableBAll _ text.toList

instance : DecidablePred IsPath := fun text => List.decidableBAll _ text.toList

theorem IsWord.isPath {text : String} (word : IsWord text) : IsPath text := by
  intro c member
  rw [isPathChar, word c member, Bool.true_or]

theorem IsPath.append {first second : String} (left : IsPath first) (right : IsPath second) :
    IsPath (first ++ second) := by
  unfold IsPath
  rw [String.toList_append, List.forall_mem_append]
  exact ⟨left, right⟩

theorem IsPath.notMem {text : String} (path : IsPath text) {c : Char}
    (other : isPathChar c = false) : c ∉ text.toList := by
  intro member
  rw [path c member] at other
  contradiction

def Vocabulary.Worded (vocabulary : Vocabulary) : Prop := ∀ name ∈ vocabulary.names, IsWord name

instance (vocabulary : Vocabulary) : Decidable vocabulary.Worded :=
  inferInstanceAs (Decidable (∀ name ∈ vocabulary.names, IsWord name))

/-- No spelling has a zero character, which ends a text in C. -/
def Vocabulary.ZeroFree (vocabulary : Vocabulary) : Prop :=
  ∀ declaration ∈ vocabulary.declarations, ∀ spelling ∈ declaration.spelling,
    '\x00' ∉ spelling.toList

instance (vocabulary : Vocabulary) : Decidable vocabulary.ZeroFree :=
  inferInstanceAs (Decidable (∀ declaration ∈ vocabulary.declarations,
    ∀ spelling ∈ declaration.spelling, '\x00' ∉ spelling.toList))

theorem takeWhile_stop {class? : Char → Bool} {text rest : List Char} {next : Char}
    (inside : ∀ c ∈ text, class? c = true) (start : rest.head? = some next)
    (outside : class? next = false) :
    (text ++ rest).takeWhile class? = text ∧ (text ++ rest).dropWhile class? = rest := by
  obtain ⟨later, rfl⟩ := List.head?_eq_some_iff.1 start
  have stop : ¬ class? next = true := Bool.eq_false_iff.1 outside
  rw [List.takeWhile_append_of_pos inside, List.dropWhile_append_of_pos inside,
    List.takeWhile_cons_of_neg stop, List.dropWhile_cons_of_neg stop, List.append_nil]
  exact ⟨rfl, rfl⟩

theorem not_lead {lead : String} {text : List Char} (first : Char)
    (start : lead.toList.head? = some first) (other : text.head? ≠ some first) :
    ¬ lead.toList <+: text := by
  intro found
  obtain ⟨rest, rfl⟩ := found
  rw [List.head?_append, start] at other
  exact other rfl

theorem stripLead_eq_none {lead : String} {text : List Char} (other : ¬ lead.toList <+: text) :
    stripLead lead text = none :=
  if_neg other

namespace Dialect

structure Worded (dialect : Dialect) : Prop where
  identifierLead : IsWord dialect.identifierLead
  kindPath : IsPath dialect.kindPath

def kindLead (dialect : Dialect) : String := dialect.kind ""

theorem kind_eq (dialect : Dialect) (name : String) :
    dialect.kind name = dialect.kindLead ++ name := by
  unfold kindLead kind enumerator
  cases dialect.target <;> simp [String.append_assoc]

theorem Worded.isPath_kindLead {dialect : Dialect} (worded : dialect.Worded) :
    IsPath dialect.kindLead := by
  have scope : IsPath "::" := by decide
  have nothing : IsPath "" := by decide
  unfold kindLead kind enumerator
  cases dialect.target with
  | c => exact worded.identifierLead.isPath.append nothing
  | cpp => exact (worded.kindPath.append scope).append nothing

theorem Worded.isPath_kind {dialect : Dialect} (worded : dialect.Worded) {name : String}
    (word : IsWord name) : IsPath (dialect.kind name) := by
  rw [kind_eq]
  exact worded.isPath_kindLead.append word.isPath

def testLead (dialect : Dialect) : String :=
  match dialect.target with
  | .c => "if (strcmp(str, "
  | .cpp => "if (str == "

def testTail (dialect : Dialect) : String :=
  match dialect.target with
  | .c => ") == 0) return "
  | .cpp => ") return "

def testLine (dialect : Dialect) (literal value : String) : String :=
  "if (" ++ dialect.equals literal ++ ") return " ++ value ++ ";"

theorem testLine_eq (dialect : Dialect) (literal value : String) :
    dialect.testLine literal value =
      dialect.testLead ++ (literal ++ (dialect.testTail ++ (value ++ ";"))) := by
  have called : "if (" ++ "strcmp(str, " = "if (strcmp(str, " := by decide
  have compared : ") == 0" ++ ") return " = ") == 0) return " := by decide
  have infixed : "if (" ++ "str == " = "if (str == " := by decide
  unfold testLine equals testLead testTail
  cases dialect.target with
  | c => simp only [← called, ← compared, String.append_assoc]
  | cpp => simp only [← infixed, String.append_assoc]

end Dialect

/-- A statement: the value is returned if the text is the literal, or it is returned anyway. -/
inductive Statement
  | test (literal : List UInt8) (value : String)
  | result (value : String)
  deriving DecidableEq

namespace Statement

def readValue? (text : List Char) : Option String :=
  if text.dropWhile isPathChar = [';'] then some (String.ofList (text.takeWhile isPathChar))
  else none

def readTest? (dialect : Dialect) (text : List Char) : Option Statement := do
  let (literal, rest) ← Literal.readString (← stripLead dialect.testLead text)
  return .test literal (← readValue? (← stripLead dialect.testTail rest))

def readResult? (text : List Char) : Option Statement := do
  return .result (← readValue? (← stripLead "return " text))

def read? (dialect : Dialect) (text : List Char) : Option Statement :=
  readTest? dialect text <|> readResult? text

theorem readValue?_append {value : String} (path : IsPath value) :
    readValue? (value ++ ";").toList = some value := by
  have semicolon : isPathChar ';' = false := by decide
  have line : (value ++ ";").toList = value.toList ++ [';'] := String.toList_append ..
  have stop : (value.toList ++ [';']).takeWhile isPathChar = value.toList ∧
      (value.toList ++ [';']).dropWhile isPathChar = [';'] := takeWhile_stop path rfl semicolon
  rw [readValue?, line, stop.2, stop.1, if_pos rfl, String.ofList_toList]

/-- A comparison is read as the bytes of its literal and the value, whatever the literal holds. -/
theorem read?_test (dialect : Dialect) (text : String) {value : String} (path : IsPath value) :
    read? dialect (dialect.testLine (Literal.string text) value).toList =
      some (.test (Literal.asRead (utf8Bytes text)) value) := by
  have test : readTest? dialect (dialect.testLine (Literal.string text) value).toList =
      some (.test (Literal.asRead (utf8Bytes text)) value) := by
    rw [Dialect.testLine_eq, String.toList_append, String.toList_append, readTest?,
      stripLead_append]
    simp only [Option.bind_eq_bind, Option.bind_some, Literal.readString_string]
    rw [String.toList_append, stripLead_append, Option.bind_some, readValue?_append path]
    rfl
  rw [read?, test]
  rfl

theorem read?_result (dialect : Dialect) {value : String} (path : IsPath value) :
    read? dialect ("return " ++ value ++ ";").toList = some (.result value) := by
  have other : readTest? dialect ("return " ++ value ++ ";").toList = none := by
    have conditional : dialect.testLead.toList.head? = some 'i' := by
      unfold Dialect.testLead
      cases dialect.target <;> decide
    have start : ("return " ++ value ++ ";").toList.head? ≠ some 'i' := by
      simp [String.toList_append]
    rw [readTest?, stripLead_eq_none (not_lead 'i' conditional start)]
    rfl
  have result : readResult? ("return " ++ value ++ ";").toList = some (.result value) := by
    rw [String.append_assoc, String.toList_append, readResult?, stripLead_append]
    simp only [Option.bind_eq_bind, Option.bind_some, readValue?_append path]
    rfl
  rw [read?, other, result]
  rfl

theorem solid_test {dialect : Dialect} (text : String) {value : String}
    (path : IsPath value) : Layout.Solid (dialect.testLine (Literal.string text) value) := by
  have lead : Layout.Solid dialect.testLead := by
    unfold Dialect.testLead
    cases dialect.target <;> exact ⟨by decide, by decide⟩
  have tail : '\n' ∉ dialect.testTail.toList := by
    unfold Dialect.testTail
    cases dialect.target <;> decide
  have literal := (Literal.string_unbroken text).1
  have name : '\n' ∉ value.toList := path.notMem (by decide)
  rw [Dialect.testLine_eq]
  apply lead.append
  simp [literal, tail, name]

theorem solid_result {value : String} (path : IsPath value) :
    Layout.Solid ("return " ++ value ++ ";") := by
  have lead : Layout.Solid "return " := ⟨by decide, by decide⟩
  have name : '\n' ∉ value.toList := path.notMem (by decide)
  rw [String.append_assoc]
  apply lead.append
  simp [name]

def function (tests : List (List UInt8 × String)) (value : String) : List Statement :=
  tests.map (fun test => .test test.1 test.2) ++ [.result value]

def run : List Statement → List UInt8 → Option String
  | [], _ => none
  | .test literal value :: rest, text => if literal = text then some value else run rest text
  | .result value :: _, _ => some value

end Statement

end TokenTables
