import Mathlib.Data.List.Basic
import TokenTables.Proofs.Spec.FieldWriting
import TokenTables.Proofs.Spec.LineContent
import TokenTables.Proofs.Text.LiteralReading
import TokenTables.Proofs.Token.Declaring

/-!
Writing a specification. A declaration takes one line: its name, and after the separator its
spelling as a string literal. The literal of a printable spelling is one of the ways to write a
quoted field, and it keeps to its line. So a vocabulary is read back from its lines, each
declaration at the number of its line.
-/

namespace TokenTables

/-! Lines that are joined by line feeds. -/

theorem linesFrom_append {line : List Char} (unbroken : '\n' ∉ line) (current rest : List Char) :
    linesFrom current (line ++ rest) = linesFrom (line.reverse ++ current) rest := by
  induction line generalizing current with
  | nil => rfl
  | cons c line ih =>
    have apart : c ≠ '\n' ∧ '\n' ∉ line := by simpa [eq_comm] using unbroken
    rw [List.cons_append, linesFrom, ih apart.2, List.reverse_cons, List.append_assoc]
    · rfl
    · exact apart.1

/-- A line that neither breaks nor ends in a carriage return is read up to its line feed. -/
theorem linesFrom_line {line : List Char} (unbroken : '\n' ∉ line) (noReturn : '\r' ∉ line)
    (rest : List Char) : linesFrom [] (line ++ '\n' :: rest) = line :: linesFrom [] rest := by
  rw [linesFrom_append unbroken, List.append_nil, linesFrom, List.reverse_reverse]
  intro before last
  have member : '\r' ∈ line.reverse := last ▸ List.mem_cons_self
  exact noReturn (List.mem_reverse.1 member)

theorem linesFrom_intercalate {lines : List (List Char)}
    (each : ∀ line ∈ lines, line ≠ [] ∧ '\n' ∉ line ∧ '\r' ∉ line) :
    linesFrom [] (['\n'].intercalate lines) = lines := by
  induction lines with
  | nil => rfl
  | cons line lines ih =>
    have first := List.forall_mem_cons.1 each
    cases lines with
    | nil =>
      have last : line.reverse ≠ [] := by simpa using first.1.1
      have whole : ['\n'].intercalate [line] = line ++ [] := by simp
      rw [whole, linesFrom_append first.1.2.1, List.append_nil, linesFrom, if_neg last,
        List.reverse_reverse]
    | cons next lines =>
      rw [List.intercalate_cons_cons, List.append_assoc, List.singleton_append,
        linesFrom_line first.1.2.1 first.1.2.2, ih first.2]

/-! Literals as quoted fields. -/

/-- Printable ASCII, a tab or a line feed. -/
def Writable (c : Char) : Prop := c = '\t' ∨ c = '\n' ∨ 0x20 ≤ c.toNat ∧ c.toNat ≤ 0x7E

instance : DecidablePred Writable := fun _ => inferInstanceAs (Decidable (_ ∨ _))

def literalForm (c : Char) : List Char := (String.utf8EncodeChar c).flatMap (Literal.escape '"')

theorem literalForm_writable {c : Char} (writable : Writable c) :
    literalForm c ∈ Field.quotedForms c := by
  have each : ∀ code : Fin 128, Writable (Char.ofNat code) →
      literalForm (Char.ofNat code) ∈ Field.quotedForms (Char.ofNat code) := by
    decide
  have small : c.toNat < 128 := by
    rcases writable with rfl | rfl | printable
    · decide
    · decide
    · omega
  have found := each ⟨c.toNat, small⟩
  simp only [Char.ofNat_toNat] at found
  exact found writable

theorem string_eq_forms (text : String) :
    (Literal.string text).toList = '"' :: (text.toList.map literalForm).flatten ++ ['"'] := by
  rw [Literal.string, String.toList_ofList, utf8Bytes, List.flatMap_assoc, List.flatMap_def]
  rfl

theorem written_string {text : String} (writable : ∀ c ∈ text.toList, Writable c) :
    Field.Written ⟨text, true⟩ (Literal.string text).toList := by
  rw [string_eq_forms]
  apply Field.Written.quoted
  apply List.forall₂_map_right_iff.2
  exact List.forall₂_same.2 fun c member => literalForm_writable (writable c member)

/-! One line. -/

structure WritableName (separator : Char) (name : String) : Prop where
  plain : Field.Plain separator name.toList
  unbroken : '\n' ∉ name.toList ∧ '\r' ∉ name.toList

def specLine (separator : Separator) (declaration : Declaration) : String :=
  match declaration.spelling with
  | none => declaration.name
  | some spelling =>
    declaration.name ++ String.singleton separator.character ++ Literal.string spelling

def specText (separator : Separator) (vocabulary : Vocabulary) : String :=
  "\n".intercalate (vocabulary.declarations.map (specLine separator))

/-- What a declaration must be like to be read back from its line. -/
structure WritableDeclaration (separator : Separator) (declaration : Declaration) : Prop where
  name : WritableName separator.character declaration.name
  spelling : ∀ spelling ∈ declaration.spelling, ∀ c ∈ spelling.toList, Writable c

def specFields (declaration : Declaration) : List Field :=
  ⟨declaration.name, false⟩ :: (declaration.spelling.map fun spelling => ⟨spelling, true⟩).toList

section Line

variable {separator : Separator} {declaration : Declaration}

theorem split_specLine (writable : WritableDeclaration separator declaration) :
    Field.split separator.character (specLine separator declaration).toList =
      .ok (specFields declaration) := by
  have name : Field.WellFormed separator.character ⟨declaration.name, false⟩ :=
    writable.name.plain
  unfold specLine specFields
  cases spelt : declaration.spelling with
  | none =>
    have split := Field.split_intercalate (List.forall_mem_singleton.2 name)
      (.cons (.plain declaration.name) .nil)
    rwa [List.intercalate_singleton] at split
  | some spelling =>
    have quoted : Field.WellFormed separator.character ⟨spelling, true⟩ := by
      show separator.character ≠ '"'
      cases separator <;> decide
    have literal := written_string (writable.spelling spelling spelt)
    have split := Field.split_intercalate
      (List.forall_mem_cons.2 ⟨name, List.forall_mem_singleton.2 quoted⟩)
      (.cons (.plain declaration.name) (.cons literal .nil))
    rw [List.intercalate_cons_cons, List.intercalate_singleton] at split
    simpa using split

theorem specLine_start (writable : WritableDeclaration separator declaration) :
    ∃ first rest, (specLine separator declaration).toList = first :: rest ∧
      isBlank first = false ∧ CanName declaration.name := by
  have plain := writable.name.plain
  have listed : ∃ after, (specLine separator declaration).toList =
      declaration.name.toList ++ after := by
    unfold specLine
    cases declaration.spelling with
    | none => exact ⟨[], (List.append_nil _).symm⟩
    | some spelling =>
      simp only [String.toList_append, List.append_assoc]
      exact ⟨_, rfl⟩
  rcases listed with ⟨after, whole⟩
  rw [whole, CanName]
  cases letters : declaration.name.toList with
  | nil => exact absurd letters plain.nonempty
  | cons first rest =>
    have visible : isBlank first = false := plain.startsVisible first (by rw [letters]; rfl)
    have unquoted : first ≠ '"' := fun quote => plain.unquoted (by rw [letters, quote]; rfl)
    exact ⟨first, rest ++ after, rfl, visible, first, List.mem_cons_self, unquoted, visible⟩

theorem specLine_unbroken (writable : WritableDeclaration separator declaration) :
    '\n' ∉ (specLine separator declaration).toList ∧
      '\r' ∉ (specLine separator declaration).toList := by
  have name := writable.name.unbroken
  unfold specLine
  cases spelt : declaration.spelling with
  | none => exact name
  | some spelling =>
    have literal := Literal.string_unbroken spelling
    have between : '\n' ≠ separator.character ∧ '\r' ≠ separator.character := by
      cases separator <;> decide
    simp only [String.toList_append, String.toList_singleton, List.mem_append,
      List.mem_singleton, not_or]
    exact ⟨⟨⟨name.1, between.1⟩, literal.1⟩, ⟨name.2, between.2⟩, literal.2⟩

theorem ofLine_specLine {format : SpecFormat}
    (writable : WritableDeclaration format.separator declaration)
    (uncommented : format.commentMarker ≠ "" →
      ¬format.commentMarker.toList <+: (specLine format.separator declaration).toList) :
    ∃ fieldCount, fieldCount ≤ 2 ∧
      LineContent.ofLine format (specLine format.separator declaration) =
        .token declaration.name declaration.spelling fieldCount := by
  rcases specLine_start writable with ⟨first, rest, whole, visible, named⟩
  have trimmed : (specLine format.separator declaration).toList.dropWhile isBlank =
      (specLine format.separator declaration).toList := by
    rw [whole]
    exact List.dropWhile_cons_of_neg (by simp [visible])
  have content : ¬PassedOver format (specLine format.separator declaration) := by
    rw [PassedOver, trimmed, not_or, not_and]
    exact ⟨by simp [whole], uncommented⟩
  have split := split_specLine writable
  rw [LineContent.ofLine_token content split named]
  cases declaration.spelling with
  | none => exact ⟨1, by decide, rfl⟩
  | some spelling => exact ⟨2, by decide, rfl⟩

end Line

/-! The whole text. -/

def Declaration.atLine (declaration : Declaration) (line : Nat) : Declaration :=
  { declaration with line := line }

theorem Declaration.make_atLine (declaration : Declaration) (line : Nat) :
    make declaration.name declaration.spelling line = declaration.atLine line :=
  (declaration.atLine line).make_fields

namespace Reading

variable {format : SpecFormat} {declaration : Declaration}

/-- Reading the line of a declaration whose name is new adds the declaration and nothing else. -/
theorem readLine_specLine (file : Option String) (reading : Reading) (line : Nat)
    (writable : WritableDeclaration format.separator declaration)
    (uncommented : format.commentMarker ≠ "" →
      ¬format.commentMarker.toList <+: (specLine format.separator declaration).toList)
    (fresh : declaration.name ∉ reading.vocabulary.names) :
    ∃ grown, reading.readLine format file line (specLine format.separator declaration) =
        ⟨grown, reading.report⟩ ∧
      grown.declarations = reading.vocabulary.declarations ++ [declaration.atLine line] := by
  rcases ofLine_specLine writable uncommented with ⟨fieldCount, few, content⟩
  have made : (declaration.atLine line).name ∉ reading.vocabulary.names := fresh
  rcases Vocabulary.declare_fresh made with ⟨grown, declared, grownBy⟩
  refine ⟨grown, ?_, grownBy⟩
  rw [readLine, content, addContent, noteExtraFields, if_neg (Nat.not_lt.2 few),
    Declaration.make_atLine, declare, declared]

theorem foldl_specLines (file : Option String) (rest : List Declaration) (start : Nat)
    (reading : Reading)
    (writable : ∀ declaration ∈ rest, WritableDeclaration format.separator declaration)
    (uncommented : format.commentMarker ≠ "" → ∀ declaration ∈ rest,
      ¬format.commentMarker.toList <+: (specLine format.separator declaration).toList)
    (distinct : (reading.vocabulary.names ++ rest.map Declaration.name).Nodup) :
    ∃ grown, ((rest.map (specLine format.separator)).zipIdx start).foldl
        (fun reading (text, position) => reading.readLine format file (position + 1) text)
        reading = ⟨grown, reading.report⟩ ∧
      grown.declarations = reading.vocabulary.declarations ++
        (rest.zipIdx start).map fun (declaration, position) =>
          declaration.atLine (position + 1) := by
  induction rest generalizing start reading with
  | nil => exact ⟨reading.vocabulary, rfl, by simp⟩
  | cons declaration rest ih =>
    have first := List.forall_mem_cons.1 writable
    have fresh : declaration.name ∉ reading.vocabulary.names := by
      intro taken
      exact (List.nodup_append.1 distinct).2.2 _ taken _ List.mem_cons_self rfl
    have uncommentedFirst := fun marked => (List.forall_mem_cons.1 (uncommented marked)).1
    rcases readLine_specLine file reading (start + 1) first.1 uncommentedFirst fresh with
      ⟨grown, read, grownBy⟩
    have names : grown.names = reading.vocabulary.names ++ [declaration.name] := by
      rw [Vocabulary.names, grownBy, List.map_append]
      rfl
    have later := ih (start + 1) ⟨grown, reading.report⟩ first.2
      (fun marked => (List.forall_mem_cons.1 (uncommented marked)).2)
      (by simpa [names] using distinct)
    rcases later with ⟨whole, readAll, wholeBy⟩
    refine ⟨whole, ?_, ?_⟩
    · rw [List.map_cons, List.zipIdx_cons, List.foldl_cons]
      simp only [read]
      exact readAll
    · rw [wholeBy, grownBy, List.zipIdx_cons, List.map_cons, List.append_assoc]
      rfl

end Reading

theorem textLines_specText {separator : Separator} {vocabulary : Vocabulary}
    (writable : ∀ declaration ∈ vocabulary.declarations,
      WritableDeclaration separator declaration) :
    textLines (specText separator vocabulary) =
      vocabulary.declarations.map (specLine separator) := by
  have each : ∀ line ∈ (vocabulary.declarations.map (specLine separator)).map String.toList,
      line ≠ [] ∧ '\n' ∉ line ∧ '\r' ∉ line := by
    intro line member
    simp only [List.map_map, List.mem_map, Function.comp_apply] at member
    rcases member with ⟨declaration, declared, rfl⟩
    rcases specLine_start (writable declaration declared) with ⟨first, rest, whole, _⟩
    exact ⟨by simp [whole], specLine_unbroken (writable declaration declared)⟩
  rw [textLines, specText, String.toList_intercalate]
  show (linesFrom [] (['\n'].intercalate _)).map String.ofList = _
  rw [linesFrom_intercalate each, List.map_map]
  simp [Function.comp_def]

/-- A vocabulary is read back from its text without a report, if none of its lines is a comment.
Names, spellings and ids are the same, and each declaration is at the number of its line. -/
theorem readSpec_specText (format : SpecFormat) (file : Option String) (vocabulary : Vocabulary)
    (writable : ∀ declaration ∈ vocabulary.declarations,
      WritableDeclaration format.separator declaration)
    (uncommented : format.commentMarker ≠ "" → ∀ declaration ∈ vocabulary.declarations,
      ¬format.commentMarker.toList <+: (specLine format.separator declaration).toList) :
    (readSpec format file (specText format.separator vocabulary)).report = [] ∧
      (readSpec format file (specText format.separator vocabulary)).vocabulary.declarations =
        vocabulary.declarations.zipIdx.map (fun (declaration, position) =>
          declaration.atLine (position + 1)) ∧
      ∀ name, (readSpec format file (specText format.separator vocabulary)).vocabulary.idOf? name =
        vocabulary.idOf? name := by
  have read := Reading.foldl_specLines file vocabulary.declarations 0 Reading.start writable
    uncommented vocabulary.distinct
  rw [← textLines_specText writable] at read
  rcases read with ⟨grown, whole, grownBy⟩
  have result : readSpec format file (specText format.separator vocabulary) = ⟨grown, []⟩ := whole
  have declarations : grown.declarations = vocabulary.declarations.zipIdx.map
      fun (declaration, position) => declaration.atLine (position + 1) := grownBy
  have names : grown.names = vocabulary.names := by
    rw [Vocabulary.names, declarations, List.map_map, Vocabulary.names]
    conv_rhs => rw [← List.zipIdx_map_fst 0 vocabulary.declarations, List.map_map]
    rfl
  rw [result]
  refine ⟨rfl, declarations, fun name => ?_⟩
  rw [Vocabulary.idOf?, Vocabulary.position?, names]
  rfl

def specialVocabulary : Vocabulary where
  declarations := [.make "A b" none 7, .make "COMMA" none 9, .make "//" (some "\n\t\"\\// ") 3]
  distinct := by decide

theorem readSpec_specialVocabulary :
    (∀ declaration ∈ specialVocabulary.declarations, WritableDeclaration .comma declaration) ∧
      (∀ declaration ∈ specialVocabulary.declarations,
        ¬"#".toList <+: (specLine .comma declaration).toList) ∧
      specText .comma specialVocabulary =
        "A b\nCOMMA,\",\"\n//,\"\\n\\t\\\"\\\\// \"" ∧
      (readSpec ⟨.comma, "#", .abort⟩ none (specText .comma specialVocabulary)).report = [] ∧
      (readSpec ⟨.comma, "#", .abort⟩ none
          (specText .comma specialVocabulary)).vocabulary.declarations =
        [.make "A b" none 1, .make "COMMA" none 2, .make "//" (some "\n\t\"\\// ") 3] := by
  have names : ∀ declaration ∈ specialVocabulary.declarations,
      Field.Plain ',' declaration.name.toList ∧
        ('\n' ∉ declaration.name.toList ∧ '\r' ∉ declaration.name.toList) ∧
        (declaration.spelling.getD "").toList.all (fun c => decide (Writable c)) = true := by
    decide
  have writable : ∀ declaration ∈ specialVocabulary.declarations,
      WritableDeclaration .comma declaration := by
    intro declaration declared
    have name := names declaration declared
    refine ⟨⟨name.1, name.2.1⟩, fun spelling held => ?_⟩
    have characters := name.2.2
    rw [Option.mem_def.1 held] at characters
    simpa using characters
  have uncommented : ∀ declaration ∈ specialVocabulary.declarations,
      ¬"#".toList <+: (specLine .comma declaration).toList := by
    decide
  have read := readSpec_specText ⟨.comma, "#", .abort⟩ none specialVocabulary writable
    fun _ => uncommented
  exact ⟨writable, uncommented, by decide, read.1, read.2.1⟩

end TokenTables
