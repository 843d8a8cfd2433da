import Mathlib.Data.List.DropRight
import Mathlib.Data.List.TakeWhile
import TokenTables.Spec.Reading

/-!
What a line says, told from its text. A line is passed over if it is blank or a comment. Any other
line is split into fields, and it declares a token if its first field holds a character that is
neither white space nor a quote.
-/

namespace TokenTables

theorem trimBoth_eq_nil_iff (drop : Char → Bool) (text : List Char) :
    trimBoth drop text = [] ↔ ∀ c ∈ text, drop c = true := by
  rw [trimBoth, List.reverse_eq_nil_iff, List.dropWhile_eq_nil_iff]
  simp only [List.mem_reverse]
  rw [← List.dropWhile_eq_nil_iff, List.dropWhile_idempotent, List.dropWhile_eq_nil_iff]

/-- A line that contributes nothing: it is blank, or starts with the comment marker. -/
def PassedOver (format : SpecFormat) (text : String) : Prop :=
  text.toList.dropWhile isBlank = [] ∨
    format.commentMarker ≠ "" ∧
      format.commentMarker.toList <+: text.toList.dropWhile isBlank

instance (format : SpecFormat) (text : String) : Decidable (PassedOver format text) :=
  inferInstanceAs (Decidable (_ ∨ _))

def CanName (text : String) : Prop := ∃ c ∈ text.toList, c ≠ '"' ∧ isBlank c = false

theorem Field.isName_iff (field : Field) : field.isName = true ↔ CanName field.text := by
  have trimmed := trimBoth_eq_nil_iff (fun c => c == '"' || isBlank c) field.text.toList
  rw [isName, Bool.not_eq_true', List.isEmpty_eq_false_iff, ne_eq, trimmed]
  simp [CanName]

namespace LineContent

variable {format : SpecFormat} {text : String}

theorem ofLine_passedOver (passed : PassedOver format text) : ofLine format text = nothing := by
  unfold ofLine
  rcases passed with blank | comment
  · simp [blank]
  · have marked : !format.commentMarker.isEmpty &&
        format.commentMarker.toList.isPrefixOf (text.toList.dropWhile isBlank) := by
      simp [comment.1, comment.2]
    simp only [marked, if_true, ite_self]

theorem ofLine_content (content : ¬PassedOver format text) :
    (text.toList.dropWhile isBlank).isEmpty = false ∧
      (!format.commentMarker.isEmpty &&
        format.commentMarker.toList.isPrefixOf (text.toList.dropWhile isBlank)) = false := by
  have visible := (not_or.1 content).1
  have uncommented := (not_or.1 content).2
  refine ⟨List.isEmpty_eq_false_iff.2 visible, ?_⟩
  rw [← Bool.not_eq_true]
  intro marked
  apply uncommented
  simpa using marked

theorem ofLine_unterminated (content : ¬PassedOver format text) {fields : List Field}
    (split : Field.split format.separator.character text.toList = .error ⟨fields⟩) :
    ofLine format text = unterminated ((fields.head?.map Field.text).getD "") := by
  simp only [ofLine, ofLine_content content, split, Bool.false_eq_true, if_false]

theorem ofLine_token (content : ¬PassedOver format text) {first : Field} {others : List Field}
    (split : Field.split format.separator.character text.toList = .ok (first :: others))
    (name : CanName first.text) :
    ofLine format text =
      token first.text (others.head?.map Field.spelling) (others.length + 1) := by
  have named := (Field.isName_iff first).2 name
  simp only [ofLine, ofLine_content content, split, named, Bool.false_eq_true, if_false, if_true]

theorem ofLine_nameless (content : ¬PassedOver format text) {fields : List Field}
    (split : Field.split format.separator.character text.toList = .ok fields)
    (noName : ∀ first ∈ fields.head?, ¬CanName first.text) :
    ofLine format text = nameless := by
  cases fields with
  | nil => simp only [ofLine, ofLine_content content, split, Bool.false_eq_true, if_false]
  | cons first others =>
    have unnamed : first.isName = false := by
      rw [← Bool.not_eq_true, Field.isName_iff]
      exact noName first rfl
    simp only [ofLine, ofLine_content content, split, unnamed, Bool.false_eq_true, if_false]

end LineContent

end TokenTables
