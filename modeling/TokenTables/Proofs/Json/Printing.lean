import Mathlib.Data.List.Forall2
import TokenTables.Json.Text
import TokenTables.Proofs.Json.Grammar

/-!
Texts that follow the grammar. A quoted string escapes what has to be escaped, and texts are put
together from texts.
-/

namespace TokenTables

namespace Json

theorem hexDigit_eq (value : Nat) : HexDigit (value % 16) (hexDigit value) := by
  have all : ∀ value < 16, HexDigit value (hexDigit value) := by
    unfold HexDigit
    decide
  have small := Nat.mod_lt value (show 0 < 16 by decide)
  have same : hexDigit (value % 16) = hexDigit value := by
    rw [hexDigit, hexDigit, Nat.mod_mod]
  exact same ▸ all _ small

theorem escapeCharacter_spelled (c : Char) : CharSpelled c (escapeCharacter c) := by
  unfold escapeCharacter
  split
  case h_8 noQuote noBackslash _ _ _ _ _ =>
    split
    next control =>
      have zero : HexDigit 0 '0' := ⟨by decide, .inl rfl⟩
      have spelled := UnitSpelled.digits zero zero (hexDigit_eq (c.toNat / 16))
        (hexDigit_eq c.toNat)
      have code : 0x1000 * 0 + 0x100 * 0 + 0x10 * (c.toNat / 16 % 16) + c.toNat % 16 = c.toNat := by
        omega
      rw [code] at spelled
      exact .unit spelled
    next printed => exact .plain (by omega) noQuote noBackslash
  all_goals exact .short (by decide)

theorem quote_spelled (content : String) :
    LexemeSpelled (.text (some content)) (quote content).toList := by
  have parts : List.Forall₂ CharSpelled content.toList (content.toList.map escapeCharacter) :=
    List.forall₂_map_right_iff.2 (List.forall₂_same.2 fun c _ => escapeCharacter_spelled c)
  rw [quote, String.toList_ofList, List.flatMap_def]
  exact .text parts

/-! Texts of several lexemes. -/

theorem Laid.lexeme_text {lexeme : Lexeme} {content : String}
    (spelled : LexemeSpelled lexeme content.toList) : Laid [lexeme] content.toList := by
  have laid := Laid.single spelled (show ([] : List Char).all spaces.contains from rfl)
  rwa [List.append_nil] at laid

theorem written_quote (content : String) : Written (text (some content)) (quote content) :=
  ⟨_, .text content, .lexeme_text (quote_spelled content)⟩

theorem written_null : Written null "null" := ⟨_, .null, .lexeme_text .null⟩

theorem Phrase.Written.followed {phrase : Phrase} {content space : String}
    (written : phrase.Written content) (blank : space.toList.all spaces.contains) :
    phrase.Written (content ++ space) := by
  obtain ⟨inside, lexed, laid⟩ := written
  have whole := laid.append_text (.blank blank)
  rw [List.append_nil] at whole
  exact ⟨inside, lexed, whole⟩

theorem Laid.comma {first second : String} {lexemes others : List Lexeme}
    (laid : Laid lexemes first.toList) (later : Laid others second.toList) :
    Laid (lexemes ++ .comma :: others) (first ++ ",\n" ++ second).toList := by
  have comma : Laid [.comma] ",\n".toList := .single .comma rfl
  have whole := (laid.append_text comma).append_text later
  rwa [List.append_assoc, List.singleton_append] at whole

/-- A container whose contents stand on lines of their own. -/
theorem Laid.enclosed {first last : Lexeme} {opening content margin closing : String}
    {inside : List Lexeme} (opened : Laid [first] opening.toList)
    (laid : Laid inside content.toList) (blank : margin.toList.all spaces.contains)
    (closed : LexemeSpelled last closing.toList) :
    Laid (first :: inside ++ [last]) (opening ++ content ++ "\n" ++ margin ++ closing).toList := by
  have around : ("\n" ++ margin).toList.all spaces.contains := by
    rw [String.toList_append, List.all_append, blank]
    rfl
  have last := (Laid.lexeme_text closed).spaced around
  rw [← String.toList_append] at last
  have whole := (opened.append_text laid).append_text last
  rwa [← String.append_assoc, ← String.append_assoc] at whole

section

variable {lead : String} (blank : lead.toList.all spaces.contains)

include blank

theorem laid_member {name value : String} {inside : List Lexeme}
    (laid : Laid inside value.toList) :
    Laid (.text (some name) :: .colon :: inside) (lead ++ quote name ++ ": " ++ value).toList := by
  have named := (Laid.lexeme_text (quote_spelled name)).spaced blank
  rw [← String.toList_append] at named
  have colon : Laid [.colon] ": ".toList := .single .colon rfl
  exact (named.append_text colon).append_text laid

theorem written_members {texts : List (String × String)} {values : List (String × Json)}
    (each : List.Forall₂ (fun text value => text.1 = value.1 ∧ Written value.2 text.2) texts values)
    (nonempty : texts ≠ []) :
    (Phrase.members values).Written
      (",\n".intercalate (texts.map fun (name, value) => lead ++ quote name ++ ": " ++ value)) := by
  induction each with
  | nil => contradiction
  | @cons text value others values first rest ih =>
    obtain ⟨name, value⟩ := value
    obtain ⟨rfl, inside, lexed, laid⟩ := first
    have member : Laid (.text text.1 :: .colon :: inside)
        (lead ++ quote text.1 ++ ": " ++ text.2).toList := laid_member blank laid
    cases rest with
    | nil => exact ⟨_, .lastMember text.1 lexed, member⟩
    | cons next rest =>
      obtain ⟨later, others, laidLater⟩ := ih (List.cons_ne_nil _ _)
      rw [List.map_cons, List.map_cons, String.intercalate_cons_cons]
      exact ⟨_, .member text.1 lexed others, member.comma laidLater⟩

theorem written_items {items : List String} (nonempty : items ≠ []) :
    (Phrase.items (items.map fun item => text (some item))).Written
      (",\n".intercalate (items.map fun item => lead ++ quote item)) := by
  induction items with
  | nil => contradiction
  | cons item rest ih =>
    have string := (Laid.lexeme_text (quote_spelled item)).spaced blank
    rw [← String.toList_append] at string
    cases rest with
    | nil => exact ⟨_, .lastItem (.text item), string⟩
    | cons next rest =>
      obtain ⟨later, others, laidLater⟩ := ih (List.cons_ne_nil _ _)
      show (Phrase.items _).Written (",\n".intercalate
        ((lead ++ quote item) :: (lead ++ quote next) :: rest.map fun item => lead ++ quote item))
      rw [String.intercalate_cons_cons]
      exact ⟨_, .item (.text item) others, string.comma laidLater⟩

end

end Json

end TokenTables
