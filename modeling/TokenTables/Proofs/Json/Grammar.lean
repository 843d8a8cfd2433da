import TokenTables.Json.Document
import TokenTables.Proofs.Json.Spelling

/-!
The grammar of JSON texts. Arrays and objects hold their items and members between commas, in the
order in which they are written, and a name may stand before several members. A text that follows
the grammar is read to its end, and as the value that it was written for, whatever its layout.
-/

namespace TokenTables

namespace Json

/-- A value, or what stands inside an array or an object that is not empty. -/
inductive Phrase
  | value (value : Json)
  | items (items : List Json)
  | members (members : List (String × Json))

namespace Phrase

inductive Lexed : Phrase → List Lexeme → Prop
  | null : Lexed (.value null) [.null]
  | boolean (truth : Bool) : Lexed (.value (boolean truth)) [.boolean truth]
  | text (content : String) : Lexed (.value (text (some content))) [.text (some content)]
  | emptyArray : Lexed (.value (array [] true)) [.openBracket, .closeBracket]
  | array {contents : List Json} {inside : List Lexeme} (items : Lexed (.items contents) inside) :
      Lexed (.value (array contents true)) (.openBracket :: inside ++ [.closeBracket])
  | emptyObject : Lexed (.value (object [] .closed)) [.openBrace, .closeBrace]
  | object {contents : List (String × Json)} {inside : List Lexeme}
      (members : Lexed (.members contents) inside) :
      Lexed (.value (object contents .closed)) (.openBrace :: inside ++ [.closeBrace])
  | lastItem {item : Json} {inside : List Lexeme} (last : Lexed (.value item) inside) :
      Lexed (.items [item]) inside
  | item {item : Json} {others : List Json} {inside later : List Lexeme}
      (first : Lexed (.value item) inside) (rest : Lexed (.items others) later) :
      Lexed (.items (item :: others)) (inside ++ .comma :: later)
  | lastMember {value : Json} {inside : List Lexeme} (name : String)
      (last : Lexed (.value value) inside) :
      Lexed (.members [(name, value)]) (.text (some name) :: .colon :: inside)
  | member {value : Json} {others : List (String × Json)} {inside later : List Lexeme}
      (name : String) (first : Lexed (.value value) inside) (rest : Lexed (.members others) later) :
      Lexed (.members ((name, value) :: others))
        (.text (some name) :: .colon :: inside ++ .comma :: later)

/-- What the lexemes do to a reader that meets them where the phrase may stand. Inside a container
they are followed by its closing lexeme. -/
def Reads : Phrase → List Lexeme → Prop
  | .value found, written => ∀ around place rest, place = .value ∨ place = .firstItem →
    readFrom around place (written ++ rest) = readFrom around (.after found) rest
  | .items found, written => ∀ around place before rest, place = .value ∨ place = .firstItem →
    readFrom (.array before :: around) place (written ++ .closeBracket :: rest) =
      readFrom around (.after (.array (before.reverse ++ found) true)) rest
  | .members found, written => ∀ around first before rest,
    readFrom around (.key first before) (written ++ .closeBrace :: rest) =
      readFrom around (.after (.object (before.reverse ++ found) .closed)) rest

theorem Lexed.reads {phrase : Phrase} {written : List Lexeme} (lexed : Lexed phrase written) :
    phrase.Reads written := by
  -- A container is opened by one step, after which its contents are read as a phrase of their own.
  induction lexed with
  | null | boolean _ | text _ | emptyArray | emptyObject =>
    rintro around place rest (rfl | rfl) <;> rfl
  | @array contents inside _ ih =>
    intro around place rest starts
    have opened : readFrom around place (.openBracket :: inside ++ [.closeBracket] ++ rest) =
        readFrom (.array [] :: around) .firstItem (inside ++ .closeBracket :: rest) := by
      rw [List.append_assoc]
      rcases starts with rfl | rfl <;> rfl
    rw [opened, ih around .firstItem [] rest (.inr rfl)]
    rfl
  | @object contents inside _ ih =>
    intro around place rest starts
    have opened : readFrom around place (.openBrace :: inside ++ [.closeBrace] ++ rest) =
        readFrom around (.key true []) (inside ++ .closeBrace :: rest) := by
      rw [List.append_assoc]
      rcases starts with rfl | rfl <;> rfl
    rw [opened, ih around true [] rest]
    rfl
  | @lastItem item _ _ ih =>
    intro around place before rest starts
    have closed : readFrom (.array before :: around) (.after item) (.closeBracket :: rest) =
        readFrom around (.after (.array (item :: before).reverse true)) rest := rfl
    rw [ih _ _ _ starts, closed, List.reverse_cons]
  | @item item others _ later _ _ ih ihRest =>
    intro around place before rest starts
    have next : readFrom (.array before :: around) (.after item)
        (.comma :: (later ++ .closeBracket :: rest)) =
          readFrom (.array (item :: before) :: around) .value (later ++ .closeBracket :: rest) :=
      rfl
    rw [List.append_assoc, List.cons_append, ih _ _ _ starts, next, ihRest _ _ _ _ (.inl rfl),
      List.reverse_cons, List.append_assoc, List.singleton_append]
  | @lastMember value inside name _ ih =>
    intro around first before rest
    have named : readFrom around (.key first before)
        (.text (some name) :: .colon :: inside ++ .closeBrace :: rest) =
          readFrom (.object before name :: around) .value (inside ++ .closeBrace :: rest) := by
      cases first <;> rfl
    have closed : readFrom (.object before name :: around) (.after value) (.closeBrace :: rest) =
        readFrom around (.after (.object ((name, value) :: before).reverse .closed)) rest := rfl
    rw [named, ih _ _ _ (.inl rfl), closed, List.reverse_cons]
  | @member value others inside later name _ _ ih ihRest =>
    intro around first before rest
    have named : readFrom around (.key first before)
        (.text (some name) :: .colon :: inside ++ .comma :: later ++ .closeBrace :: rest) =
          readFrom (.object before name :: around) .value
            (inside ++ .comma :: (later ++ .closeBrace :: rest)) := by
      rw [List.append_assoc]
      cases first <;> rfl
    have next : readFrom (.object before name :: around) (.after value)
        (.comma :: (later ++ .closeBrace :: rest)) =
          readFrom around (.key false ((name, value) :: before))
            (later ++ .closeBrace :: rest) := rfl
    rw [named, ih _ _ _ (.inl rfl), next, ihRest, List.reverse_cons, List.append_assoc,
      List.singleton_append]

/-- A text for a phrase, in any layout and with any escapes. -/
def Written (phrase : Phrase) (text : String) : Prop :=
  ∃ lexemes, phrase.Lexed lexemes ∧ Laid lexemes text.toList

end Phrase

def Written (value : Json) (text : String) : Prop := (Phrase.value value).Written text

theorem read_of_written {value : Json} {text : String} (written : Written value text) :
    read text = ⟨value, true⟩ := by
  obtain ⟨found, lexed, laid⟩ := written
  have whole := lexed.reads [] .value [] (.inl rfl)
  rw [read, lexemes_of_laid laid]
  rwa [List.append_nil] at whole

end Json

end TokenTables
