import TokenTables.Proofs.Json.Printing
import TokenTables.Proofs.Settings.ProjectFile

/-!
The text of a project file. The file that is written for settings gives every field in a fixed
order, and is one of their layouts. Main statement: settings are read back from all their layouts,
whatever the order, the white space, the escapes and the unknown names in between, and no text that
gives a field twice is accepted.
-/

namespace TokenTables

open Json

namespace Settings

/-! The file that is written. -/

theorem blank_lead {margin : String} (blank : margin.toList.all spaces.contains) :
    (margin ++ "  ").toList.all spaces.contains := by
  rw [String.toList_append, List.all_append, blank]
  rfl

theorem written_objectText {margin : String} (blank : margin.toList.all spaces.contains)
    {texts : List (String × String)} {values : List (String × Json)}
    (each : List.Forall₂ (fun text value => text.1 = value.1 ∧ Written value.2 text.2) texts values)
    (nonempty : texts ≠ []) : Written (object values .closed) (objectText margin texts) := by
  obtain ⟨inside, lexed, laid⟩ := written_members (blank_lead blank) each nonempty
  exact ⟨_, .object lexed, .enclosed (.single .openBrace rfl) laid blank .closeBrace⟩

theorem written_arrayText {margin : String} (blank : margin.toList.all spaces.contains)
    (items : List String) :
    Written (array (items.map fun item => text (some item)) true) (arrayText margin items) := by
  cases items with
  | nil =>
    rw [arrayText, if_pos List.isEmpty_nil]
    have brackets : Laid [.openBracket, .closeBracket] (['['] ++ [']']) :=
      .append (.single .openBracket rfl) (.single .closeBracket rfl)
    exact ⟨_, .emptyArray, brackets⟩
  | cons item rest =>
    rw [arrayText, if_neg (by simp)]
    obtain ⟨inside, lexed, laid⟩ := written_items (blank_lead blank) (List.cons_ne_nil item rest)
    exact ⟨_, .array lexed, .enclosed (.single .openBracket rfl) laid blank .closeBracket⟩

def optionalValue : Option String → Json
  | some content => .text (some content)
  | none => .null

theorem written_optionalText (content : Option String) :
    Written (optionalValue content) (optionalText content) := by
  cases content with
  | none => exact written_null
  | some content => exact written_quote content

def formatMembers (format : SpecFormat) : List (String × Json) := [
  ("separator", .text (some format.separator.label)),
  ("commentMarker", .text (some format.commentMarker)),
  ("malformed", .text (some format.malformed.label))]

def projectMembers (settings : Settings) : List (String × Json) := [
  ("input", optionalValue settings.input),
  ("format", .object (formatMembers settings.format) .closed),
  ("target", .text (some settings.target.label)),
  ("strategy", .text (some settings.strategy.label)),
  ("outDir", optionalValue settings.outDir),
  ("tokenListFile", .text (some settings.listFile)),
  ("tokenDataFile", .text (some settings.dataFile)),
  ("identifierPrefix", .text (some settings.identifierLead)),
  ("kindPath", .text (some settings.kindPath)),
  ("namespace", optionalValue settings.enclosing),
  ("includes", .array (settings.includes.map fun item => .text (some item)) true),
  ("noMatch", optionalValue settings.noMatch),
  ("prefixOverlap", .text (some settings.overlap.label))]

theorem laysOut_formatMembers (format : SpecFormat) : format.LaysOut (formatMembers format) :=
  laysOut_of_forall₂ SpecFormat.follows.distinct <|
    .cons ⟨rfl, rfl⟩ <| .cons ⟨rfl, rfl⟩ <| .cons ⟨rfl, rfl⟩ .nil

theorem gives_optionalValue (content : Option String) :
    GivesOptional content (optionalValue content) := by
  cases content <;> rfl

theorem laysOut_projectMembers (settings : Settings) :
    LaysOut settings (projectMembers settings) :=
  laysOut_of_forall₂ follows.distinct <|
    .cons ⟨rfl, gives_optionalValue _⟩ <|
    .cons ⟨rfl, _, rfl, laysOut_formatMembers _⟩ <|
    .cons ⟨rfl, rfl⟩ <|
    .cons ⟨rfl, rfl⟩ <|
    .cons ⟨rfl, gives_optionalValue _⟩ <|
    .cons ⟨rfl, rfl⟩ <|
    .cons ⟨rfl, rfl⟩ <|
    .cons ⟨rfl, rfl⟩ <|
    .cons ⟨rfl, rfl⟩ <|
    .cons ⟨rfl, gives_optionalValue _⟩ <|
    .cons ⟨rfl, rfl⟩ <|
    .cons ⟨rfl, gives_optionalValue _⟩ <|
    .cons ⟨rfl, rfl⟩ .nil

theorem written_formatText (format : SpecFormat) :
    Written (.object (formatMembers format) .closed) (formatText format) :=
  written_objectText (by decide)
    (.cons ⟨rfl, written_quote _⟩ <| .cons ⟨rfl, written_quote _⟩ <|
      .cons ⟨rfl, written_quote _⟩ .nil)
    (List.cons_ne_nil _ _)

theorem written_projectText (settings : Settings) :
    Written (.object (projectMembers settings) .closed) (projectText settings) := by
  unfold projectMembers projectText
  refine Phrase.Written.followed (written_objectText (by decide) ?_ (List.cons_ne_nil _ _))
    (by decide)
  exact .cons ⟨rfl, written_optionalText _⟩ <|
    .cons ⟨rfl, written_formatText _⟩ <|
    .cons ⟨rfl, written_quote _⟩ <|
    .cons ⟨rfl, written_quote _⟩ <|
    .cons ⟨rfl, written_optionalText _⟩ <|
    .cons ⟨rfl, written_quote _⟩ <|
    .cons ⟨rfl, written_quote _⟩ <|
    .cons ⟨rfl, written_quote _⟩ <|
    .cons ⟨rfl, written_quote _⟩ <|
    .cons ⟨rfl, written_optionalText _⟩ <|
    .cons ⟨rfl, written_arrayText (by decide) _⟩ <|
    .cons ⟨rfl, written_optionalText _⟩ <|
    .cons ⟨rfl, written_quote _⟩ .nil

/-! Project files in other layouts. -/

def mixedMembers : List (String × Json) := [
  ("target", .text (some "cpp")),
  ("note", .null),
  ("format", .object [("malformed", .text (some "skip"))] .closed),
  ("input", .text (some "😀"))]

theorem laysOut_mixedMembers :
    LaysOut { input := some "😀", format := { malformed := .skip }, target := .cpp }
      mixedMembers := by
  have format : SpecFormat.LaysOut { malformed := .skip } [("malformed", .text (some "skip"))] := by
    refine ⟨?_, by decide, ?_⟩
    · simp [SpecFormat.forms, memberForm, GivesText, MalformedPolicy.label]
    · simp [SpecFormat.forms, memberForm]
  refine ⟨?_, by decide, ?_⟩
  · simp [mixedMembers, forms, memberForm, GivesText, GivesOptional, Target.label, format]
  · simp [mixedMembers, forms, memberForm]

theorem hexDigit_digitChar {value : Nat} (small : value < 16) :
    HexDigit value (Nat.digitChar value) := ⟨small, .inl rfl⟩

theorem spelled_target : LexemeSpelled (.text (some "cpp")) "\"\\u0063pp\"".toList := by
  have letter : CharSpelled 'c' ['\\', 'u', '0', '0', '6', '3'] :=
    .unit (@UnitSpelled.digits 0 0 6 3 _ _ _ _ (hexDigit_digitChar (by decide))
      (hexDigit_digitChar (by decide)) (hexDigit_digitChar (by decide))
      (hexDigit_digitChar (by decide)))
  have plain : CharSpelled 'p' ['p'] := .plain (by decide) (by decide) (by decide)
  exact @LexemeSpelled.text "cpp" _ (.cons letter (.cons plain (.cons plain .nil)))

/-- A character beyond the basic plane by a surrogate pair, with hexadecimal digits of either
case. -/
theorem spelled_input : LexemeSpelled (.text (some "😀")) "\"\\uD83D\\ude00\"".toList := by
  have high : UnitSpelled (0xD800 + 0x3D) ['\\', 'u', 'D', '8', '3', 'D'] :=
    @UnitSpelled.digits 0xD 8 3 0xD _ _ _ _ ⟨by decide, .inr rfl⟩ (hexDigit_digitChar (by decide))
      (hexDigit_digitChar (by decide)) ⟨by decide, .inr rfl⟩
  have low : UnitSpelled (0xDC00 + 0x200) ['\\', 'u', 'd', 'e', '0', '0'] :=
    @UnitSpelled.digits 0xD 0xE 0 0 _ _ _ _ (hexDigit_digitChar (by decide))
      (hexDigit_digitChar (by decide)) (hexDigit_digitChar (by decide))
      (hexDigit_digitChar (by decide))
  exact @LexemeSpelled.text "😀" _
    (.cons (.pair high low (by decide) (by decide) (by decide)) .nil)

theorem laid_quote (content : String) : Laid [.text (some content)] (quote content).toList :=
  .lexeme_text (quote_spelled content)

theorem laid_null : Laid [.null] ['n', 'u', 'l', 'l'] := .single .null rfl

theorem laid_openBrace : Laid [.openBrace] ['\x7b'] := .single .openBrace rfl

theorem laid_closeBrace : Laid [.closeBrace] ['\x7d'] := .single .closeBrace rfl

theorem laid_colon : Laid [.colon] [':'] := .single .colon rfl

theorem laid_comma : Laid [.comma] [','] := .single .comma rfl

theorem written_mixedMembers : Written (.object mixedMembers .closed)
    ("\x7b\"target\":\"\\u0063pp\" ,\"note\":null,\n\"format\":\x7b\"malformed\":\"skip\"\x7d"
      ++ ",\"input\":\"\\uD83D\\ude00\"\x7d") := by
  refine ⟨_, .object (.member "target" (.text "cpp") (.member "note" .null (.member "format"
    (.object (.lastMember "malformed" (.text "skip"))) (.lastMember "input" (.text "😀"))))), ?_⟩
  have spaced : Laid [.text (some "cpp")] ("\"\\u0063pp\"".toList ++ [' ']) :=
    .single spelled_target rfl
  have line : Laid [.comma] [',', '\n'] := .single .comma rfl
  exact laid_openBrace.append <|
    (laid_quote "target").append <| laid_colon.append <| spaced.append <| laid_comma.append <|
    (laid_quote "note").append <| laid_colon.append <| laid_null.append <| line.append <|
    (laid_quote "format").append <| laid_colon.append <| laid_openBrace.append <|
    (laid_quote "malformed").append <| laid_colon.append <| (laid_quote "skip").append <|
    laid_closeBrace.append <| laid_comma.append <|
    (laid_quote "input").append <| laid_colon.append <| (Laid.lexeme_text spelled_input).append
    laid_closeBrace

theorem written_repeated : Written
    (.object [("input", .null), ("target", .text (some "c")), ("input", .text (some "a"))] .closed)
    "\x7b\"input\":null,\"target\":\"c\",\"input\":\"a\"\x7d" := by
  refine ⟨_, .object (.member "input" .null (.member "target" (.text "c")
    (.lastMember "input" (.text "a")))), ?_⟩
  exact laid_openBrace.append <|
    (laid_quote "input").append <| laid_colon.append <| laid_null.append <| laid_comma.append <|
    (laid_quote "target").append <| laid_colon.append <| (laid_quote "c").append <|
    laid_comma.append <|
    (laid_quote "input").append <| laid_colon.append <| (laid_quote "a").append laid_closeBrace

/-- Project files are read back from every layout, and from none that gives a field twice. All
settings have a layout, for one the project file that is written for them. -/
theorem parse_layouts :
    (∀ settings members content, LaysOut settings members →
      Written (.object members .closed) content → parse content = .ok settings) ∧
    (∀ members content, Repeats members → Written (.object members .closed) content →
      ∃ error, parse content = .error error) ∧
    ∀ settings, ∃ members, LaysOut settings members ∧
      Written (.object members .closed) (projectText settings) := by
  refine ⟨fun settings members content laysOut written => ?_,
    fun members content repeats written => ?_,
    fun settings => ⟨_, laysOut_projectMembers settings, written_projectText settings⟩⟩
  · rw [parse_of_written written]
    exact decodeRecord_of_laysOut follows laysOut
  · rw [parse_of_written written]
    cases decoded : decode (.object members .closed) with
    | error error => exact ⟨error, rfl⟩
    | ok settings => exact absurd repeats (not_repeats_of_decode decoded)

theorem parse_mixedMembers :
    parse ("\x7b\"target\":\"\\u0063pp\" ,\"note\":null,\n\"format\":\x7b\"malformed\":\"skip\"\x7d"
        ++ ",\"input\":\"\\uD83D\\ude00\"\x7d") =
      .ok { input := some "😀", format := { malformed := .skip }, target := .cpp } ∧
    ∃ error, parse "\x7b\"input\":null,\"target\":\"c\",\"input\":\"a\"\x7d" = .error error :=
  ⟨parse_layouts.1 _ _ _ laysOut_mixedMembers written_mixedMembers,
    parse_layouts.2.1 _ _ (.inl (by decide)) written_repeated⟩

end Settings

end TokenTables
