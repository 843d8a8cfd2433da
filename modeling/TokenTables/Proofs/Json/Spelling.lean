import Mathlib.Tactic.Common
import TokenTables.Json.Lexeme

/-!
How lexemes are written. A character of a string can be given as it is, by a letter, by its code or,
beyond the basic plane, by the two halves of a surrogate pair; any lexeme can have white space
before it. Whichever way is taken, the lexemes are read back.
-/

namespace TokenTables

namespace Json

/-! The ways to write. -/

def shortEscapes : List (Char × Char) :=
  [('"', '"'), ('\\', '\\'), ('/', '/'), ('b', '\x08'), ('f', '\x0c'), ('n', '\n'), ('r', '\r'),
    ('t', '\t')]

def HexDigit (value : Nat) (digit : Char) : Prop :=
  value < 16 ∧ (digit = Nat.digitChar value ∨ digit = (Nat.digitChar value).toUpper)

inductive UnitSpelled : Nat → List Char → Prop
  | digits {a b c d : Nat} {first second third fourth : Char} (one : HexDigit a first)
      (two : HexDigit b second) (three : HexDigit c third) (four : HexDigit d fourth) :
      UnitSpelled (0x1000 * a + 0x100 * b + 0x10 * c + d)
        ['\\', 'u', first, second, third, fourth]

inductive CharSpelled (c : Char) : List Char → Prop
  | plain (printed : 0x20 ≤ c.toNat) (noQuote : c ≠ '"') (noBackslash : c ≠ '\\') :
      CharSpelled c [c]
  | short {letter : Char} (listed : (letter, c) ∈ shortEscapes) : CharSpelled c ['\\', letter]
  | unit {chars : List Char} (unit : UnitSpelled c.toNat chars) : CharSpelled c chars
  | pair {high low : Nat} {chars others : List Char} (first : UnitSpelled (0xD800 + high) chars)
      (second : UnitSpelled (0xDC00 + low) others) (highBits : high < 0x400)
      (lowBits : low < 0x400) (code : c.toNat = 0x10000 + 0x400 * high + low) :
      CharSpelled c (chars ++ others)

/-- What may be written for a lexeme. Numbers are left out: settings hold none. -/
inductive LexemeSpelled : Lexeme → List Char → Prop
  | openBrace : LexemeSpelled .openBrace ['\x7b']
  | closeBrace : LexemeSpelled .closeBrace ['\x7d']
  | openBracket : LexemeSpelled .openBracket ['[']
  | closeBracket : LexemeSpelled .closeBracket [']']
  | colon : LexemeSpelled .colon [':']
  | comma : LexemeSpelled .comma [',']
  | null : LexemeSpelled .null ['n', 'u', 'l', 'l']
  | true : LexemeSpelled (.boolean true) ['t', 'r', 'u', 'e']
  | false : LexemeSpelled (.boolean false) ['f', 'a', 'l', 's', 'e']
  | text {content : String} {parts : List (List Char)}
      (spelled : List.Forall₂ CharSpelled content.toList parts) :
      LexemeSpelled (.text (some content)) ('"' :: parts.flatten ++ ['"'])

def spaces : List Char := [' ', '\t', '\n', '\r']

/-- A text with these lexemes, and with white space around them. -/
inductive Laid : List Lexeme → List Char → Prop
  | blank {space : List Char} (blank : space.all spaces.contains) : Laid [] space
  | lexeme {space chars others : List Char} {lexeme : Lexeme} {rest : List Lexeme}
      (blank : space.all spaces.contains) (spelled : LexemeSpelled lexeme chars)
      (later : Laid rest others) :
      Laid (lexeme :: rest) (space ++ chars ++ others)

namespace Laid

theorem spaced {space chars : List Char} {lexemes : List Lexeme} (blank : space.all spaces.contains)
    (laid : Laid lexemes chars) : Laid lexemes (space ++ chars) := by
  cases laid with
  | blank others =>
    exact .blank (by rw [List.all_append, blank, others]; rfl)
  | @lexeme others chars later _ _ between spelled rest =>
    rw [List.append_assoc, ← List.append_assoc, ← List.append_assoc]
    exact .lexeme (by rw [List.all_append, blank, between]; rfl) spelled rest

theorem append {first second : List Char} {lexemes others : List Lexeme}
    (laid : Laid lexemes first) (later : Laid others second) :
    Laid (lexemes ++ others) (first ++ second) := by
  induction laid with
  | blank blank => exact later.spaced blank
  | lexeme blank spelled _ ih =>
    rw [List.append_assoc]
    exact .lexeme blank spelled ih

theorem single {lexeme : Lexeme} {chars space : List Char} (spelled : LexemeSpelled lexeme chars)
    (blank : space.all spaces.contains) : Laid [lexeme] (chars ++ space) := by
  have laid : Laid [lexeme] ([] ++ chars ++ space) := .lexeme rfl spelled (.blank blank)
  exact laid

theorem append_text {first second : String} {lexemes others : List Lexeme}
    (laid : Laid lexemes first.toList) (later : Laid others second.toList) :
    Laid (lexemes ++ others) (first ++ second).toList := by
  rw [String.toList_append]
  exact laid.append later

end Laid

/-! Strings are read back. -/

theorem hexValue?_of_hexDigit {value : Nat} {digit : Char} (hex : HexDigit value digit) :
    hexValue? digit = some value := by
  have all : ∀ value < 16, hexValue? (Nat.digitChar value) = some value ∧
      hexValue? (Nat.digitChar value).toUpper = some value := by decide
  obtain ⟨small, rfl | rfl⟩ := hex
  · exact (all value small).1
  · exact (all value small).2

def prepend (pieces : List Piece) :
    Option (List Piece × List Char) → Option (List Piece × List Char) :=
  Option.map fun (later, after) => (pieces ++ later, after)

theorem consPiece_some (piece : Piece) (later : Option (List Piece × List Char)) :
    consPiece (some piece) later = prepend [piece] later := by
  cases later <;> rfl

theorem prepend_prepend (first second : List Piece) (later : Option (List Piece × List Char)) :
    prepend first (prepend second later) = prepend (first ++ second) later := by
  cases later with
  | none => rfl
  | some later =>
    show some (first ++ (second ++ later.1), later.2) = some (first ++ second ++ later.1, later.2)
    rw [List.append_assoc]

theorem readPieces_unit {unit : Nat} {chars : List Char} (spelled : UnitSpelled unit chars)
    (rest : List Char) :
    readPieces (chars ++ rest) = prepend [pieceOfUnit unit] (readPieces rest) := by
  obtain @⟨a, b, c, d, first, second, third, fourth, one, two, three, four⟩ := spelled
  have piece : unicodePiece? first second third fourth =
      some (pieceOfUnit (0x1000 * a + 0x100 * b + 0x10 * c + d)) := by
    have value : ((a * 16 + b) * 16 + c) * 16 + d = 0x1000 * a + 0x100 * b + 0x10 * c + d := by
      omega
    simp only [unicodePiece?, hexValue?_of_hexDigit one, hexValue?_of_hexDigit two,
      hexValue?_of_hexDigit three, hexValue?_of_hexDigit four, Option.bind_eq_bind,
      Option.bind_some, Option.pure_def, value]
  rw [← consPiece_some, ← piece]
  rfl

theorem readPieces_short {letter c : Char} (listed : (letter, c) ∈ shortEscapes)
    (rest : List Char) :
    readPieces ('\\' :: letter :: rest) = prepend [.character c] (readPieces rest) := by
  rw [← consPiece_some]
  simp only [shortEscapes, List.mem_cons, Prod.mk.injEq, List.not_mem_nil, or_false] at listed
  rcases listed with ⟨rfl, rfl⟩ | ⟨rfl, rfl⟩ | ⟨rfl, rfl⟩ | ⟨rfl, rfl⟩ | ⟨rfl, rfl⟩ | ⟨rfl, rfl⟩ |
    ⟨rfl, rfl⟩ | ⟨rfl, rfl⟩ <;> rfl

theorem readPieces_plain {c : Char} (printed : 0x20 ≤ c.toNat) (noQuote : c ≠ '"')
    (noBackslash : c ≠ '\\') (rest : List Char) :
    readPieces (c :: rest) = prepend [.character c] (readPieces rest) := by
  rw [← consPiece_some, readPieces, if_neg (by omega)]
  · exact noQuote
  · exact fun _ _ _ _ _ same _ => noBackslash same
  · exact fun _ _ same _ => noBackslash same

theorem not_surrogate (c : Char) : ¬ (isHigh c.toNat || isLow c.toNat) := by
  have valid := c.valid
  have value : c.toNat = c.val.toNat := rfl
  simp only [UInt32.isValidChar, Nat.isValidChar] at valid
  simp only [isHigh, isLow, Bool.or_eq_true, Bool.and_eq_true, decide_eq_true_eq]
  omega

theorem isHigh_upper {high : Nat} (small : high < 0x400) : isHigh (0xD800 + high) := by
  simp only [isHigh, Bool.and_eq_true, decide_eq_true_eq]
  omega

theorem isLow_lower {low : Nat} (small : low < 0x400) : isLow (0xDC00 + low) := by
  simp only [isLow, Bool.and_eq_true, decide_eq_true_eq]
  omega

/-- A character is read as pieces that join to it. -/
theorem readPieces_spelled {c : Char} {chars : List Char} (spelled : CharSpelled c chars) :
    ∃ pieces, (∀ rest, readPieces (chars ++ rest) = prepend pieces (readPieces rest)) ∧
      ∀ later, joinPieces (pieces ++ later) = (joinPieces later).map (c :: ·) := by
  cases spelled with
  | plain printed noQuote noBackslash =>
    exact ⟨[.character c], readPieces_plain printed noQuote noBackslash, fun _ => rfl⟩
  | short listed => exact ⟨[.character c], readPieces_short listed, fun _ => rfl⟩
  | unit unit =>
    have whole : pieceOfUnit c.toNat = .character c := by
      rw [pieceOfUnit, if_neg (not_surrogate c), Char.ofNat_toNat]
    exact ⟨[.character c], whole ▸ readPieces_unit unit, fun _ => rfl⟩
  | @pair high low chars others first second highBits lowBits code =>
    -- The halves are two pieces, and only joining them gives the character.
    have upper := isHigh_upper highBits
    have lower := isLow_lower lowBits
    refine ⟨[.half (0xD800 + high), .half (0xDC00 + low)], fun rest => ?_, fun later => ?_⟩
    · rw [List.append_assoc, readPieces_unit first, readPieces_unit second, prepend_prepend,
        pieceOfUnit, pieceOfUnit, if_pos (by rw [upper]; rfl), if_pos (by rw [lower, Bool.or_true])]
      rfl
    · have joined : 0x10000 + (0xD800 + high - 0xD800) * 0x400 + (0xDC00 + low - 0xDC00) =
          c.toNat := by omega
      show joinPieces (.half (0xD800 + high) :: .half (0xDC00 + low) :: later) = _
      rw [joinPieces, upper, lower, joined, Char.ofNat_toNat]
      rfl

theorem readPieces_string {content : List Char} {parts : List (List Char)}
    (spelled : List.Forall₂ CharSpelled content parts) :
    ∃ pieces, (∀ rest, readPieces (parts.flatten ++ '"' :: rest) = some (pieces, rest)) ∧
      joinPieces pieces = some content := by
  induction spelled with
  | nil => exact ⟨[], fun _ => rfl, rfl⟩
  | cons char _ ih =>
    obtain ⟨first, readFirst, joinFirst⟩ := readPieces_spelled char
    obtain ⟨later, readLater, joinLater⟩ := ih
    refine ⟨first ++ later, fun rest => ?_, ?_⟩
    · rw [List.flatten_cons, List.append_assoc, readFirst, readLater]
      rfl
    · rw [joinFirst, joinLater]
      rfl

/-! Lexemes are read back. -/

theorem readLexeme_spelled {lexeme : Lexeme} {chars : List Char}
    (spelled : LexemeSpelled lexeme chars) (rest : List Char) :
    readLexeme (chars ++ rest) = some (lexeme, rest) := by
  cases spelled with
  | text parts =>
    obtain ⟨pieces, read, joined⟩ := readPieces_string parts
    rw [List.cons_append, List.cons_append, List.append_assoc, List.singleton_append, readLexeme,
      read]
    show some (Lexeme.text ((joinPieces pieces).map String.ofList), rest) = _
    rw [joined, Option.map_some, String.ofList_toList]
  | _ => rfl

theorem exists_cons_of_spelled {lexeme : Lexeme} {chars : List Char}
    (spelled : LexemeSpelled lexeme chars) :
    ∃ first rest, chars = first :: rest ∧ isSpace first = false := by
  cases spelled <;> exact ⟨_, _, rfl, rfl⟩

/-- The recursion of the lexer, with white space and the lexeme after it given. -/
theorem lexemes_cons {input text after : List Char} {lexeme : Lexeme}
    (start : input.dropWhile isSpace = text) (read : readLexeme text = some (lexeme, after)) :
    lexemes input = lexeme :: lexemes after := by
  rw [lexemes]
  split
  next none =>
    rw [← start, none] at read
    contradiction
  next first rest found =>
    rw [← start, found] at read
    split
    next other remaining again =>
      rw [again] at read
      cases read
      rfl
    next nothing =>
      rw [nothing] at read
      contradiction

theorem dropWhile_blank {space : List Char} (blank : space.all spaces.contains) (rest : List Char) :
    (space ++ rest).dropWhile isSpace = rest.dropWhile isSpace := by
  refine List.dropWhile_append_of_pos fun c member => ?_
  have listed := List.contains_iff_mem.1 (List.all_eq_true.1 blank c member)
  simp only [spaces, List.mem_cons, List.not_mem_nil, or_false] at listed
  rcases listed with rfl | rfl | rfl | rfl <;> rfl

/-- The lexemes of a text are those that it was written for. -/
theorem lexemes_of_laid {written : List Lexeme} {chars : List Char} (laid : Laid written chars) :
    lexemes chars = written := by
  induction laid with
  | @blank space blank =>
    have none : space.dropWhile isSpace = [] := by
      have dropped := dropWhile_blank blank []
      rwa [List.append_nil] at dropped
    rw [lexemes]
    split
    next => rfl
    next found =>
      rw [none] at found
      contradiction
  | @lexeme space chars others lexeme rest blank spelled _ ih =>
    obtain ⟨first, after, rfl, solid⟩ := exists_cons_of_spelled spelled
    have start : (space ++ (first :: after) ++ others).dropWhile isSpace =
        first :: after ++ others := by
      rw [List.append_assoc, dropWhile_blank blank, List.cons_append,
        List.dropWhile_cons_of_neg (by rw [solid]; decide)]
    rw [lexemes_cons start (readLexeme_spelled spelled others), ih]

end Json

end TokenTables
