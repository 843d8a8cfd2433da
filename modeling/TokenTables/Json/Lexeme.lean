import TokenTables.Json.Number

/-!
The lexemes of a JSON text. Where the text holds no lexeme, the list ends with a broken one, so
that a reader meets it when it has used all that stands before it. A string may name the two
halves of a surrogate pair by separate escapes; a half without its other half makes the string
unreadable, but it is still one lexeme.
-/

namespace TokenTables

namespace Json

/-- One element of a string: a character, or a half of a surrogate pair. -/
inductive Piece
  | character (c : Char)
  | half (unit : Nat)
  deriving DecidableEq, Repr

inductive Lexeme
  | openBrace
  | closeBrace
  | openBracket
  | closeBracket
  | colon
  | comma
  | null
  | boolean (value : Bool)
  | number (value : Number)
  | text (content : Option String)
  | broken
  deriving DecidableEq, Repr

def isHigh (unit : Nat) : Bool := 0xD800 ≤ unit && unit < 0xDC00

def isLow (unit : Nat) : Bool := 0xDC00 ≤ unit && unit < 0xE000

def hexValue? (c : Char) : Option Nat :=
  if c.isDigit then some (c.toNat - '0'.toNat)
  else if 'a' ≤ c ∧ c ≤ 'f' then some (c.toNat - 'a'.toNat + 10)
  else if 'A' ≤ c ∧ c ≤ 'F' then some (c.toNat - 'A'.toNat + 10)
  else none

def pieceOfUnit (unit : Nat) : Piece :=
  if isHigh unit || isLow unit then .half unit else .character (Char.ofNat unit)

def unicodePiece? (first second third fourth : Char) : Option Piece := do
  let first ← hexValue? first
  let second ← hexValue? second
  let third ← hexValue? third
  let fourth ← hexValue? fourth
  return pieceOfUnit (((first * 16 + second) * 16 + third) * 16 + fourth)

def shortEscape? : Char → Option Char
  | '"' => some '"'
  | '\\' => some '\\'
  | '/' => some '/'
  | 'b' => some '\x08'
  | 'f' => some '\x0c'
  | 'n' => some '\n'
  | 'r' => some '\r'
  | 't' => some '\t'
  | _ => none

def consPiece (piece : Option Piece) (later : Option (List Piece × List Char)) :
    Option (List Piece × List Char) := do
  let piece ← piece
  let (pieces, after) ← later
  return (piece :: pieces, after)

def readPieces : List Char → Option (List Piece × List Char)
  | [] => none
  | '"' :: rest => some ([], rest)
  | '\\' :: 'u' :: first :: second :: third :: fourth :: rest =>
    consPiece (unicodePiece? first second third fourth) (readPieces rest)
  | '\\' :: escaped :: rest =>
    consPiece ((shortEscape? escaped).map .character) (readPieces rest)
  | c :: rest => if c.toNat < 0x20 then none else consPiece (some (.character c)) (readPieces rest)

theorem consPiece_eq_some {piece : Option Piece} {later : Option (List Piece × List Char)}
    {pieces : List Piece} {after : List Char} (read : consPiece piece later = some (pieces, after)) :
    ∃ others, later = some (others, after) := by
  cases piece with
  | none => simp [consPiece] at read
  | some piece =>
    cases later with
    | none => simp [consPiece] at read
    | some later =>
      obtain ⟨others, rest⟩ := later
      simp only [consPiece, Option.bind_eq_bind, Option.bind_some, Option.pure_def,
        Option.some.injEq, Prod.mk.injEq] at read
      exact ⟨others, by rw [read.2]⟩

theorem readPieces_shorter {input after : List Char} {pieces : List Piece}
    (closed : readPieces input = some (pieces, after)) : after.length < input.length := by
  fun_induction readPieces input generalizing pieces with
  | case1 => simp at closed
  | case2 rest =>
    simp only [Option.some.injEq, Prod.mk.injEq] at closed
    simp [← closed.2]
  | case3 first second third fourth rest ih =>
    obtain ⟨others, found⟩ := consPiece_eq_some closed
    have shorter := ih found
    simp only [List.length_cons]
    omega
  | case4 escaped rest _ ih =>
    obtain ⟨others, found⟩ := consPiece_eq_some closed
    have shorter := ih found
    simp only [List.length_cons]
    omega
  | case5 => simp at closed
  | case6 c rest _ _ _ _ ih =>
    obtain ⟨others, found⟩ := consPiece_eq_some closed
    have shorter := ih found
    simp only [List.length_cons]
    omega

/-- Joins the halves of surrogate pairs. Fails at a half that stands alone. -/
def joinPieces : List Piece → Option (List Char)
  | [] => some []
  | .character c :: rest => (joinPieces rest).map (c :: ·)
  | .half high :: .half low :: rest =>
    if isHigh high && isLow low then
      (joinPieces rest).map
        (Char.ofNat (0x10000 + (high - 0xD800) * 0x400 + (low - 0xDC00)) :: ·)
    else none
  | .half _ :: _ => none

def readFraction : List Char → Option (Option (List Char) × List Char)
  | '.' :: rest =>
    if (rest.takeWhile Char.isDigit).isEmpty then none
    else some (some (rest.takeWhile Char.isDigit), rest.dropWhile Char.isDigit)
  | rest => some (none, rest)

def readExponentDigits (negative : Bool) (input : List Char) :
    Option (Option (Bool × List Char) × List Char) :=
  if (input.takeWhile Char.isDigit).isEmpty then none
  else some (some (negative, input.takeWhile Char.isDigit), input.dropWhile Char.isDigit)

def readSignedExponent : List Char → Option (Option (Bool × List Char) × List Char)
  | '-' :: rest => readExponentDigits true rest
  | '+' :: rest => readExponentDigits false rest
  | rest => readExponentDigits false rest

def readExponent : List Char → Option (Option (Bool × List Char) × List Char)
  | 'e' :: rest => readSignedExponent rest
  | 'E' :: rest => readSignedExponent rest
  | rest => some (none, rest)

def readUnsigned (negative : Bool) (input : List Char) : Option (Number × List Char) := do
  let whole := input.takeWhile Char.isDigit
  if whole.isEmpty || (whole.head? = some '0' && 1 < whole.length) then none
  let (fraction, afterFraction) ← readFraction (input.dropWhile Char.isDigit)
  let (exponent, after) ← readExponent afterFraction
  return (⟨negative, whole, fraction, exponent⟩, after)

theorem dropDigits_length_le (input : List Char) :
    (input.dropWhile Char.isDigit).length ≤ input.length :=
  (List.dropWhile_sublist Char.isDigit).length_le

theorem readFraction_not_longer {input after : List Char} {fraction : Option (List Char)}
    (read : readFraction input = some (fraction, after)) : after.length ≤ input.length := by
  unfold readFraction at read
  split at read
  next rest =>
    split at read
    · simp at read
    · simp only [Option.some.injEq, Prod.mk.injEq] at read
      have dropped := dropDigits_length_le rest
      simp only [← read.2, List.length_cons]
      omega
  next =>
    simp only [Option.some.injEq, Prod.mk.injEq] at read
    simp [read.2]

theorem readExponentDigits_not_longer {negative : Bool} {input after : List Char}
    {exponent : Option (Bool × List Char)}
    (read : readExponentDigits negative input = some (exponent, after)) :
    after.length ≤ input.length := by
  unfold readExponentDigits at read
  split at read
  · simp at read
  · simp only [Option.some.injEq, Prod.mk.injEq] at read
    exact read.2 ▸ dropDigits_length_le input

theorem readExponent_not_longer {input after : List Char} {exponent : Option (Bool × List Char)}
    (read : readExponent input = some (exponent, after)) : after.length ≤ input.length := by
  have signed : ∀ rest, readSignedExponent rest = some (exponent, after) →
      after.length ≤ rest.length := by
    intro rest found
    unfold readSignedExponent at found
    split at found
    · exact Nat.le_succ_of_le (readExponentDigits_not_longer found)
    · exact Nat.le_succ_of_le (readExponentDigits_not_longer found)
    · exact readExponentDigits_not_longer found
  unfold readExponent at read
  split at read
  · exact Nat.le_succ_of_le (signed _ read)
  · exact Nat.le_succ_of_le (signed _ read)
  · simp only [Option.some.injEq, Prod.mk.injEq] at read
    simp [read.2]

theorem readUnsigned_shorter {negative : Bool} {input after : List Char} {number : Number}
    (read : readUnsigned negative input = some (number, after)) :
    after.length < input.length := by
  unfold readUnsigned at read
  simp only [Option.bind_eq_bind] at read
  split at read
  · simp at read
  next wellFormed =>
    obtain ⟨⟨fraction, afterFraction⟩, readPoint, read⟩ := Option.bind_eq_some_iff.1 read
    obtain ⟨⟨exponent, afterExponent⟩, readPower, read⟩ := Option.bind_eq_some_iff.1 read
    simp only [Option.pure_def, Option.some.injEq, Prod.mk.injEq] at read
    have first := readFraction_not_longer readPoint
    have second : afterExponent.length ≤ afterFraction.length :=
      readExponent_not_longer readPower
    have whole : input.takeWhile Char.isDigit ≠ [] := by
      intro none
      simp [none] at wellFormed
    have counted := List.length_pos_iff.2 whole
    have parts : input.length =
        (input.takeWhile Char.isDigit).length + (input.dropWhile Char.isDigit).length := by
      rw [← List.length_append, List.takeWhile_append_dropWhile]
    rw [← read.2]
    omega

def readNumber : List Char → Option (Number × List Char)
  | '-' :: rest => readUnsigned true rest
  | input => readUnsigned false input

theorem readNumber_shorter {input after : List Char} {number : Number}
    (read : readNumber input = some (number, after)) : after.length < input.length := by
  unfold readNumber at read
  split at read
  · exact Nat.lt_succ_of_lt (readUnsigned_shorter read)
  · exact readUnsigned_shorter read

def isSpace (c : Char) : Bool := c == ' ' || c == '\n' || c == '\t' || c == '\r'

def readLexeme : List Char → Option (Lexeme × List Char)
  | '\x7b' :: rest => some (.openBrace, rest)
  | '\x7d' :: rest => some (.closeBrace, rest)
  | '[' :: rest => some (.openBracket, rest)
  | ']' :: rest => some (.closeBracket, rest)
  | ':' :: rest => some (.colon, rest)
  | ',' :: rest => some (.comma, rest)
  | 'n' :: 'u' :: 'l' :: 'l' :: rest => some (.null, rest)
  | 't' :: 'r' :: 'u' :: 'e' :: rest => some (.boolean true, rest)
  | 'f' :: 'a' :: 'l' :: 's' :: 'e' :: rest => some (.boolean false, rest)
  | '"' :: rest => (readPieces rest).map fun (pieces, after) =>
    (.text ((joinPieces pieces).map String.ofList), after)
  | input => (readNumber input).map fun (number, after) => (.number number, after)

theorem readLexeme_shorter {input after : List Char} {lexeme : Lexeme}
    (read : readLexeme input = some (lexeme, after)) : after.length < input.length := by
  unfold readLexeme at read
  split at read
  case h_10 rest =>
    obtain ⟨⟨pieces, remaining⟩, closed, same⟩ := Option.map_eq_some_iff.1 read
    cases same
    exact Nat.lt_succ_of_lt (readPieces_shorter closed)
  case h_11 =>
    obtain ⟨⟨number, remaining⟩, found, same⟩ := Option.map_eq_some_iff.1 read
    cases same
    exact readNumber_shorter found
  all_goals
    simp only [Option.some.injEq, Prod.mk.injEq] at read
    simp only [← read.2, List.length_cons]
    omega

def lexemes (input : List Char) : List Lexeme :=
  match _start : input.dropWhile isSpace with
  | [] => []
  | first :: rest =>
    match _read : readLexeme (first :: rest) with
    | some (lexeme, after) => lexeme :: lexemes after
    | none => [.broken]
termination_by input.length
decreasing_by
  have dropped := (List.dropWhile_sublist (p := isSpace) (l := input)).length_le
  have shorter := readLexeme_shorter _read
  rw [_start] at dropped
  omega

end Json

end TokenTables
