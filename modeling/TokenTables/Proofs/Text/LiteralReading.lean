import Mathlib.Tactic.Common
import TokenTables.Text.Literal

/-!
Reading literals by the rules of C. A backslash and one of a few characters stands for one byte; a
backslash and octal digits, as many as there are but three at most, stands for the byte with that
value. Reading what was written for a byte gives the byte back, if the text after the zero byte
does not go on with an octal digit: the zero byte alone is written with fewer digits than three.
-/

namespace TokenTables

namespace Literal

def namedEscape? : Char → Option UInt8
  | '\\' => some 92
  | '"' => some 34
  | '\'' => some 39
  | 'n' => some 10
  | 't' => some 9
  | 'r' => some 13
  | _ => none

def octalValue? (c : Char) : Option Nat :=
  if '0'.toNat ≤ c.toNat ∧ c.toNat ≤ '7'.toNat then some (c.toNat - '0'.toNat) else none

/-- Takes as many octal digits as there are, but no more than the first argument says. -/
def readOctal : Nat → Nat → List Char → Nat × List Char
  | more + 1, value, c :: rest =>
    match octalValue? c with
    | some digit => readOctal more (8 * value + digit) rest
    | none => (value, c :: rest)
  | _, value, rest => (value, rest)

def readOctalEscape (first : Char) (rest : List Char) : Option (UInt8 × List Char) :=
  (octalValue? first).bind fun digit =>
    let (value, rest) := readOctal 2 digit rest
    if value < UInt8.size then some (UInt8.ofNat value, rest) else none

/-- The first byte of the contents of a literal between quotes, and the contents after it. A quote
that is not escaped is no content. -/
def readByte (quote : Char) : List Char → Option (UInt8 × List Char)
  | [] => none
  | c :: rest =>
    if c = '\\' then
      match rest with
      | [] => none
      | escaped :: rest =>
        match namedEscape? escaped with
        | some byte => some (byte, rest)
        | none => readOctalEscape escaped rest
    else if c ≠ quote ∧ 0x20 ≤ c.toNat ∧ c.toNat < 0x7F then some (UInt8.ofNat c.toNat, rest)
    else none

def readCharacter : List Char → Option (UInt8 × List Char)
  | '\'' :: rest =>
    match readByte '\'' rest with
    | some (byte, '\'' :: rest) => some (byte, rest)
    | _ => none
  | _ => none

theorem octalDigit_read (value : Nat) :
    octalValue? (octalDigit value) = some (value % 8) ∧ namedEscape? (octalDigit value) = none := by
  have each : ∀ digit : Fin 8,
      octalValue? (Char.ofNat ('0'.toNat + digit)) = some digit.val ∧
        namedEscape? (Char.ofNat ('0'.toNat + digit)) = none := by decide
  exact each ⟨value % 8, Nat.mod_lt _ (by decide)⟩

theorem readByte_octalEscape (quote : Char) (byte : UInt8) (rest : List Char) :
    readByte quote (octalEscape byte ++ rest) = some (byte, rest) := by
  have small := byte.toNat_lt
  have digits : 8 * (8 * (byte.toNat / 64 % 8) + byte.toNat / 8 % 8) + byte.toNat % 8 =
      byte.toNat := by omega
  simp only [octalEscape, List.cons_append, List.nil_append, readByte, if_true,
    (octalDigit_read _).2, readOctalEscape, (octalDigit_read _).1, Option.bind_some, readOctal,
    digits, UInt8.ofNat_toNat]
  rw [if_pos small]

theorem ofUInt8_toNat (byte : UInt8) : (Char.ofUInt8 byte).toNat = byte.toNat := rfl

theorem eq_of_ofUInt8 {byte : UInt8} {c : Char} (same : Char.ofUInt8 byte = c) :
    byte = UInt8.ofNat c.toNat := by
  rw [← same, ofUInt8_toNat, UInt8.ofNat_toNat]

/-- Reading undoes writing, before any text that does not prolong the escape of the zero byte. -/
theorem readByte_escape {quote : Char}
    (quoted : namedEscape? quote = some (UInt8.ofNat quote.toNat)) (byte : UInt8)
    {rest : List Char} (apart : byte = 0 → rest.head?.bind octalValue? = none) :
    readByte quote (escape quote byte ++ rest) = some (byte, rest) := by
  unfold escape
  split
  next same => rw [eq_of_ofUInt8 same]; rfl
  next same => rw [eq_of_ofUInt8 same]; rfl
  next same => rw [eq_of_ofUInt8 same]; rfl
  next same => rw [eq_of_ofUInt8 same]; rfl
  next same =>
    obtain rfl := eq_of_ofUInt8 same
    have stop := apart rfl
    have digits : readOctal 2 0 rest = (0, rest) := by
      cases rest with
      | nil => rfl
      | cons c rest =>
        rw [List.head?_cons, Option.bind_some] at stop
        simp only [readOctal, stop]
    have zero : octalValue? '0' = some 0 := by decide
    change readOctalEscape '0' rest = _
    rw [readOctalEscape, zero, Option.bind_some, digits]
    rfl
  next notBackslash _ _ _ _ =>
    split
    next same =>
      rw [eq_of_ofUInt8 same]
      simp [readByte, quoted]
    next notQuote =>
      split
      next => exact readByte_octalEscape quote byte rest
      next printable =>
        have plain : Char.ofUInt8 byte ≠ quote ∧ 0x20 ≤ (Char.ofUInt8 byte).toNat ∧
            (Char.ofUInt8 byte).toNat < 0x7F := by
          rw [ofUInt8_toNat]
          exact ⟨notQuote, by omega⟩
        simp only [List.cons_append, List.nil_append, readByte]
        rw [if_neg notBackslash, if_pos plain, ofUInt8_toNat, UInt8.ofNat_toNat]

theorem readCharacter_character (code : UInt8) (rest : List Char) :
    readCharacter ((character code).toList ++ rest) = some (code, rest) := by
  have byte : readByte '\'' (escape '\'' code ++ '\'' :: rest) = some (code, '\'' :: rest) :=
    readByte_escape (by decide) code fun _ => rfl
  have text : (character code).toList ++ rest = '\'' :: (escape '\'' code ++ '\'' :: rest) := by
    simp only [character, String.toList_ofList, List.cons_append, List.append_assoc,
      List.nil_append]
  simp only [text, readCharacter, byte]

/-! What literals are written with. -/

def Printable (c : Char) : Prop := 0x20 ≤ c.toNat ∧ c.toNat < 0x7F

instance : DecidablePred Printable := fun c =>
  inferInstanceAs (Decidable (0x20 ≤ c.toNat ∧ c.toNat < 0x7F))

theorem octalDigit_printable (value : Nat) : Printable (octalDigit value) := by
  have each : ∀ digit : Fin 8, Printable (Char.ofNat ('0'.toNat + digit)) := by decide
  exact each ⟨value % 8, Nat.mod_lt _ (by decide)⟩

theorem escape_printable {quote : Char} (printable : Printable quote) (byte : UInt8) :
    ∀ c ∈ escape quote byte, Printable c := by
  have backslash : Printable '\\' := by decide
  have named : ∀ c, Printable c → ∀ written ∈ ['\\', c], Printable written := by
    intro c following
    exact List.forall_mem_cons.2 ⟨backslash, List.forall_mem_singleton.2 following⟩
  unfold escape
  split
  next => exact named _ backslash
  next => exact named _ (by decide)
  next => exact named _ (by decide)
  next => exact named _ (by decide)
  next => exact named _ (by decide)
  next =>
    split
    next => exact named _ printable
    next =>
      split
      next =>
        simp only [octalEscape, List.forall_mem_cons]
        exact ⟨backslash, octalDigit_printable _, octalDigit_printable _, octalDigit_printable _,
          List.forall_mem_nil _⟩
      next plain =>
        rw [List.forall_mem_singleton, Printable, ofUInt8_toNat]
        omega

/-- No character code and no text can break the line of its literal. -/
theorem unbroken_of_printable {text : List Char} (printable : ∀ c ∈ text, Printable c) :
    '\n' ∉ text ∧ '\r' ∉ text := by
  have feed : ¬ Printable '\n' := by decide
  have back : ¬ Printable '\r' := by decide
  exact ⟨fun inside => feed (printable _ inside), fun inside => back (printable _ inside)⟩

theorem character_printable (code : UInt8) : ∀ c ∈ (character code).toList, Printable c := by
  have quote : Printable '\'' := by decide
  rw [character, String.toList_ofList, List.cons_append, List.forall_mem_cons,
    List.forall_mem_append]
  exact ⟨quote, escape_printable quote code, List.forall_mem_singleton.2 quote⟩

theorem character_unbroken (code : UInt8) :
    '\n' ∉ (character code).toList ∧ '\r' ∉ (character code).toList :=
  unbroken_of_printable (character_printable code)

theorem string_printable (text : String) : ∀ c ∈ (string text).toList, Printable c := by
  have quote : Printable '"' := by decide
  rw [string, String.toList_ofList, List.cons_append, List.forall_mem_cons,
    List.forall_mem_append, List.forall_mem_flatMap]
  exact ⟨quote, fun byte _ => escape_printable quote byte, List.forall_mem_singleton.2 quote⟩

theorem string_unbroken (text : String) :
    '\n' ∉ (string text).toList ∧ '\r' ∉ (string text).toList :=
  unbroken_of_printable (string_printable text)

end Literal

end TokenTables
